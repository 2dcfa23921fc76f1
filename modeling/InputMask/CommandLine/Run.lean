/-
  File:      InputMask/CommandLine/Run.lean
  Subject:   What a command line does to a world.

  A world is what a run can find and change: a disk, the standard input,
  and what was printed and told so far. It answers commands as a system
  does, and it is left as the last step of a run leaves it, whether the
  run succeeds or fails.
-/
import InputMask.CommandLine.Commands
namespace InputMask

/-! ## 1. Worlds -/

/-- What a run can find and change. -/
structure World where
  /-- The files. -/
  disk : Disk
  /-- What reading the standard input gives. -/
  stdin : Except FileFault Text
  /-- The text on the standard output. -/
  stdout : Text
  /-- The messages so far. -/
  messages : List (Severity × Text)

namespace World

/-- The world before a run. -/
def start (stdin : Except FileFault Text) (d : Disk) : World := ⟨d, stdin, [], []⟩

/-- The file that was made on a disk, and the world with that disk; a
    fault leaves the world as it is. -/
def created (w : World) : Except FileFault (Place × Disk) → Except FileFault Place × World
  | .ok (p, d) => (.ok p, { w with disk := d })
  | .error fault => (.error fault, w)

/-- How a world answers. A file that is open is known by its place;
    `clipboard` tells for each text whether it can be copied. -/
def host (clipboard : Text → Except Text Unit) : Host (StateM World) where
  File := Place
  readStdin := fun w => (w.stdin, w)
  isFile path := fun w => (w.disk.isFile path, w)
  readFile path := fun w => (w.disk.read path, w)
  create path := fun w => w.created (w.disk.create path)
  write p t := fun w => ((), { w with disk := w.disk.append p t })
  print t := fun w => ((), { w with stdout := w.stdout ++ t })
  tell severity t := fun w => ((), { w with messages := w.messages ++ [(severity, t)] })
  copy t := fun w => (clipboard t, w)

end World

/-! ## 2. Runs -/

/-- What a run shows when it is over. -/
structure Ending where
  /-- The exit code: zero for success. -/
  code : Nat
  /-- The text on the standard output. -/
  stdout : Text
  /-- The messages for the standard error output. -/
  messages : List (Severity × Text)
  deriving DecidableEq, Repr

/-- The text on the standard error output, with or without colour. -/
def Ending.stderr (o : Ending) (colour : Bool) : Text :=
  o.messages.flatMap fun (severity, message) => severity.line colour message

/-- How a run ends that leaves an exit code and a world, and its disk. -/
def World.ended (r : Nat × World) : Ending × Disk :=
  (⟨r.1, r.2.stdout, r.2.messages⟩, r.2.disk)

namespace CommandLine

/-- The run of a command line on a disk: how it ends, and the disk
    afterwards. -/
def runWith (l : Libraries) (clipboard : Text → Except Text Unit) (v : Variables)
    (args : List Text) (stdin : Except FileFault Text) (d : Disk) : Ending × Disk :=
  World.ended ((perform l (World.host clipboard) v args).run (World.start stdin d))

/-- What a program says that is built without a clipboard. -/
def noClipboard (_ : Text) : Except Text Unit :=
  .error "maskedit was built without the `clipboard` feature".toList

/-- The run of a command line with the libraries as they are here, and
    without a clipboard. -/
def run (v : Variables) (args : List Text) (stdin : Except FileFault Text) (d : Disk) :
    Ending × Disk :=
  runWith Libraries.standard noClipboard v args stdin d

end CommandLine

end InputMask
