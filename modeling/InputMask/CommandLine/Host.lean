/-
  File:      InputMask/CommandLine/Host.lean
  Subject:   What the commands are built on: the system that they run on,
             and libraries that read and write for them.

  A command asks the system for one thing after the other, and the
  system answers in a monad of its own. So a command is the same whether
  it runs on the real system or on a world that is a value.
-/
import InputMask.CommandLine.Grammar
import InputMask.Inspect
import InputMask.Message
import InputMask.Preset.File
namespace InputMask

/-! ## 1. The system -/

/-- What commands ask of the system. A file that was opened for writing
    and the standard output take all that is written to them. -/
structure Host (m : Type → Type) where
  /-- Files that are open for writing. -/
  File : Type
  /-- The standard input to its end. -/
  readStdin : m (Except FileFault Text)
  /-- Whether there is a file at a path. -/
  isFile : Text → m Bool
  /-- The text of the file at a path. -/
  readFile : Text → m (Except FileFault Text)
  /-- An empty file made at a path; one that is there is emptied. -/
  create : Text → m (Except FileFault File)
  /-- A text written behind all that was written to a file. -/
  write : File → Text → m Unit
  /-- A text on the standard output. -/
  print : Text → m Unit
  /-- A message for whoever runs the program. -/
  tell : Severity → Text → m Unit
  /-- A text put on the clipboard; if that fails, why. -/
  copy : Text → m (Except Text Unit)

/-- The variables that a run looks at. -/
structure Variables where
  /-- The home directory. -/
  home : Option Text
  /-- The directory of configurations. -/
  configHome : Option Text
  /-- The preset file. -/
  presets : Option Text
  deriving DecidableEq, Repr

/-! ## 2. Libraries -/

/-- What is left to libraries: how arguments are read, which presets the
    text of a file holds, and how JSON and tables look. -/
structure Libraries where
  /-- The invocation that arguments ask for; the preset file may also be
      named by a variable. -/
  arguments : Option Text → List Text → Except CommandLine.Stop Invocation
  /-- The presets that a text holds, if it can be understood. -/
  presets : Text → Option (List Preset)
  /-- A JSON value as text. -/
  json : Json → Text
  /-- A table as text. -/
  table : Table → Text

/-- The libraries as they are here. -/
def Libraries.standard : Libraries := ⟨CommandLine.parse, Preset.ofText?, Json.write, Table.render⟩

/-! ## 3. Errors -/

/-- Why a command fails. -/
inductive RunError where
  /-- There is no configuration or there are no presets. -/
  | preset (cause : PresetError)
  /-- The input file, or without one the standard input, cannot be read. -/
  | input (path : Option Text) (fault : FileFault)
  /-- The script cannot be read. -/
  | script (cause : KeyScriptError)
  /-- Keys of the script were refused. -/
  | refusedKeys (refused total first : Nat)
  /-- The output file cannot be made. -/
  | output (path : Text) (fault : FileFault)
  deriving DecidableEq, Repr

/-- What is said of refused keys. -/
def refusedKeysMessage (refused total : Nat) : Text :=
  s!"{refused} of {total} keystrokes were rejected".toList

/-- The message of an error. -/
def RunError.message : RunError → Text
  | preset cause => cause.message
  | input (some path) fault =>
    "Failed to read input file: ".toList ++ path ++ ": ".toList ++ fault.message
  | input none fault => "Failed to read from stdin: ".toList ++ fault.message
  | script cause => cause.message.toList
  | refusedKeys refused total first =>
    refusedKeysMessage refused total ++ s!" (first at key {first}).".toList
  | output path fault =>
    "Failed to create output file: ".toList ++ path ++ ": ".toList ++ fault.message

end InputMask
