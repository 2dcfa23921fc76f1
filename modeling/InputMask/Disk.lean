/-
  File:      InputMask/Disk.lean
  Subject:   Files and the paths that lead to them.

  A disk holds the files and directories that a program may meet. The
  place of a file is the row of names that leads to it from the root.
  A path starts at the root when it begins with a slash, and else in
  the working directory, so that paths that are spelled differently
  lead to one place. A file that is made is empty, and what is written
  goes behind what it holds; all other files stay as they are.
-/
import InputMask.FileFault
namespace InputMask

/-! ## 1. Places and paths -/

/-- What a file holds. -/
inductive Content where
  /-- A text. -/
  | text (t : Text)
  /-- Bytes that are not the encoding of a text. -/
  | bytes (b : List UInt8)
  deriving DecidableEq, Repr

/-- A place as the names that lead to it from the root, the last name
    first. -/
abbrev Place := List Text

namespace Place

/-- The root directory. -/
def root : Place := []

/-- The name for the directory above. -/
def above : Text := ['.', '.']

/-- The place to which a name leads from a place; nothing is above the
    root. -/
def enter (p : Place) (name : Text) : Place :=
  if name = ['.'] then p
  else if name = above then p.tail
  else name :: p

end Place

namespace Path

/-- A name as a list of names: none if it is empty. -/
def single (name : Text) : List Text := if name = [] then [] else [name]

/-- The names in a path; `name` stands in front of it, in its first
    name. -/
def namesFrom (name : Text) : Text → List Text
  | [] => single name
  | c :: t => if c = '/' then single name ++ namesFrom [] t else namesFrom (name ++ [c]) t

/-- The names in a path. -/
def names (path : Text) : List Text := namesFrom [] path

/-- Whether a path ends in a slash and so leads to a directory. -/
def endsInSlash (path : Text) : Bool := path.getLast? = some '/'

/-- A path and a name behind it. -/
def join (path name : Text) : Text :=
  if endsInSlash path then path ++ name else path ++ '/' :: name

/-- The greatest length of a name, in bytes. -/
def maxNameSize : Nat := 255

/-- The greatest length of a path, in bytes. -/
def maxSize : Nat := 4095

/-- The length of a text in bytes. -/
def size (t : Text) : Nat := (String.ofList t).utf8ByteSize

/-- Whether a path starts at the root and not in the working directory,
    whose full name is `base`: it begins with a slash, or with that
    name. A full name begins with a slash itself; one that does not
    stands for a directory without telling where it is. -/
def startsAtRoot (base path : Text) : Bool :=
  path.head? = some '/' ||
    base.isPrefixOf path && (path.drop base.length).head?.getD '/' = '/'

/-- The place to which names lead, one after the other. -/
def follow (p : Place) (names : List Text) : Place := names.foldl Place.enter p

/-- Where a path starts. -/
def start (base path : Text) : Place :=
  if startsAtRoot base path then Place.root else follow Place.root (names base)

/-- Where a path leads if its way is open. -/
def place (base path : Text) : Place := follow (start base path) (names path)

end Path

/-! ## 2. Disks -/

/-- What a program may want to do at a place. -/
inductive Access where
  /-- To look for a name in a directory. -/
  | enter
  /-- To read a file. -/
  | read
  /-- To write a file, or to make one there. -/
  | write
  deriving DecidableEq, Repr

/-- The files and directories of a disk, and the full name of the
    working directory. -/
structure Disk where
  /-- The full name of the working directory. -/
  base : Text
  /-- Directories, empty ones too; those above a directory or a file
      need not be named. -/
  directories : List Place
  /-- The files and their places; of two files at one place only the
      first counts. -/
  files : List (Place × Content)
  /-- What may not be done, and where. -/
  barred : List (Place × Access)
  deriving DecidableEq, Repr

namespace Disk

/-- The place of the working directory. -/
def workingPlace (d : Disk) : Place := Path.follow Place.root (Path.names d.base)

/-- What the file at a place holds. -/
def fileAt? (d : Disk) (p : Place) : Option Content := d.files.lookup p

/-- Whether there is a directory at a place: the working directory, one
    that is named, those above them and those above a file. -/
def isDirectory (d : Disk) (p : Place) : Bool :=
  p.isSuffixOf d.workingPlace || d.directories.any (fun q => p.isSuffixOf q) ||
    d.files.any fun f => p.isSuffixOf f.1 && p.length < f.1.length

/-- Whether something may not be done at a place. -/
def bars (d : Disk) (p : Place) (a : Access) : Bool := d.barred.contains (p, a)

/-- The place that names lead to, one after the other. -/
def walk (d : Disk) (p : Place) : List Text → Except FileFault Place
  | [] => .ok p
  | name :: rest =>
    if (d.fileAt? p).isSome then .error .notDirectory
    else if !d.isDirectory p then .error .missing
    else if d.bars p .enter then .error .denied
    else if Path.maxNameSize < Path.size name then .error .longName
    else d.walk (p.enter name) rest

/-- The place that a path leads to. -/
def resolve (d : Disk) (path : Text) : Except FileFault Place :=
  if path = [] then .error .missing
  else if Path.maxSize < Path.size path then .error .longName
  else d.walk (Path.start d.base path) (Path.names path)

/-- The disk with files at given paths, on which all may be done. -/
def ofFiles (base : Text) (files : List (Text × Content)) : Disk :=
  ⟨base, [], files.map fun (path, content) => (Path.place base path, content), []⟩

/-- What the file at a path holds, if there is one. -/
def contentAt? (d : Disk) (path : Text) : Option Content :=
  match d.resolve path with
  | .ok p => d.fileAt? p
  | .error _ => none

/-- Whether there is a file at a path. -/
def isFile (d : Disk) (path : Text) : Bool :=
  (d.contentAt? path).isSome && !Path.endsInSlash path

/-- The text of the file at a path. -/
def read (d : Disk) (path : Text) : Except FileFault Text := do
  let p ← d.resolve path
  match d.fileAt? p with
  | some content =>
    if Path.endsInSlash path then .error .notDirectory
    else if d.bars p .read then .error .denied
    else match content with
      | .text t => .ok t
      | .bytes _ => .error .notText
  | none => .error (if d.isDirectory p then .directory else .missing)

/-- The files with one at a place replaced or added. -/
def putFile (p : Place) (content : Content) : List (Place × Content) → List (Place × Content)
  | [] => [(p, content)]
  | f :: fs => if f.1 = p then (p, content) :: fs else f :: putFile p content fs

/-- The disk with a file at a place replaced or added. -/
def put (d : Disk) (p : Place) (content : Content) : Disk :=
  { d with files := putFile p content d.files }

/-- The disk with an empty file at a path, and the place of the file; a
    file that is there is emptied. -/
def create (d : Disk) (path : Text) : Except FileFault (Place × Disk) := do
  let p ← d.resolve path
  if Path.endsInSlash path || d.isDirectory p then .error .directory
  else if d.bars p .write then .error .denied
  else .ok (p, d.put p (.text []))

/-- The disk with a text behind what the file at a place holds. -/
def append (d : Disk) (p : Place) (t : Text) : Disk :=
  match d.fileAt? p with
  | some (.text held) => d.put p (.text (held ++ t))
  | _ => d

/-- What is at each place after a file was put. -/
theorem fileAt?_put (d : Disk) (p q : Place) (content : Content) :
    (d.put p content).fileAt? q = if p = q then some content else d.fileAt? q := by
  have differs {r : Place} (h : ¬ r = q) : (q == r) = false :=
    beq_eq_false_iff_ne.mpr fun e => h e.symm
  unfold fileAt? put
  dsimp only
  induction d.files with
  | nil =>
    by_cases h : p = q
    · simp [putFile, h]
    · simp [putFile, List.lookup_cons, h, differs h]
  | cons f fs ih =>
    obtain ⟨r, held⟩ := f
    unfold putFile
    by_cases hr : r = p
    · subst hr
      by_cases h : r = q
      · simp [h]
      · simp [List.lookup_cons, h, differs h]
    · by_cases h : r = q
      · subst h
        have hp : ¬ p = r := fun e => hr e.symm
        simp [hr, hp]
      · simp [List.lookup_cons, hr, differs h, ih]

end Disk

end InputMask
