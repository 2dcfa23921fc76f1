/-
  File:      InputMask/Main.lean
  Subject:   The program: the system that commands run on.
-/
import InputMask.CommandLine.Run
namespace InputMask.Program

/-- The system's number for an error, which some calls give negated. -/
def errorNumber (code : UInt32) : Nat := min code.toNat (4294967296 - code.toNat)

/-- The fault behind an error of the system. -/
def faultOf : IO.Error → FileFault
  | .noFileOrDirectory .. => .missing
  | .inappropriateType _ code _ => if errorNumber code = 20 then .notDirectory else .directory
  | .invalidArgument _ code _ => if errorNumber code = 36 then .longName else .denied
  | _ => .denied

/-- The answer of an action, or the fault it ends with. -/
def attempt {α : Type} (action : IO α) : IO (Except FileFault α) := do
  try
    return .ok (← action)
  catch e => return .error (faultOf e)

/-- The text of some bytes. -/
def textOf (bytes : ByteArray) : Except FileFault Text :=
  match String.fromUTF8? bytes with
  | some s => .ok s.toList
  | none => .error .notText

/-- The text that an action reads. -/
def readText (action : IO ByteArray) : IO (Except FileFault Text) := do
  return (← attempt action).bind textOf

/-- The text of a file. -/
def readFile (path : Text) : IO (Except FileFault Text) :=
  readText (IO.FS.readBinFile (String.ofList path))

/-- Whether there is a file, readable or not, where this was read. -/
def isFile : Except FileFault Text → Bool
  | .ok _ | .error .notText | .error .denied => true
  | .error _ => false

/-- The system that the program runs on; it has no clipboard. -/
def host : Host IO where
  File := IO.FS.Handle
  readStdin := do readText (← IO.getStdin).readBinToEnd
  isFile path := return isFile (← readFile path)
  readFile := readFile
  create path := attempt (IO.FS.Handle.mk (String.ofList path) .write)
  write file t := file.putStr (String.ofList t)
  print t := do (← IO.getStdout).putStr (String.ofList t)
  tell severity message := do
    let err ← IO.getStderr
    err.putStr (String.ofList (severity.line (← err.isTty) message))
  copy t := return CommandLine.noClipboard t

/-- The value of a variable of the system. -/
def lookUp (name : String) : IO (Option Text) := do
  return (← IO.getEnv name).map String.toList

end InputMask.Program

open InputMask InputMask.Program in
/-- The program; it returns its exit code. -/
def main (args : List String) : IO UInt32 := do
  let v : Variables :=
    ⟨← lookUp "HOME", ← lookUp "XDG_CONFIG_HOME", ← lookUp "MASKEDIT_PRESETS"⟩
  let code ← CommandLine.perform Libraries.standard host v (args.map String.toList)
  return code.toUInt32
