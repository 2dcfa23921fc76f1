/-
  File:      InputMask/CommandLine/Invocation.lean
  Subject:   What a command line asks for.
-/
import InputMask.Field
import InputMask.Resolve
namespace InputMask

/-- The conversion of all lines of an input. -/
structure LineJob where
  choice : MaskChoice
  /-- The file to read; without one the standard input is read. -/
  input : Option Text
  /-- The file to write; without one the standard output is written. -/
  output : Option Text
  /-- Whether the lines go to the clipboard as well. -/
  clipboard : Bool
  deriving DecidableEq, Repr

/-- What is shown of a field at the end of a script. -/
inductive EditView where
  /-- What the field displays. -/
  | display
  /-- What the field displays once it has lost focus. -/
  | blurred
  /-- The field's value. -/
  | value
  /-- A report on display, value, caret and refused keys. -/
  | report
  deriving DecidableEq, Repr

/-- A script to be played on a field. -/
structure EditJob where
  choice : MaskChoice
  keys : Text
  /-- The value of the field before the script. -/
  initial : Option Text
  view : EditView
  /-- Whether prompts disappear while the field has no focus. -/
  hidePrompt : Bool
  pasteMode : PasteMode
  /-- Whether a refused key is an error. -/
  strict : Bool
  deriving DecidableEq, Repr

/-- One thing that can be done. -/
inductive Command where
  | format (job : LineJob) (hidePrompt : Bool)
  | unmask (job : LineJob) (keepLiterals keepPrompt : Bool)
  | inspect (choice : MaskChoice) (json : Bool)
  | listPresets (json : Bool)
  | edit (job : EditJob)
  deriving DecidableEq, Repr

/-- What a command line asks for. -/
structure Invocation where
  /-- Whether messages that are no errors are left out. -/
  quiet : Bool
  /-- Whether the log is wanted. -/
  debug : Bool
  /-- The preset file that was named. -/
  presets : Option Text
  command : Command
  deriving DecidableEq, Repr

end InputMask
