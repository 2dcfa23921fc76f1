/-
  File:      InputMask/Options.lean
  Subject:   What formatting and unmasking show and keep.
-/
import InputMask.Text.Blank
namespace InputMask

/-- The prompt of a field that names none. -/
def defaultPrompt : Char := '_'

/-- How text is put into a mask and taken out of it. -/
structure Options where
  /-- The character shown in an unfilled placeholder; without one it
      shows nothing. -/
  prompt : Option Char
  /-- Whether a prompt in the input stays in the output. -/
  keepPrompt : Bool
  /-- Whether unmasking keeps literals and characters that do not fit. -/
  keepLiterals : Bool
  deriving DecidableEq, Repr

end InputMask
