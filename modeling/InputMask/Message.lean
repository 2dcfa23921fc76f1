/-
  File:      InputMask/Message.lean
  Subject:   Status messages, and texts fit for a log.

  A message stands behind the name of its severity, which is bold and
  coloured where the reader shows colours.
-/
import InputMask.Text.Decimal
namespace InputMask

/-! ## 1. Status messages -/

/-- How grave a message is. -/
inductive Severity where
  | info
  | warning
  | error
  deriving DecidableEq, Repr

/-- The word in front of a message. -/
def Severity.word : Severity → Text
  | info => "info:".toList
  | warning => "warning:".toList
  | error => "error:".toList

/-- The terminal's number for the colour of the word. -/
def Severity.colour : Severity → Nat
  | info => 36
  | warning => 33
  | error => 31

/-- A terminal control sequence that sets one attribute. -/
def styleCode (n : Nat) : Text := '\x1b' :: '[' :: Text.Decimal.write n ++ ['m']

/-- A message as a line of text, with or without colour. -/
def Severity.line (s : Severity) (colour : Bool) (message : Text) : Text :=
  let word :=
    if colour then
      styleCode 1 ++ styleCode s.colour ++ s.word ++ styleCode 39 ++ styleCode 0
    else s.word
  word ++ ' ' :: message ++ ['\n']

/-! ## 2. Redaction -/

/-- A text as a log may show it: only its length. -/
def redact (t : Text) : Text := s!"[REDACTED: {t.length} chars]".toList

end InputMask
