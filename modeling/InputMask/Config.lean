/-
  File:      InputMask/Config.lean
  Subject:   The configuration of one masked field.
-/
import InputMask.Options
namespace InputMask

/-- What a field is told: its mask, its prompt, and what its display
    and value show. -/
structure Config where
  mask : Text
  /-- The character shown in unfilled placeholders. -/
  prompt : Char
  /-- Whether prompts disappear while the field has no focus. -/
  hidePrompt : Bool
  /-- Whether the value keeps the mask's literals. -/
  keepLiterals : Bool
  deriving DecidableEq, Repr

namespace Config

/-- The configuration that names nothing. -/
def standard : Config := ⟨[], defaultPrompt, false, false⟩

/-- The configuration that names only a mask. -/
def ofMask (mask : Text) : Config := { standard with mask := mask }

/-- The options for the display of a field with focus. -/
def maskOptions (c : Config) : Options := ⟨some c.prompt, true, c.keepLiterals⟩

/-- The options for reading the field's value from its display. -/
def valueOptions (c : Config) : Options := { c.maskOptions with keepPrompt := false }

end Config

end InputMask
