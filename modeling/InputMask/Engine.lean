/-
  File:      InputMask/Engine.lean
  Subject:   A configuration together with its compiled mask.

  The engine compiles its mask when it is made and again only when it
  is given another one. It says what a field shows with and without
  focus and which value a display holds.
-/
import InputMask.Caret
import InputMask.Config
namespace InputMask

/-- A configuration and the mask compiled from it. -/
structure Engine where
  config : Config
  mask : Mask
  deriving DecidableEq, Repr

namespace Engine

/-! ## 1. Making and changing -/

/-- The engine of a configuration. -/
def ofConfig (c : Config) : Engine := ⟨c, Mask.compile c.mask⟩

/-- The engine with another mask, whose compiled form is at hand. -/
def withMask (e : Engine) (m : Mask) : Engine :=
  ⟨{ e.config with mask := m.source }, m⟩

/-- The engine with the mask of a text; its own mask is not compiled
    again. -/
def setMask (e : Engine) (mask : Text) : Engine :=
  if e.config.mask = mask then e else e.withMask (Mask.compile mask)

/-- The engine with another prompt. -/
def setPrompt (e : Engine) (prompt : Char) : Engine :=
  { e with config := { e.config with prompt := prompt } }

/-- The engine with prompts hidden or shown while there is no focus. -/
def setHidePrompt (e : Engine) (hide : Bool) : Engine :=
  { e with config := { e.config with hidePrompt := hide } }

/-! ## 2. Displays and values -/

/-- The options for the display of a field with focus. -/
def options (e : Engine) : Options := e.config.maskOptions

/-- The display of a raw text with focus: prompts are shown. -/
def focusText (e : Engine) (raw : Text) : Text := e.mask.format e.options raw

/-- The display of a raw text without focus. Where prompts are hidden
    unfilled placeholders show nothing, and no value shows nothing at
    all. -/
def blurText (e : Engine) (raw : Text) : Text :=
  if !e.config.hidePrompt then e.focusText raw
  else if raw.isEmpty then []
  else e.mask.format { e.options with prompt := none, keepPrompt := false } raw

/-- The value a display holds. -/
def value (e : Engine) (display : Text) : Text :=
  e.mask.unmask e.config.valueOptions display

end Engine

/-! ## 3. Conversions without a field -/

/-- Which way a text is converted. -/
inductive Direction where
  /-- From a raw text to a display. -/
  | mask
  /-- From a display to its value. -/
  | unmask
  deriving DecidableEq, Repr

/-- A text converted under a configuration, in one step; a display is
    the one of a field without focus. -/
def convert (c : Config) (d : Direction) (text : Text) : Text :=
  match d with
  | .mask => (Engine.ofConfig c).blurText text
  | .unmask => (Engine.ofConfig c).value text

end InputMask
