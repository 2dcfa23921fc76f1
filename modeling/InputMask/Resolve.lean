/-
  File:      InputMask/Resolve.lean
  Subject:   From a mask or a preset's name to a configuration.
-/
import InputMask.Preset.Builtin
namespace InputMask

/-- What a configuration is asked for by. -/
structure MaskChoice where
  mask : Option Text
  preset : Option Text
  /-- The prompt, whatever the preset says. -/
  prompt : Option Char
  deriving DecidableEq, Repr

namespace MaskChoice

/-- Whether presets are looked at: without a mask, for a name. -/
def namesPreset (c : MaskChoice) : Bool := c.mask.isNone && c.preset.isSome

/-- The configuration without the chosen prompt. A mask goes before a
    preset and must not be too long; only a preset needs the user's
    presets, which go over those that are always there. -/
def base (c : MaskChoice) (user : Except PresetError (List Preset)) :
    Except PresetError Config :=
  match c.mask, c.preset with
  | some mask, _ =>
    if maxMaskLength < mask.length then .error (.longMask "--mask".toList mask.length)
    else .ok (Config.ofMask mask)
  | none, some name => do
    let preset ← Preset.find name (Preset.merge Preset.builtin (← user))
    return preset.toConfig
  | none, none => .error .nothingChosen

/-- The configuration that is asked for. -/
def resolve (c : MaskChoice) (user : Except PresetError (List Preset)) :
    Except PresetError Config := do
  let config ← c.base user
  return { config with prompt := c.prompt.getD config.prompt }

end MaskChoice

end InputMask
