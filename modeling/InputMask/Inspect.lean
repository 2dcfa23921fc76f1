/-
  File:      InputMask/Inspect.lean
  Subject:   Masks, presets and reports as tables and as JSON.
-/
import InputMask.Json
import InputMask.Preset
import InputMask.Replay
import InputMask.Table
namespace InputMask

/-! ## 1. Tables -/

/-- A character between quotes. -/
def quoted (c : Char) : Text := ['\'', c, '\'']

/-- The row of a slot that has a number. -/
def Slot.row (s : Slot) (n : Nat) : List Text :=
  let (glyph, kind, accepts) := match s.kind with
    | .literal c => (c, "literal", quoted c)
    | .placeholder k => (k.symbol, "placeholder", k.label.toList)
  let case := match s.caseMode with
    | .plain => "-"
    | .lower => "lower"
    | .upper => "upper"
  [Text.Decimal.write n, [glyph], kind.toList, accepts, case.toList,
    if s.escaped then "yes".toList else []]

/-- The slots of a mask, one row each. -/
def Mask.table (m : Mask) : Table where
  header := ["Slot", "Char", "Kind", "Accepts", "Case", "Escaped"].map String.toList
  rows := m.slots.mapIdx fun n s => s.row n

/-- Presets, one row each. -/
def Preset.table (ps : List Preset) : Table where
  header := ["Name", "Mask", "Prompt", "Description"].map String.toList
  rows := ps.map fun p =>
    [p.name, p.mask, (p.prompt.map quoted).getD [], p.description.getD []]

/-! ## 2. JSON -/

/-- The kind of a slot: its type and what it holds. -/
def SlotKind.toJson : SlotKind → Json
  | literal c => .obj [("type", .str "literal".toList), ("value", .str [c])]
  | placeholder k => .obj [("type", .str "placeholder".toList), ("value", .str k.key.toList)]

/-- A slot: its kind, case mode and whether it is escaped. -/
def Slot.toJson (s : Slot) : Json :=
  .obj [("kind", s.kind.toJson), ("case_mode", .str s.caseMode.key.toList),
    ("escaped", .bool s.escaped)]

/-- A mask: its text and its slots. -/
def Mask.toJson (m : Mask) : Json :=
  .obj [("source", .str m.source), ("slots", .arr (m.slots.map Slot.toJson))]

/-- A preset; what is not set is null. -/
def Preset.toJson (p : Preset) : Json :=
  .obj [("name", .str p.name), ("description", Json.ofOption .str p.description),
    ("mask", .str p.mask), ("prompt", Json.ofOption (fun c => .str [c]) p.prompt),
    ("hide_prompt", Json.ofOption .bool p.hidePrompt),
    ("keep_literals", Json.ofOption .bool p.keepLiterals),
    ("tags", Json.ofOption (fun ts => .arr (ts.map .str)) p.tags)]

/-- The report of a played script. -/
def Report.toJson (r : Report) : Json :=
  .obj [("display", .str r.display), ("value", .str r.value), ("caret", .nat r.caret),
    ("rejected", .arr (r.rejected.map .nat))]

end InputMask
