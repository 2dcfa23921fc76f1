/-
  File:      InputMask/Field.lean
  Subject:   A masked field: display, caret, selection and focus.

  The field keeps the text it shows. While prompts are hidden the
  shown text does not line up with the slots, so the field then also
  keeps the value it stands for (`hidden`); edits work on the display
  that value has with focus (`slotText`).
-/
import InputMask.Engine
namespace InputMask

/-! ## 1. The field -/

/-- How pasted text enters a field. -/
inductive PasteMode where
  /-- Its characters are typed one by one. -/
  | replay
  /-- It is put into the value, which is formatted anew. -/
  | resync
  deriving DecidableEq, Repr

/-- The state of a field. -/
structure Field where
  engine : Engine
  display : Text
  caret : Nat
  selStart : Nat
  selStop : Nat
  focused : Bool
  /-- The value, while the shown text hides the prompts. -/
  hidden : Option Text
  deriving DecidableEq, Repr

namespace Field

/-- The value of the field. -/
def value (f : Field) : Text := f.hidden.getD (f.engine.value f.display)

/-- The display whose positions are those of the slots. -/
def slotText (f : Field) : Text :=
  match f.hidden with
  | some v => f.engine.focusText v
  | none => f.display

/-- The last position of the caret: the width of the mask, or of the
    text where there is no mask. -/
def maxPosition (f : Field) : Nat :=
  if f.engine.mask.isEmpty then f.slotText.length else f.engine.mask.length

/-- The field with the caret at a position and nothing selected. -/
def caretAt (f : Field) (p : Nat) : Field := { f with caret := p, selStart := p, selStop := p }

/-- The field showing a raw text as its focus demands. -/
def refresh (f : Field) (raw : Text) : Field :=
  let shown :=
    if f.focused || !f.engine.config.hidePrompt then
      { f with display := f.engine.focusText raw, hidden := none }
    else
      let value := f.engine.value (f.engine.focusText raw)
      { f with display := f.engine.blurText value, hidden := some value }
  shown.caretAt (min f.caret shown.maxPosition)

/-- A new field: no value, no focus. -/
def ofEngine (e : Engine) : Field := refresh ⟨e, [], 0, 0, 0, false, none⟩ []

/-- A new field of a configuration. -/
def ofConfig (c : Config) : Field := ofEngine (Engine.ofConfig c)

/-! ## 2. Values and focus -/

/-- The field with another value. -/
def setValue (f : Field) (raw : Text) : Field := f.refresh raw

/-- The field with another mask; its value is carried over. -/
def setMask (f : Field) (mask : Text) : Field :=
  { f with engine := f.engine.setMask mask }.refresh f.value

/-- The field given focus; the caret moves on to an editable slot. -/
def focus (f : Field) : Field :=
  let g := { f with focused := true }.refresh f.value
  if g.engine.mask.isEmpty then g else g.caretAt (g.engine.mask.nextEditable g.caret)

/-- The field without focus. -/
def blur (f : Field) : Field := { f with focused := false }.refresh f.value

/-! ## 3. Moves -/

/-- A range selected, cut to the text; the caret moves to its end. -/
def select (f : Field) (first stop : Nat) : Field :=
  let stop := min stop f.maxPosition
  { f with selStart := min first stop, selStop := stop, caret := stop }

/-- The caret one editable position back. -/
def moveLeft (f : Field) : Field :=
  f.caretAt <|
    if f.engine.mask.isEmpty then f.caret - 1
    else (f.engine.mask.prevEditable f.caret).getD f.caret

/-- The caret one editable position on. -/
def moveRight (f : Field) : Field :=
  f.caretAt <|
    if f.engine.mask.isEmpty then min (f.caret + 1) f.maxPosition
    else f.engine.mask.nextEditable (f.caret + 1)

/-- The caret on the first editable position. -/
def moveHome (f : Field) : Field :=
  f.caretAt <| if f.engine.mask.isEmpty then 0 else f.engine.mask.nextEditable 0

/-- The position behind the last placeholder of a row that shows
    something other than the prompt, zero where there is none. -/
def behindFilled (prompt : Char) : Text → List Slot → Nat
  | c :: t, s :: slots =>
    match behindFilled prompt t slots with
    | 0 => if s.isPlaceholder && c != prompt then 1 else 0
    | n + 1 => n + 2
  | _, _ => 0

/-- The caret on the first editable position behind all filled ones. -/
def moveEnd (f : Field) : Field :=
  f.caretAt <|
    if f.engine.mask.isEmpty then f.maxPosition
    else f.engine.mask.nextEditable
      (behindFilled f.engine.config.prompt f.slotText f.engine.mask.slots)

/-! ## 4. Edits -/

/-- The field after an edit of its slot text. -/
def apply (f : Field) (out : Outcome) : Field × Status :=
  let g := { f with display := out.text, hidden := none }
  let g := if !g.focused && g.engine.config.hidePrompt then g.refresh g.value else g
  (g.caretAt out.caret, out.status)

/-- Where an edit starts and how many positions it replaces. -/
def editSpan (f : Field) : Nat × Nat :=
  if f.selStop ≤ f.selStart then (f.caret, 0) else (f.selStart, f.selStop - f.selStart)

/-- A character typed. With nothing selected, a caret on another
    literal first moves on to the next editable position. -/
def typeChar (f : Field) (c : Char) : Field × Status :=
  let m := f.engine.mask
  let (p, count) := f.editSpan
  let onOther : Bool := match m.slots[p]? with
    | some s => match s.literal? with
      | some l => l != c
      | none => false
    | none => false
  let p := if count = 0 ∧ onOther then m.nextEditable p else p
  let out := m.insertChar f.engine.options f.slotText p count c
  if out.status = .rejected then ({ f with caret := out.caret }, .rejected) else f.apply out

/-- The selection deleted, or the position beside the caret. -/
def delete (f : Field) (side : Side) : Field × Status :=
  let (p, count) := f.editSpan
  f.apply (f.engine.mask.deleteRange f.engine.options f.slotText p count side)

/-- The key that deletes backward. -/
def backspace (f : Field) : Field × Status := f.delete .backward

/-- The key that deletes forward. -/
def deleteForward (f : Field) : Field × Status := f.delete .forward

/-- The part of the value that the selection covers. -/
def selected (f : Field) : Text :=
  if f.engine.mask.isEmpty then
    (f.slotText.drop f.selStart).take (f.selStop - f.selStart)
  else f.engine.mask.unmaskRange f.engine.config.valueOptions f.slotText f.selStart f.selStop

/-- The selection deleted and given out. -/
def cut (f : Field) : Field × Text :=
  if f.selStop ≤ f.selStart then (f, []) else ((f.delete .forward).1, f.selected)

/-! ## 5. Pasting -/

/-- Characters typed one after the other; the status says whether any
    of them was taken. -/
def typeAll (f : Field) (status : Status) : Text → Field × Status
  | [] => (f, status)
  | c :: t =>
    let (g, st) := f.typeChar c
    g.typeAll (if st = .rejected then status else .accepted) t

/-- Text pasted by typing it in place of the selection. -/
def pasteReplay (f : Field) (text : Text) : Field × Status :=
  if f.selStop ≤ f.selStart then f.typeAll .rejected text
  else
    let (g, st) := f.delete .forward
    g.typeAll st text

/-- The position of the `n`-th placeholder of a row, the length of the
    row where there are fewer. -/
def placeholderAt : Nat → List Slot → Nat
  | _, [] => 0
  | 0, s :: slots => if s.isPlaceholder then 0 else placeholderAt 0 slots + 1
  | n + 1, s :: slots =>
    (if s.isPlaceholder then placeholderAt n slots else placeholderAt (n + 1) slots) + 1

theorem placeholderAt_literal {s : Slot} (hs : s.isPlaceholder = false) (n : Nat)
    (rest : List Slot) : placeholderAt n (s :: rest) = placeholderAt n rest + 1 := by
  cases n <;> simp [placeholderAt, hs]

theorem placeholderAt_zero {s : Slot} (hs : s.isPlaceholder = true) (rest : List Slot) :
    placeholderAt 0 (s :: rest) = 0 := by
  simp [placeholderAt, hs]

theorem placeholderAt_succ {s : Slot} (hs : s.isPlaceholder = true) (n : Nat)
    (rest : List Slot) : placeholderAt (n + 1) (s :: rest) = placeholderAt n rest + 1 := by
  simp [placeholderAt, hs]

/-- Text pasted into the value in place of the selection; the caret
    goes behind the last placeholder that the value fills up to there. -/
def pasteResync (f : Field) (text : Text) : Field × Status :=
  let e := f.engine
  let (p, count) := f.editSpan
  if e.mask.isEmpty then
    let p := min p f.slotText.length
    let g := { f with display := splice f.slotText p count text, hidden := none }
    (g.caretAt (p + text.length), .accepted)
  else
    let o := e.config.valueOptions
    let before := e.mask.unmaskRange o f.slotText 0 p ++ text
    let behind :=
      e.mask.unmaskRange o f.slotText (min (p + count) e.mask.length) e.mask.length
    let filled := e.mask.unmask { o with keepLiterals := false } (e.focusText before)
    ((f.refresh (before ++ behind)).caretAt (placeholderAt filled.length e.mask.slots),
      .accepted)

/-- Text pasted at the caret in place of the selection. -/
def paste (f : Field) (text : Text) : PasteMode → Field × Status
  | .replay => f.pasteReplay text
  | .resync => f.pasteResync text

/-! ## 6. Operations -/

/-- One thing done to a field. -/
inductive Action where
  | focus
  | blur
  | setValue (raw : Text)
  | setMask (mask : Text)
  | select (first stop : Nat)
  | typeChar (c : Char)
  | backspace
  | deleteForward
  | moveLeft
  | moveRight
  | moveHome
  | moveEnd
  | cut
  | paste (text : Text) (mode : PasteMode)
  deriving DecidableEq, Repr

/-- What an action answers. -/
inductive Answer where
  | silent
  | status (s : Status)
  | text (t : Text)
  deriving DecidableEq, Repr

/-- The field after an action, and the action's answer. -/
def step (f : Field) : Action → Field × Answer
  | .focus => (f.focus, .silent)
  | .blur => (f.blur, .silent)
  | .setValue raw => (f.setValue raw, .silent)
  | .setMask mask => (f.setMask mask, .silent)
  | .select first stop => (f.select first stop, .silent)
  | .typeChar c => (f.typeChar c).map id .status
  | .backspace => f.backspace.map id .status
  | .deleteForward => f.deleteForward.map id .status
  | .moveLeft => (f.moveLeft, .silent)
  | .moveRight => (f.moveRight, .silent)
  | .moveHome => (f.moveHome, .silent)
  | .moveEnd => (f.moveEnd, .silent)
  | .cut => f.cut.map id .text
  | .paste text mode => (f.paste text mode).map id .status

/-- The field after actions in order. -/
def run (f : Field) (actions : List Action) : Field :=
  actions.foldl (fun g a => (g.step a).1) f

/-- The states a new field can come to. -/
def Reachable (f : Field) : Prop := ∃ c actions, f = (ofConfig c).run actions

end Field

end InputMask
