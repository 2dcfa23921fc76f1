/-
  File:      InputMask/Caret.lean
  Subject:   Editing a display: caret moves, single inserts, deletes.

  Nothing here holds state: each operation takes a display and
  positions and gives the next display, caret and status. Positions
  count slots and are cut to the mask's length. Under a mask without
  slots the display is free text and positions count its characters.
-/
import InputMask.Format
import InputMask.Unmask
namespace InputMask

/-! ## 1. Outcomes -/

/-- Which side of the caret a delete without a selection removes. -/
inductive Side where
  /-- The slot before the caret. -/
  | backward
  /-- The slot behind the caret. -/
  | forward
  deriving DecidableEq, Repr

/-- How an edit went. -/
inductive Status where
  | accepted
  /-- The typed character stands there already; the caret steps over it. -/
  | skippedLiteral
  | rejected
  deriving DecidableEq, Repr

/-- The display, caret and status after an edit. -/
structure Outcome where
  text : Text
  caret : Nat
  status : Status
  deriving DecidableEq, Repr

/-! ## 2. Editable positions -/

/-- The last position of a row that takes input. -/
def lastEditable : List Slot → Option Nat
  | [] => none
  | s :: rest =>
    match lastEditable rest with
    | some i => some (i + 1)
    | none => if s.isPlaceholder then some 0 else none

namespace Mask

/-- The first editable position at or behind `p`, the mask's length
    where there is none. -/
def nextEditable (m : Mask) (p : Nat) : Nat :=
  let p := min p m.length
  match (m.slots.drop p).findIdx? Slot.isPlaceholder with
  | some i => p + i
  | none => m.length

/-- The last editable position before `p`. -/
def prevEditable (m : Mask) (p : Nat) : Option Nat :=
  lastEditable (m.slots.take (min p m.length))

/-! ## 3. Full-width displays -/

/-- The blank forms of a row of slots, a space for a placeholder where
    there is no prompt. -/
def cells (prompt : Option Char) (slots : List Slot) : Text :=
  slots.map fun s => (s.blank prompt).getD ' '

/-- A display at full width: cut to the mask's length, missing
    characters filled in blank. -/
def padded (m : Mask) (prompt : Option Char) (display : Text) : Text :=
  display.take m.length ++ cells prompt (m.slots.drop display.length)

/-- A padded display has one character for each slot. -/
@[simp] theorem length_padded (m : Mask) (prompt : Option Char) (display : Text) :
    (m.padded prompt display).length = m.length := by
  simp [padded, cells, length]
  omega

/-- With a prompt the cells of a row are its blank forms. -/
theorem cells_some (p : Char) (slots : List Slot) :
    cells (some p) slots = blanks (some p) slots := by
  induction slots with
  | nil => rfl
  | cons s rest ih =>
    unfold cells at ih ⊢
    cases hs : s.literal? with
    | some l =>
      rw [List.map_cons, ih, Slot.blank_of_literal? hs, blanks_literal hs, Option.getD_some]
    | none =>
      rw [List.map_cons, ih, Slot.blank_of_placeholder hs, blanks_placeholder hs,
        Option.getD_some]

/-- A display that is not too long is padded with the blank forms of the
    slots behind it. -/
theorem padded_some (m : Mask) (p : Char) {display : Text} (h : display.length ≤ m.length) :
    m.padded (some p) display = display ++ blanks (some p) (m.slots.drop display.length) := by
  unfold padded
  rw [List.take_of_length_le h, cells_some]

/-- Padding puts back what was cut off the padding. -/
theorem padded_of_isPrefix (m : Mask) (p : Char) {display t : Text}
    (h : display.length ≤ m.length) (hle : display.length ≤ t.length)
    (ht : t <+: m.padded (some p) display) :
    m.padded (some p) t = m.padded (some p) display := by
  have hlen : t.length ≤ m.length := by
    rw [← m.length_padded (some p) display]
    exact ht.length_le
  obtain ⟨back, hback⟩ := ht
  have hdrop : (m.padded (some p) display).drop t.length = back := by
    rw [← hback, List.drop_left]
  rw [m.padded_some p h, List.drop_append, List.drop_of_length_le hle, List.nil_append,
    drop_blanks_some, List.drop_drop, Nat.add_sub_cancel' hle] at hdrop
  rw [m.padded_some p hlen, hdrop, hback]

end Mask

/-! ## 4. Free text -/

/-- Free text with `count` characters from `p` on replaced. -/
def splice (text : Text) (p count : Nat) (new : Text) : Text :=
  text.take p ++ new ++ text.drop (p + count)

/-- A character put into free text, in place of `count` characters. The
    end of the span must be a machine word. -/
def insertFree (text : Text) (p count : Nat) (c : Char) : Outcome :=
  let p := min p text.length
  ⟨splice text p count [c], p + 1, .accepted⟩

/-- What a delete covers among `width` positions: `count` of them from
    `p` on, or the one beside `p` when `count` is zero. The answer is
    the first position and their number, or where the caret stays when
    nothing stands on that side. -/
def deleteSpan (width p count : Nat) (side : Side) : Except Nat (Nat × Nat) :=
  let p := min p width
  let count := min count (width - p)
  if count ≠ 0 then .ok (p, count)
  else match side with
    | .backward => if p = 0 then .error 0 else .ok (p - 1, 1)
    | .forward => if width ≤ p then .error p else .ok (p, 1)

/-- Characters taken out of free text. -/
def deleteFree (text : Text) (p count : Nat) (side : Side) : Outcome :=
  match deleteSpan text.length p count side with
  | .error caret => ⟨text, caret, .rejected⟩
  | .ok (p, count) => ⟨splice text p count [], p, .accepted⟩

/-! ## 5. Masked text -/

namespace Mask

/-- The number of values of a machine word. -/
def wordSize : Nat := 18446744073709551616

/-- Where the slots that an insert at `p` replaces end. The end of the
    span is a sum of machine words, which starts again at zero past the
    last of them, before it is cut to the mask's length; the positions
    of a mask are words. The slot at `p` is always replaced. -/
def insertStop (m : Mask) (p count : Nat) : Nat :=
  let stop := p + max count 1
  let stop := if stop ≤ m.length then stop else min (stop % wordSize) m.length
  max (p + 1) stop

section InsertStop

variable {m : Mask} {p count : Nat}

theorem lt_insertStop (m : Mask) (p count : Nat) : p < m.insertStop p count :=
  Nat.le_max_left _ _

/-- A span of one slot. -/
theorem insertStop_zero (h : p < m.length) : m.insertStop p 0 = p + 1 := by
  unfold insertStop
  simp only [Nat.zero_max, Nat.succ_le_of_lt h, if_true, Nat.max_self]

end InsertStop

/-- A character typed at `p` in place of `count` slots, at least one.
    On a literal it is only compared with what stands there. On a
    placeholder that accepts it, the slot takes it and the rest of the
    replaced slots are blank. -/
def insertChar (m : Mask) (o : Options) (display : Text) (p count : Nat) (c : Char) : Outcome :=
  if m.isEmpty then insertFree display p count c
  else
    let p := min p m.length
    match m.slots[p]? with
    | none => ⟨display, p, .rejected⟩
    | some s =>
      match s.literal? with
      | some l =>
        if c = l ∨ (s.accept c).isSome then
          ⟨display, m.nextEditable (p + 1), .skippedLiteral⟩
        else ⟨display, p, .rejected⟩
      | none =>
        match s.accept c with
        | none => ⟨display, p, .rejected⟩
        | some d =>
          let full := m.padded o.prompt display
          let stop := m.insertStop p count
          let cleared := cells o.prompt ((m.slots.take stop).drop (p + 1))
          ⟨Text.trimEnd (full.take p ++ d :: cleared ++ full.drop stop),
            m.nextEditable (p + 1), .accepted⟩

/-- Slots deleted from a display: `count` from `p` on, or the one
    beside `p` when `count` is zero. The value of the other slots is
    formatted anew, so what stands behind moves up. -/
def deleteRange (m : Mask) (o : Options) (display : Text) (p count : Nat) (side : Side) :
    Outcome :=
  if m.isEmpty then deleteFree display p count side
  else match deleteSpan m.length p count side with
    | .error caret => ⟨display, caret, .rejected⟩
    | .ok (p, count) =>
      let raw := { o with keepPrompt := false, keepLiterals := false }
      let value := m.unmaskRange raw display 0 p ++
        m.unmaskRange raw display (p + count) m.length
      ⟨m.format o value, p, .accepted⟩

end Mask

end InputMask
