/-
  File:      InputMask/Proofs/Caret/Position.lean
  Subject:   The positions of the placeholders of a row.

  The placeholders are numbered from the left, from zero on; the position
  of a number behind the last one is the length of the row.

  * `getElem?_placeholderAt` -- the slot at the position of a number is
    the placeholder with that number;
  * `placeholdersBefore`, `placeholderAt_lt_iff` -- how many placeholders
    stand in front of a position: those whose own position is further left;
  * `nextEditable_zero`, `nextEditable_succ`, `nextEditable_eq_self` -- the
    caret starts on the first placeholder and goes on from each to the next,
    and none is passed over;
  * `nextEditable_le`, `prevEditable_lt` -- no caret move leaves the mask;
  * `isPlaceholder_nextEditable` -- a move to the right does not end on a
    literal slot.
-/
import InputMask.Field
namespace InputMask

open InputMask.Field (placeholderAt placeholderAt_literal placeholderAt_zero placeholderAt_succ)

/-! ## 1. Numbered placeholders -/

section Rows

variable (n : Nat) (slots : List Slot)

/-- The slot at the position of a number is the placeholder with that
    number. -/
theorem getElem?_placeholderAt :
    slots[placeholderAt n slots]? = (slots.filter Slot.isPlaceholder)[n]? := by
  induction slots generalizing n with
  | nil => cases n <;> rfl
  | cons s rest ih =>
    cases hs : s.isPlaceholder with
    | false =>
      rw [placeholderAt_literal hs, List.getElem?_cons_succ, ih,
        List.filter_cons_of_neg (by simp [hs])]
    | true =>
      rw [List.filter_cons_of_pos hs]
      cases n with
      | zero =>
        rw [placeholderAt_zero hs]
        rfl
      | succ n => rw [placeholderAt_succ hs, List.getElem?_cons_succ, List.getElem?_cons_succ, ih]

theorem placeholderAt_le_length : placeholderAt n slots ≤ slots.length := by
  induction slots generalizing n with
  | nil => cases n <;> exact Nat.le_refl 0
  | cons s rest ih =>
    cases hs : s.isPlaceholder with
    | false =>
      rw [placeholderAt_literal hs]
      exact Nat.succ_le_succ (ih n)
    | true =>
      cases n with
      | zero =>
        rw [placeholderAt_zero hs]
        exact Nat.zero_le _
      | succ n =>
        rw [placeholderAt_succ hs]
        exact Nat.succ_le_succ (ih n)

/-- The position of the first placeholder is where a search for one ends. -/
theorem placeholderAt_zero_eq_findIdx :
    placeholderAt 0 slots = slots.findIdx Slot.isPlaceholder := by
  induction slots with
  | nil => rfl
  | cons s rest ih =>
    rw [List.findIdx_cons]
    cases hs : s.isPlaceholder with
    | false => rw [placeholderAt_literal hs, ih, cond_false]
    | true => rw [placeholderAt_zero hs, cond_true]

/-- Behind a placeholder the next one is the first. -/
theorem placeholderAt_add_one (h : n < (slots.filter Slot.isPlaceholder).length) :
    placeholderAt (n + 1) slots =
      placeholderAt n slots + 1 + placeholderAt 0 (slots.drop (placeholderAt n slots + 1)) := by
  induction slots generalizing n with
  | nil => exact absurd h (Nat.not_lt_zero n)
  | cons s rest ih =>
    cases hs : s.isPlaceholder with
    | false =>
      rw [List.filter_cons_of_neg (by simp [hs])] at h
      rw [placeholderAt_literal hs, placeholderAt_literal hs, List.drop_succ_cons, ih n h]
      omega
    | true =>
      rw [List.filter_cons_of_pos hs, List.length_cons] at h
      rw [placeholderAt_succ hs]
      cases n with
      | zero =>
        rw [placeholderAt_zero hs, List.drop_succ_cons, List.drop_zero]
        omega
      | succ n =>
        rw [placeholderAt_succ hs, List.drop_succ_cons, ih n (Nat.lt_of_succ_lt_succ h)]
        omega

/-- The last editable position of a row is one of its positions. -/
theorem lastEditable_lt {i : Nat} (h : lastEditable slots = some i) : i < slots.length := by
  induction slots generalizing i with
  | nil => cases h
  | cons s rest ih =>
    unfold lastEditable at h
    split at h
    · rename_i j hj
      cases h
      exact Nat.succ_lt_succ (ih hj)
    · split at h
      · cases h
        exact Nat.succ_pos _
      · cases h

variable {n} {slots}

/-- Behind the last number there is only the end of the row. -/
theorem placeholderAt_of_length_le (h : (slots.filter Slot.isPlaceholder).length ≤ n) :
    placeholderAt n slots = slots.length := by
  have hnone : slots[placeholderAt n slots]? = none := by
    rw [getElem?_placeholderAt]
    exact List.getElem?_eq_none h
  exact Nat.le_antisymm (placeholderAt_le_length n slots) (List.getElem?_eq_none_iff.mp hnone)

/-- Numbers behind the last one are told apart no further. -/
theorem placeholderAt_min (n : Nat) (slots : List Slot) :
    placeholderAt (min (slots.filter Slot.isPlaceholder).length n) slots =
      placeholderAt n slots := by
  rcases Nat.le_total (slots.filter Slot.isPlaceholder).length n with h | h
  · rw [Nat.min_eq_left h, placeholderAt_of_length_le h,
      placeholderAt_of_length_le (Nat.le_refl _)]
  · rw [Nat.min_eq_right h]

/-- The position of a number is no literal slot. -/
theorem isPlaceholder_placeholderAt {s : Slot} (h : slots[placeholderAt n slots]? = some s) :
    s.isPlaceholder = true := by
  rw [getElem?_placeholderAt] at h
  exact (List.mem_filter.mp (List.mem_of_getElem? h)).2

end Rows

/-! ## 2. Placeholders in front of a position -/

/-- The number of placeholders in front of a position of a row. -/
def placeholdersBefore (slots : List Slot) (i : Nat) : Nat :=
  ((slots.take i).filter Slot.isPlaceholder).length

section Before

variable {s : Slot} {slots rest : List Slot} {i j n : Nat}

@[simp] theorem placeholdersBefore_zero (slots : List Slot) : placeholdersBefore slots 0 = 0 :=
  rfl

theorem placeholdersBefore_literal (hs : s.isPlaceholder = false) (i : Nat) :
    placeholdersBefore (s :: rest) (i + 1) = placeholdersBefore rest i := by
  unfold placeholdersBefore
  rw [List.take_succ_cons, List.filter_cons_of_neg (by simp [hs])]

theorem placeholdersBefore_placeholder (hs : s.isPlaceholder = true) (i : Nat) :
    placeholdersBefore (s :: rest) (i + 1) = placeholdersBefore rest i + 1 := by
  unfold placeholdersBefore
  rw [List.take_succ_cons, List.filter_cons_of_pos hs, List.length_cons]

/-- In front of the end of a row stand all its placeholders. -/
theorem placeholdersBefore_of_length_le (h : slots.length ≤ i) :
    placeholdersBefore slots i = (slots.filter Slot.isPlaceholder).length := by
  unfold placeholdersBefore
  rw [List.take_of_length_le h]

/-- No placeholder stands behind the end of a row. -/
theorem placeholdersBefore_min (slots : List Slot) (i : Nat) :
    placeholdersBefore slots (min i slots.length) = placeholdersBefore slots i := by
  unfold placeholdersBefore
  rw [← List.take_eq_take_min]

/-- Further right stand no fewer placeholders in front. -/
theorem placeholdersBefore_mono (slots : List Slot) (h : i ≤ j) :
    placeholdersBefore slots i ≤ placeholdersBefore slots j :=
  ((List.take_sublist_take_left h).filter _).length_le

theorem placeholdersBefore_le (slots : List Slot) (i : Nat) :
    placeholdersBefore slots i ≤ (slots.filter Slot.isPlaceholder).length :=
  ((List.take_sublist i slots).filter _).length_le

/-- **A placeholder stands in front of a position** exactly when its number
    is less than the number of placeholders there. -/
theorem placeholderAt_lt_iff (hi : i ≤ slots.length) :
    placeholderAt n slots < i ↔ n < placeholdersBefore slots i := by
  induction slots generalizing n i with
  | nil =>
    obtain rfl : i = 0 := Nat.le_zero.mp hi
    simp
  | cons s rest ih =>
    cases i with
    | zero => simp
    | succ i =>
      have hi : i ≤ rest.length := Nat.le_of_succ_le_succ hi
      cases hs : s.isPlaceholder with
      | false =>
        rw [placeholderAt_literal hs, placeholdersBefore_literal hs, Nat.add_lt_add_iff_right,
          ih hi]
      | true =>
        rw [placeholdersBefore_placeholder hs]
        cases n with
        | zero =>
          rw [placeholderAt_zero hs]
          exact iff_of_true (Nat.succ_pos i) (Nat.succ_pos _)
        | succ n =>
          rw [placeholderAt_succ hs, Nat.add_lt_add_iff_right, Nat.add_lt_add_iff_right, ih hi]

/-- In front of the placeholder with a number stand as many others. -/
theorem placeholdersBefore_placeholderAt
    (h : n ≤ (slots.filter Slot.isPlaceholder).length) :
    placeholdersBefore slots (placeholderAt n slots) = n := by
  induction slots generalizing n with
  | nil =>
    obtain rfl : n = 0 := Nat.le_zero.mp h
    rfl
  | cons s rest ih =>
    cases hs : s.isPlaceholder with
    | false =>
      rw [List.filter_cons_of_neg (by simp [hs])] at h
      rw [placeholderAt_literal hs, placeholdersBefore_literal hs, ih h]
    | true =>
      rw [List.filter_cons_of_pos hs, List.length_cons] at h
      cases n with
      | zero => rw [placeholderAt_zero hs, placeholdersBefore_zero]
      | succ n =>
        rw [placeholderAt_succ hs, placeholdersBefore_placeholder hs,
          ih (Nat.le_of_succ_le_succ h)]

end Before

/-! ## 3. Caret moves -/

namespace Mask

variable (m : Mask)

/-- The search for an editable position ends at the first placeholder of
    the slots it starts from. -/
theorem nextEditable_eq (k : Nat) :
    m.nextEditable k =
      min k m.length + placeholderAt 0 (m.slots.drop (min k m.length)) := by
  rw [placeholderAt_zero_eq_findIdx, List.findIdx_eq_getD_findIdx?]
  simp only [nextEditable]
  cases (m.slots.drop (min k m.length)).findIdx? Slot.isPlaceholder with
  | some i => rfl
  | none =>
    rw [Option.getD_none, List.length_drop]
    exact (Nat.add_sub_cancel' (Nat.min_le_right k m.length)).symm

theorem nextEditable_zero : m.nextEditable 0 = placeholderAt 0 m.slots := by
  rw [m.nextEditable_eq, Nat.zero_min, List.drop_zero, Nat.zero_add]

/-- From a placeholder the caret goes on to the next one. -/
theorem nextEditable_succ {n : Nat} (h : n < (m.slots.filter Slot.isPlaceholder).length) :
    m.nextEditable (placeholderAt n m.slots + 1) = placeholderAt (n + 1) m.slots := by
  have hget : m.slots[placeholderAt n m.slots]? = some _ :=
    (getElem?_placeholderAt n m.slots).trans (List.getElem?_eq_getElem h)
  obtain ⟨hlt, -⟩ := List.getElem?_eq_some_iff.mp hget
  have hmin : min (placeholderAt n m.slots + 1) m.length = placeholderAt n m.slots + 1 :=
    Nat.min_eq_left hlt
  rw [m.nextEditable_eq, hmin, placeholderAt_add_one n m.slots h]

/-- A position that is no literal slot is editable itself, or the end. -/
theorem nextEditable_eq_self {k : Nat} (hk : k ≤ m.length)
    (h : ∀ s, m.slots[k]? = some s → s.isPlaceholder = true) : m.nextEditable k = k := by
  have hfirst : placeholderAt 0 (m.slots.drop k) = 0 := by
    cases hs : m.slots[k]? with
    | none =>
      rw [List.drop_eq_nil_of_le (List.getElem?_eq_none_iff.mp hs)]
      rfl
    | some s =>
      obtain ⟨hlt, rfl⟩ := List.getElem?_eq_some_iff.mp hs
      rw [List.drop_eq_getElem_cons hlt]
      exact placeholderAt_zero (h _ hs) _
  rw [m.nextEditable_eq, Nat.min_eq_left hk, hfirst, Nat.add_zero]

/-- From a literal slot the search goes on behind it. -/
theorem nextEditable_of_literal {k : Nat} {s : Slot} (hs : m.slots[k]? = some s)
    (hliteral : s.isPlaceholder = false) : m.nextEditable k = m.nextEditable (k + 1) := by
  obtain ⟨hlt, rfl⟩ := List.getElem?_eq_some_iff.mp hs
  have hmin : min k m.length = k := Nat.min_eq_left (Nat.le_of_lt hlt)
  have hmin' : min (k + 1) m.length = k + 1 := Nat.min_eq_left hlt
  rw [m.nextEditable_eq, m.nextEditable_eq, hmin, hmin', List.drop_eq_getElem_cons hlt,
    placeholderAt_literal hliteral]
  omega

theorem nextEditable_le (k : Nat) : m.nextEditable k ≤ m.length := by
  have hle := placeholderAt_le_length 0 (m.slots.drop (min k m.length))
  rw [List.length_drop] at hle
  rw [m.nextEditable_eq]
  unfold length at hle ⊢
  omega

/-- A search for an editable position ends on no literal slot. -/
theorem isPlaceholder_nextEditable {k : Nat} {s : Slot}
    (h : m.slots[m.nextEditable k]? = some s) : s.isPlaceholder = true := by
  rw [m.nextEditable_eq, ← List.getElem?_drop] at h
  exact isPlaceholder_placeholderAt h

theorem prevEditable_lt {k i : Nat} (h : m.prevEditable k = some i) : i < k := by
  have hlt := lastEditable_lt _ h
  rw [List.length_take] at hlt
  omega

end Mask

end InputMask
