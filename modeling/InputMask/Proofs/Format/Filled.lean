/-
  File:      InputMask/Proofs/Format/Filled.lean
  Subject:   Filled placeholders, counted and located.

  What is read from a display says how many of its placeholders are filled,
  not which. The placeholder whose number is that count stands behind all of
  them only if there is no free one in between.

  * `FilledAt` -- a placeholder that shows something other than the prompt;
  * `Gapless` -- no placeholder in front of a filled one is free;
  * `readBefore`, `readBefore_le_placeholdersBefore` -- up to a position no
    more is read than there are placeholders, and as much only if all of
    them are filled;
  * **`forall_filledAt_lt_iff`** -- when the placeholder with the number of
    characters read stands behind all filled ones.
-/
import InputMask.Proofs.Caret.Edit
import InputMask.Proofs.Caret.Position
namespace InputMask

open InputMask.Field (placeholderAt)

/-! ## 1. Filled placeholders -/

/-- A position of a row where a placeholder stands. -/
def PlaceholderSlot (slots : List Slot) (i : Nat) : Prop :=
  slots[i]?.any Slot.isPlaceholder = true

/-- A placeholder where a display shows something other than the prompt. -/
def FilledAt (p : Char) (slots : List Slot) (display : Text) (i : Nat) : Prop :=
  PlaceholderSlot slots i ∧ display[i]?.any (· != p) = true

/-- **No placeholder in front of a filled one is free.** -/
def Gapless (p : Char) (slots : List Slot) (display : Text) : Prop :=
  ∀ i j, i < j → FilledAt p slots display j → PlaceholderSlot slots i → FilledAt p slots display i

instance (slots : List Slot) (i : Nat) : Decidable (PlaceholderSlot slots i) :=
  inferInstanceAs (Decidable (_ = true))

instance (p : Char) (slots : List Slot) (display : Text) (i : Nat) :
    Decidable (FilledAt p slots display i) :=
  inferInstanceAs (Decidable (_ ∧ _))

theorem PlaceholderSlot.lt_length {slots : List Slot} {i : Nat} (h : PlaceholderSlot slots i) :
    i < slots.length := by
  unfold PlaceholderSlot at h
  by_contra hge
  rw [List.getElem?_eq_none (Nat.not_lt.mp hge)] at h
  cases h

/-- The position of a number is that of a placeholder, or the end. -/
theorem placeholderSlot_placeholderAt (n : Nat) (slots : List Slot) :
    PlaceholderSlot slots (placeholderAt n slots) ∨ placeholderAt n slots = slots.length := by
  cases hs : slots[placeholderAt n slots]? with
  | none =>
    exact .inr (Nat.le_antisymm (placeholderAt_le_length n slots) (List.getElem?_eq_none_iff.mp hs))
  | some s =>
    left
    unfold PlaceholderSlot
    rw [hs]
    exact isPlaceholder_placeholderAt hs

instance (p : Char) (slots : List Slot) (display : Text) : Decidable (Gapless p slots display) :=
  decidable_of_iff
    (∀ j < slots.length, FilledAt p slots display j → ∀ i < j, PlaceholderSlot slots i →
      FilledAt p slots display i)
    ⟨fun h i j hij hj => h j hj.1.lt_length hj i hij, fun h j _ hj i hij => h i j hij hj⟩

/-! ## 2. Counting -/

section Counting

variable {p : Char} {slots : List Slot} {t : Text} {i k n : Nat}

theorem placeholdersBefore_add_one (slots : List Slot) (k : Nat) :
    placeholdersBefore slots (k + 1) =
      placeholdersBefore slots k + if PlaceholderSlot slots k then 1 else 0 := by
  unfold placeholdersBefore
  rw [List.take_add_one, List.filter_append, List.length_append]
  congr 1
  cases hs : slots[k]? with
  | none => simp [PlaceholderSlot, hs]
  | some s => cases hp : s.isPlaceholder <;> simp [PlaceholderSlot, hs, hp]

/-- Each position of a trimmed display shows what its slot may show. -/
theorem TrimmedDisplay.shows (h : TrimmedDisplay p slots t) {s : Slot} {c : Char}
    (hs : slots[k]? = some s) (hc : t[k]? = some c) : s.Shows p c := by
  obtain ⟨display, hd, rfl⟩ := h
  obtain ⟨hk, rfl⟩ := List.getElem?_eq_some_iff.mp hs
  obtain ⟨hk', rfl⟩ := List.getElem?_eq_some_iff.mp (Text.getElem?_of_trimEnd hc)
  exact hd.get hk hk'

/-- What is read from a placeholder is all but the prompt. -/
theorem keeps_iff_of_shows {s : Slot} {c : Char} (h : s.Shows p c) :
    Options.keeps ⟨some p, false, false⟩ c s = true ↔ s.isPlaceholder = true ∧ c ≠ p := by
  cases hl : s.literal? with
  | some l => simp [Options.keeps_literal hl, Slot.isPlaceholder_of_literal? hl]
  | none =>
    have hs := Slot.literal?_eq_none_iff.mp hl
    rcases (shows_placeholder hl).mp h with rfl | hc
    · simp [Options.keeps_prompt]
    · simp [Options.keeps, hs, hc]

/-- How many characters are read from a display up to a position. -/
def readBefore (p : Char) (slots : List Slot) (t : Text) (k : Nat) : Nat :=
  (Options.kept ⟨some p, false, false⟩ (t.take k) slots).length

@[simp] theorem readBefore_zero (p : Char) (slots : List Slot) (t : Text) :
    readBefore p slots t 0 = 0 :=
  rfl

/-- One more position is one more character read if it is filled. -/
theorem readBefore_add_one (h : TrimmedDisplay p slots t) (k : Nat) :
    readBefore p slots t (k + 1) =
      readBefore p slots t k + if FilledAt p slots t k then 1 else 0 := by
  unfold readBefore
  rw [List.take_add_one, Options.kept_append, List.length_append]
  congr 1
  cases hc : t[k]? with
  | none => simp [FilledAt, hc]
  | some c =>
    have hk : k < t.length := (List.getElem?_eq_some_iff.mp hc).1
    rw [List.length_take, Nat.min_eq_left (Nat.le_of_lt hk)]
    cases hs : slots[k]? with
    | none =>
      rw [List.drop_of_length_le (List.getElem?_eq_none_iff.mp hs)]
      simp [FilledAt, PlaceholderSlot, hs]
    | some s =>
      obtain ⟨hlt, hget⟩ := List.getElem?_eq_some_iff.mp hs
      have hkeep : Options.keeps ⟨some p, false, false⟩ c s = true ↔ FilledAt p slots t k := by
        rw [keeps_iff_of_shows (h.shows hs hc)]
        simp [FilledAt, PlaceholderSlot, hs, hc]
      rw [List.drop_eq_getElem_cons hlt, hget, Option.toList_some]
      by_cases hf : FilledAt p slots t k
      · rw [Options.kept_cons_of_keeps (hkeep.mpr hf), if_pos hf]
        simp
      · rw [Options.kept_cons_of_not (Bool.eq_false_iff.mpr (mt hkeep.mp hf)), if_neg hf]
        simp

/-- **Up to a position no more is read than there are placeholders**, and
    as much as that only if all of them are filled. -/
theorem readBefore_le_placeholdersBefore (h : TrimmedDisplay p slots t) (k : Nat) :
    readBefore p slots t k ≤ placeholdersBefore slots k ∧
      (readBefore p slots t k = placeholdersBefore slots k ↔
        ∀ i < k, PlaceholderSlot slots i → FilledAt p slots t i) := by
  induction k with
  | zero => simp
  | succ k ih =>
    obtain ⟨hle, hiff⟩ := ih
    rw [readBefore_add_one h, placeholdersBefore_add_one, Nat.forall_lt_succ_right, ← hiff]
    by_cases hf : FilledAt p slots t k
    · have hs : PlaceholderSlot slots k := hf.1
      simp only [hf, hs, if_true, implies_true, and_true]
      omega
    · by_cases hs : PlaceholderSlot slots k
      · simp only [hf, hs, if_true, if_false, imp_false, not_true_eq_false, and_false, iff_false]
        omega
      · simp only [hf, hs, if_false, false_implies, and_true]
        omega

/-- Up to a position no more is read than there is to read. -/
theorem readBefore_le (p : Char) (slots : List Slot) (t : Text) (k : Nat) :
    readBefore p slots t k ≤ (Options.kept ⟨some p, false, false⟩ t slots).length := by
  have happend := Options.kept_append ⟨some p, false, false⟩ (t.take k) (t.drop k) slots
  rw [List.take_append_drop] at happend
  rw [happend, List.length_append]
  exact Nat.le_add_right _ _

/-- Behind the last filled placeholder nothing more is read. -/
theorem readBefore_of_filled_lt (h : TrimmedDisplay p slots t)
    (hk : ∀ i, FilledAt p slots t i → i < k) :
    readBefore p slots t k = (Options.kept ⟨some p, false, false⟩ t slots).length := by
  have hmore : ∀ n, readBefore p slots t (k + n) = readBefore p slots t k := by
    intro n
    induction n with
    | zero => rfl
    | succ n ih =>
      have hfree : ¬FilledAt p slots t (k + n) := fun hf =>
        absurd (hk _ hf) (Nat.not_lt.mpr (Nat.le_add_right k n))
      rw [← Nat.add_assoc, readBefore_add_one h, if_neg hfree, ih, Nat.add_zero]
  have hall : t.take (k + t.length) = t := List.take_of_length_le (Nat.le_add_left _ _)
  rw [← hmore t.length, readBefore, hall]

end Counting

/-! ## 3. Counting and locating -/

/-- **The placeholder with the number of characters read** stands behind all
    filled ones exactly when none in front of these is free and no blank at
    the end of what is read is trimmed off. -/
theorem forall_filledAt_lt_iff {p : Char} {slots : List Slot} {t : Text}
    (h : TrimmedDisplay p slots t) :
    let read := Options.kept ⟨some p, false, false⟩ t slots
    (∀ i, FilledAt p slots t i → i < placeholderAt (Text.trimEnd read).length slots) ↔
      Gapless p slots t ∧ read.getLast?.any Text.isBlank = false := by
  intro read
  constructor
  · intro hlt
    -- all that is read is read in front of the caret, where there is no more room than that
    have hbefore : placeholdersBefore slots (placeholderAt (Text.trimEnd read).length slots) ≤
        (Text.trimEnd read).length :=
      Nat.not_lt.mp ((placeholderAt_lt_iff (placeholderAt_le_length _ _)).not.mp (Nat.lt_irrefl _))
    have htrim := Text.length_trimEnd_le read
    have hread := readBefore_of_filled_lt h hlt
    obtain ⟨hle, hiff⟩ :=
      readBefore_le_placeholdersBefore h (placeholderAt (Text.trimEnd read).length slots)
    rw [hread] at hle hiff
    have hfull := hiff.mp (Nat.le_antisymm hle (Nat.le_trans hbefore htrim))
    refine ⟨fun i j hij hj hs => hfull i (Nat.lt_trans hij (hlt j hj)) hs, ?_⟩
    have hself : Text.trimEnd read = read :=
      (Text.trimEnd_isPrefix read).eq_of_length
        (Nat.le_antisymm htrim (Nat.le_trans hle hbefore))
    rw [← hself]
    exact Text.getLast?_trimEnd read
  · rintro ⟨hgapless, hlast⟩ i hi
    rw [Text.trimEnd_eq_self hlast]
    -- up to the filled placeholder all are filled, so that many characters are read there
    obtain ⟨-, hiff⟩ := readBefore_le_placeholdersBefore h (i + 1)
    have hall := hiff.mpr fun j hj hs => by
      rcases Nat.lt_or_eq_of_le (Nat.le_of_lt_succ hj) with hj | rfl
      · exact hgapless j i hj hi hs
      · exact hi
    have hle : _ ≤ read.length := readBefore_le p slots t (i + 1)
    by_contra hge
    have hlt : read.length < placeholdersBefore slots (i + 1) :=
      (placeholderAt_lt_iff hi.1.lt_length).mp (Nat.lt_succ_of_le (Nat.not_lt.mp hge))
    omega

end InputMask
