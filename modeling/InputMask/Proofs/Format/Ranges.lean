/-
  File:      InputMask/Proofs/Format/Ranges.lean
  Subject:   A display read range by range.

  Edits cut a display at two positions and put what is read on both sides
  together again. The ends of a range are cut to the mask, each on its own, so
  that a seam loses no character and doubles none is not plain from the
  definition. It is plain from the positions: a range reads each of its own.

  * `Mask.readAt` -- what the position of a display holds;
  * `Mask.unmaskRange_eq_flatMap` -- a range reads position after position;
  * `Mask.unmaskRange_of_le`, `Mask.unmaskRange_of_length_le` -- reversed
    ranges, and ranges that end behind the mask;
  * `Mask.sublist_unmaskRange` -- options that keep more characters;
  * **`Mask.unmask_in_ranges`** -- the value of a display, read in ranges.
-/
import Mathlib.Data.List.Basic
import InputMask.Unmask
namespace InputMask

/-! ## 1. Options that keep more -/

/-- An option that is turned on drops no character. -/
theorem Options.keeps_of_imp {o o' : Options} {c : Char} {s : Slot}
    (h : o.keeps c s = true) (hprompt : o'.prompt = o.prompt)
    (hp : o.keepPrompt = true → o'.keepPrompt = true)
    (hl : o.keepLiterals = true → o'.keepLiterals = true) : o'.keeps c s = true := by
  unfold Options.keeps at h ⊢
  rw [hprompt]
  simp only [Bool.and_eq_true, Bool.or_eq_true, Bool.not_eq_true', Bool.and_eq_false_iff,
    Bool.not_eq_false'] at h ⊢
  exact ⟨h.1.imp_right hp, h.2.imp_right hl⟩

namespace Mask

variable (m : Mask) (o : Options) (display : Text)

/-! ## 2. Positions -/

/-- **What a position of a display holds**: its character where it has one
    in a slot and that one is kept. -/
def readAt (i : Nat) : Text :=
  match display[i]?, m.slots[i]? with
  | some c, some s => if o.keeps c s then [c] else []
  | _, _ => []

/-- A reversed range is empty. -/
theorem unmaskRange_of_le {first stop : Nat} (h : stop ≤ first) :
    m.unmaskRange o display first stop = [] := by
  have hle : min stop m.length ≤ first := Nat.le_trans (Nat.min_le_left _ _) h
  unfold unmaskRange
  simp [Nat.min_eq_right hle]

/-- A range that ends behind the mask ends with the mask. -/
theorem unmaskRange_of_length_le {stop : Nat} (h : m.length ≤ stop) (first : Nat) :
    m.unmaskRange o display first stop = m.unmaskRange o display first m.length := by
  unfold unmaskRange
  rw [Nat.min_eq_right h, Nat.min_self]

theorem unmaskRange_one (i : Nat) :
    m.unmaskRange o display i (i + 1) = m.readAt o display i := by
  rcases Nat.lt_or_ge i m.length with hi | hi
  · -- inside the mask neither end of the range is cut
    have hstop : min (i + 1) m.length = i + 1 := Nat.min_eq_left hi
    have hfirst : min i (i + 1) = i := Nat.min_eq_left (Nat.le_succ i)
    simp only [unmaskRange, hstop, hfirst, List.drop_take, Nat.add_sub_cancel_left,
      List.take_one, List.head?_drop, List.zip_eq_zipWith, List.getElem?_zipWith, readAt]
    cases display[i]? with
    | none => rfl
    | some c =>
      cases m.slots[i]? with
      | none => rfl
      | some s => cases hk : o.keeps c s <;> simp [hk]
  · have hnone : m.slots[i]? = none := List.getElem?_eq_none_iff.mpr hi
    rw [m.unmaskRange_of_length_le o display (Nat.le_succ_of_le hi),
      m.unmaskRange_of_le o display hi]
    simp [readAt, hnone]

/-- **A range reads position after position.** -/
theorem unmaskRange_eq_flatMap (first stop : Nat) :
    m.unmaskRange o display first stop =
      (List.range' first (stop - first)).flatMap (m.readAt o display) := by
  rcases Nat.le_total stop first with h | h
  · rw [m.unmaskRange_of_le o display h, Nat.sub_eq_zero_of_le h]
    rfl
  · induction h with
    | refl =>
      rw [m.unmaskRange_of_le o display (Nat.le_refl first), Nat.sub_self]
      rfl
    | @step stop h ih =>
      have hone := m.unmaskRange_append o display h (Nat.le_succ stop)
      rw [← hone, ih, unmaskRange_one, Nat.succ_sub h, List.range'_1_concat,
        List.flatMap_append, Nat.add_sub_cancel' h, List.flatMap_singleton]

/-! ## 3. The value in ranges -/

/-- Options that keep more characters leave out none of the others. -/
theorem sublist_unmaskRange {o o' : Options}
    (h : ∀ c s, o.keeps c s = true → o'.keeps c s = true) (first stop : Nat) :
    (m.unmaskRange o display first stop).Sublist (m.unmaskRange o' display first stop) := by
  unfold unmaskRange
  exact (List.monotone_filter_right _ fun (x : Char × Slot) => h x.1 x.2).map _

/-- **The value of a display, read in ranges.** Under a mask with slots a range
    holds what its positions hold, one after the other. So two ranges that meet
    are read as one, and a reversed range is empty; two ranges that meet
    anywhere and end behind the mask hold the value, before it is trimmed. To
    keep prompts, or to keep literals, only adds characters. -/
theorem unmask_in_ranges {m : Mask} (hm : m.isEmpty = false) (o : Options) (display : Text) :
    (∀ first stop, m.unmaskRange o display first stop =
      (List.range' first (stop - first)).flatMap (m.readAt o display)) ∧
    (∀ first middle stop, first ≤ middle → middle ≤ stop →
      m.unmaskRange o display first middle ++ m.unmaskRange o display middle stop =
        m.unmaskRange o display first stop) ∧
    (∀ first stop, stop ≤ first → m.unmaskRange o display first stop = []) ∧
    (∀ middle stop, middle ≤ stop → m.length ≤ stop →
      m.unmask o display = Text.trimEnd
        (m.unmaskRange o display 0 middle ++ m.unmaskRange o display middle stop)) ∧
    (∀ first stop,
      (m.unmaskRange { o with keepPrompt := false } display first stop).Sublist
        (m.unmaskRange { o with keepPrompt := true } display first stop)) ∧
    ∀ first stop,
      (m.unmaskRange { o with keepLiterals := false } display first stop).Sublist
        (m.unmaskRange { o with keepLiterals := true } display first stop) := by
  refine ⟨m.unmaskRange_eq_flatMap o display,
    fun first middle stop hf hs => m.unmaskRange_append o display hf hs,
    fun first stop h => m.unmaskRange_of_le o display h, fun middle stop hs hend => ?_,
    m.sublist_unmaskRange display fun c s => ?_, m.sublist_unmaskRange display fun c s => ?_⟩
  · rw [m.unmaskRange_append o display (Nat.zero_le middle) hs,
      m.unmaskRange_of_length_le o display hend, m.unmaskRange_all, m.unmask_eq hm]
  · exact fun h => Options.keeps_of_imp h rfl (fun _ => rfl) id
  · exact fun h => Options.keeps_of_imp h rfl id fun _ => rfl

/-- A prompt, a literal, a character on it that is not its own, and two
    characters behind the mask: the seams fall on a literal, at the end and far
    behind it. -/
theorem unmask_in_ranges_date :
    let m := Mask.compile "90-09".toList
    let o : Options := ⟨some '_', false, false⟩
    let display := "1_+4  x".toList
    m.isEmpty = false ∧
    m.unmaskRange o display 0 2 ++ m.unmaskRange o display 2 4 =
      m.unmaskRange o display 0 4 ∧
    m.unmaskRange o display 9 2 = [] ∧
    m.unmask o display = Text.trimEnd
      (m.unmaskRange o display 0 4 ++ m.unmaskRange o display 4 40) ∧
    m.unmaskRange o display 0 40 = "14 ".toList ∧ m.unmask o display = "14".toList ∧
    "14 ".toList.Sublist (m.unmaskRange { o with keepPrompt := true } display 0 40) ∧
    "14 ".toList.Sublist (m.unmaskRange { o with keepLiterals := true } display 0 40) := by
  intro m o display
  have hm : m.isEmpty = false := by decide
  have hall : m.unmaskRange o display 0 40 = "14 ".toList := by decide
  obtain ⟨-, happend, hreversed, hvalue, hprompts, hliterals⟩ := unmask_in_ranges hm o display
  refine ⟨hm, happend 0 2 4 (by decide) (by decide), hreversed 9 2 (by decide),
    hvalue 4 40 (by decide) (by decide), hall, by decide, ?_, ?_⟩
  · rw [← hall]
    exact hprompts 0 40
  · rw [← hall]
    exact hliterals 0 40

end Mask

end InputMask
