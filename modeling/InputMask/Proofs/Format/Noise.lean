/-
  File:      InputMask/Proofs/Format/Noise.lean
  Subject:   Characters of a raw text that its display takes no notice of.

  A character that no slot has a use for is dropped wherever it stands. No
  search for a literal ends at it, no placeholder takes it or is passed over
  for it, and it jumps nowhere; that it is dropped in front of one slot and
  not of another makes no difference, because the slots see none of it.

  * `Noise` -- such a character, told by the row alone;
  * `fill_filter` -- filling a row from a text and from what is left of it
    without some of its noise is the same;
  * **`format_withoutNoise`** -- so is the display of a text without all of
    its noise.
-/
import InputMask.Format
namespace InputMask

/-! ## 1. Noise -/

/-- **A character that no slot of a row has a use for**: no literal slot
    shows it, it is not the prompt, and no placeholder takes it. -/
structure Noise (o : Options) (slots : List Slot) (c : Char) : Prop where
  literal : hasLiteral slots c = false
  prompt : o.prompt ≠ some c
  refused : ∀ s ∈ slots, s.isPlaceholder = true → s.accept c = none

instance (o : Options) (slots : List Slot) (c : Char) : Decidable (Noise o slots c) :=
  decidable_of_iff
    (hasLiteral slots c = false ∧ o.prompt ≠ some c ∧
      ∀ s ∈ slots, s.isPlaceholder = true → s.accept c = none)
    ⟨fun ⟨hl, hp, hr⟩ => ⟨hl, hp, hr⟩, fun h => ⟨h.literal, h.prompt, h.refused⟩⟩

/-- A raw text without its noise. -/
def withoutNoise (o : Options) (slots : List Slot) (raw : Text) : Text :=
  raw.filter fun c => ¬Noise o slots c

section Noise

variable {o : Options} {slots rest : List Slot} {c : Char}

theorem Noise.literal?_ne (h : Noise o slots c) {s : Slot} (hs : s ∈ slots) :
    s.literal? ≠ some c :=
  hasLiteral_eq_false_iff.mp h.literal s hs

/-- What a row has no use for, none of its parts has. -/
theorem Noise.of_subset (h : Noise o slots c) (hsub : rest ⊆ slots) : Noise o rest c where
  literal := hasLiteral_eq_false_iff.mpr fun _ hs => h.literal?_ne (hsub hs)
  prompt := h.prompt
  refused s hs := h.refused s (hsub hs)

end Noise

/-! ## 2. Displays without noise -/

/-- Where only noise is left out, what a slot has a use for is kept. -/
private theorem kept_of_used {o : Options} {slots : List Slot} {keep : Char → Bool}
    (h : ∀ c, keep c = false → Noise o slots c) {c : Char} (hc : ¬Noise o slots c) :
    keep c = true :=
  Bool.of_not_eq_false (mt (h c) hc)

/-- **Noise may be left out**: a row is filled from a text as it is from the
    characters kept of it, if all that are not kept are noise. -/
theorem fill_filter (o : Options) (slots : List Slot) (raw : Text) {keep : Char → Bool}
    (h : ∀ c, keep c = false → Noise o slots c) :
    fill o slots (raw.filter keep) = fill o slots raw := by
  fun_induction fill o slots raw with
  | case1 raw => rw [fill_no_slots]
  | case2 s rest => rw [List.filter_nil, fill_nil]
  | case3 s rest c input l hl ih =>
    have hkeep : keep l = true := kept_of_used h fun hn => hn.literal?_ne List.mem_cons_self hl
    rw [fill_literal hl, pastFirst_filter hkeep,
      ih fun c hc => (h c hc).of_subset (List.subset_cons_self s rest)]
  | case4 s rest c input hs d hc ih =>
    have hkeep : keep c = true := kept_of_used h fun hn => by
      rw [hn.refused s List.mem_cons_self (Slot.literal?_eq_none_iff.mp hs)] at hc
      cases hc
    rw [List.filter_cons_of_pos hkeep, fill_taken hs hc,
      ih fun c hc => (h c hc).of_subset (List.subset_cons_self s rest)]
  | case5 s rest c input hs hc hp hk ih =>
    have hkeep : keep c = true := kept_of_used h fun hn => hn.prompt hp.symm
    rw [List.filter_cons_of_pos hkeep, fill_prompt hs hc hp.symm hk,
      ih fun c hc => (h c hc).of_subset (List.subset_cons_self s rest)]
  | case6 s rest c input hs hc hp hk ih =>
    have hkeep : keep c = true := kept_of_used h fun hn => hn.prompt hp.symm
    rw [List.filter_cons_of_pos hkeep, fill_prompt_dropped hs hc hp.symm (Bool.eq_false_iff.mpr hk),
      ih fun c hc => (h c hc).of_subset (List.subset_cons_self s rest)]
  | case7 s rest c input hs hc hp skipped rest' hj ih =>
    obtain ⟨s', hs', rfl⟩ := eq_of_splitAtLiteral hj
    have hkeep : keep c = true := kept_of_used h fun hn => hn.literal?_ne (by simp) hs'
    have hsub := List.subset_cons_of_subset s (subset_of_splitAtLiteral hj)
    rw [List.filter_cons_of_pos hkeep, fill_jump hs hc (Ne.symm hp) hj,
      ih fun c hc => (h c hc).of_subset hsub]
  | case8 s rest c input hs hc hp hj ih =>
    -- a character dropped here is kept or not, and is dropped either way
    cases hkeep : keep c with
    | true => rw [List.filter_cons_of_pos hkeep, fill_passed hs hc (Ne.symm hp) hj, ih h]
    | false => rw [List.filter_cons_of_neg (by simp [hkeep]), ih h]

/-- **The display of a raw text without its noise** is the display of the raw
    text, under all options. -/
theorem format_withoutNoise (m : Mask) (hm : m.isEmpty = false) (o : Options) (raw : Text) :
    m.format o (withoutNoise o m.slots raw) = m.format o raw := by
  have hnoise : ∀ c, decide (¬Noise o m.slots c) = false → Noise o m.slots c := fun c hc =>
    Decidable.of_not_not (of_decide_eq_false hc)
  rw [m.format_eq hm, m.format_eq hm]
  exact congrArg Text.trimEnd (fill_filter o m.slots raw hnoise)

/-- A number plate entered with slips in front of a letter, of a separator
    and of a digit, and behind them all. -/
theorem format_withoutNoise_plate :
    let m := Mask.compile ">L-00".toList
    let o : Options := ⟨some '_', true, false⟩
    m.isEmpty = false ∧ withoutNoise o m.slots "*b+-.7!".toList = "b-7".toList ∧
      m.format o "b-7".toList = m.format o "*b+-.7!".toList := by
  intro m o
  have hm : m.isEmpty = false := by decide
  have hleft : withoutNoise o m.slots "*b+-.7!".toList = "b-7".toList := by decide
  refine ⟨hm, hleft, ?_⟩
  rw [← hleft]
  exact format_withoutNoise m hm o _

end InputMask
