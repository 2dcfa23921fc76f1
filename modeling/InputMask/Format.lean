/-
  File:      InputMask/Format.lean
  Subject:   Formatting: raw text laid out by a mask.

  Input is read from the left, slots are filled from the left.

  * A literal slot shows its literal, and the input goes on behind the
    first place where that literal stands in it, if there is one.
  * A placeholder takes the next character if it accepts it.
  * A prompt that is not accepted passes over one placeholder.
  * Any other character jumps to the first literal slot that shows it
    and leaves the slots before it blank; where there is none it is
    dropped.

  When the input ends, the slots that are left are blank. Blanks at
  the end of the whole are trimmed. A mask without slots gives the
  text back as it is.
-/
import InputMask.Mask
import InputMask.Options
namespace InputMask

/-! ## 1. Blank slots -/

/-- The blank forms of a row of slots. -/
def blanks (prompt : Option Char) (slots : List Slot) : Text :=
  slots.filterMap (Slot.blank prompt)

theorem blanks_literal {prompt : Option Char} {s : Slot} {l : Char} (hl : s.literal? = some l)
    (rest : List Slot) : blanks prompt (s :: rest) = l :: blanks prompt rest := by
  unfold blanks
  rw [List.filterMap_cons, Slot.blank_of_literal? hl]

theorem blanks_placeholder {p : Char} {s : Slot} (hs : s.literal? = none) (rest : List Slot) :
    blanks (some p) (s :: rest) = p :: blanks (some p) rest := by
  unfold blanks
  rw [List.filterMap_cons, Slot.blank_of_placeholder hs]

/-- With a prompt every slot has a blank form. -/
theorem exists_blanks_cons (p : Char) (s : Slot) (rest : List Slot) :
    ∃ c, blanks (some p) (s :: rest) = c :: blanks (some p) rest := by
  cases hs : s.literal? with
  | some l => exact ⟨l, blanks_literal hs rest⟩
  | none => exact ⟨p, blanks_placeholder hs rest⟩

/-- With a prompt the blank forms of the slots behind a position stand
    behind that position. -/
theorem drop_blanks_some (p : Char) (slots : List Slot) (n : Nat) :
    (blanks (some p) slots).drop n = blanks (some p) (slots.drop n) := by
  induction slots generalizing n with
  | nil => simp [blanks]
  | cons s rest ih =>
    cases n with
    | zero => rfl
    | succ n =>
      obtain ⟨c, hc⟩ := exists_blanks_cons p s rest
      rw [hc, List.drop_succ_cons, List.drop_succ_cons, ih]

/-- The blank forms of a row are no more than its slots. -/
theorem length_blanks_le (prompt : Option Char) (slots : List Slot) :
    (blanks prompt slots).length ≤ slots.length :=
  List.length_filterMap_le _ _

/-! ## 2. Looking ahead -/

/-- The input behind the first place where a character stands, or the
    whole input where it stands nowhere. -/
def pastFirst (l : Char) (input : Text) : Text :=
  if l ∈ input then (input.dropWhile (· ≠ l)).drop 1 else input

/-- What stands behind the first place of a literal is the end of the input. -/
theorem pastFirst_suffix (l : Char) (input : Text) : pastFirst l input <:+ input := by
  unfold pastFirst
  split
  · exact (List.drop_suffix 1 _).trans (List.dropWhile_suffix _)
  · exact List.suffix_refl _

/-- Looking past a literal never adds input. -/
theorem length_pastFirst_le (l : Char) (input : Text) :
    (pastFirst l input).length ≤ input.length :=
  (pastFirst_suffix l input).length_le

/-- Nothing but what stands behind the first literal is left. -/
theorem pastFirst_append_cons {l : Char} {front : Text} (h : l ∉ front) (back : Text) :
    pastFirst l (front ++ l :: back) = back := by
  have hfront : ∀ c ∈ front, decide (c ≠ l) = true := fun c hc =>
    decide_eq_true fun e => h (e ▸ hc)
  unfold pastFirst
  rw [if_pos (List.mem_append_right _ List.mem_cons_self),
    List.dropWhile_append_of_pos hfront, List.dropWhile_cons_of_neg (by simp)]
  rfl

/-- A literal at the head of the input is the first one. -/
@[simp] theorem pastFirst_cons_self (l : Char) (input : Text) :
    pastFirst l (l :: input) = input :=
  pastFirst_append_cons List.not_mem_nil input

/-- Input without the literal is looked past as a whole. -/
theorem pastFirst_of_not_mem {l : Char} {input : Text} (h : l ∉ input) :
    pastFirst l input = input :=
  if_neg h

/-- More input without the literal is not looked past. -/
theorem pastFirst_append {l : Char} {extra : Text} (h : l ∉ extra) (input : Text) :
    pastFirst l (input ++ extra) = pastFirst l input ++ extra := by
  by_cases hmem : l ∈ input
  · obtain ⟨front, back, rfl, hfront⟩ := List.eq_append_cons_of_mem hmem
    rw [List.append_assoc, List.cons_append, pastFirst_append_cons hfront,
      pastFirst_append_cons hfront]
  · have hnone : l ∉ input ++ extra := fun hl => (List.mem_append.mp hl).elim hmem h
    rw [pastFirst_of_not_mem hnone, pastFirst_of_not_mem hmem]

/-- Other characters of the input may be left out before or after. -/
theorem pastFirst_filter {l : Char} {keep : Char → Bool} (h : keep l = true) (input : Text) :
    pastFirst l (input.filter keep) = (pastFirst l input).filter keep := by
  by_cases hmem : l ∈ input
  · obtain ⟨front, back, rfl, hfront⟩ := List.eq_append_cons_of_mem hmem
    rw [List.filter_append, List.filter_cons_of_pos h,
      pastFirst_append_cons (fun hl => hfront (List.mem_filter.mp hl).1),
      pastFirst_append_cons hfront]
  · rw [pastFirst_of_not_mem (fun hl => hmem (List.mem_filter.mp hl).1),
      pastFirst_of_not_mem hmem]

/-- The slots before and behind the first literal slot that shows a
    character. -/
def splitAtLiteral (c : Char) : List Slot → Option (List Slot × List Slot)
  | [] => none
  | s :: rest =>
    if s.literal? = some c then some ([], rest)
    else (splitAtLiteral c rest).map fun r => (s :: r.1, r.2)

/-- The two parts and the literal slot between them are the whole row. -/
theorem eq_of_splitAtLiteral {c : Char} {slots skipped rest : List Slot}
    (h : splitAtLiteral c slots = some (skipped, rest)) :
    ∃ s, s.literal? = some c ∧ slots = skipped ++ s :: rest := by
  induction slots generalizing skipped with
  | nil => simp [splitAtLiteral] at h
  | cons s r ih =>
    unfold splitAtLiteral at h
    split at h
    · rename_i hs
      simp only [Option.some.injEq, Prod.mk.injEq] at h
      exact ⟨s, hs, by simp [← h.1, ← h.2]⟩
    · simp only [Option.map_eq_some_iff, Prod.mk.injEq, Prod.exists] at h
      obtain ⟨a, b, hab, rfl, rfl⟩ := h
      obtain ⟨s', hs', rfl⟩ := ih hab
      exact ⟨s', hs', rfl⟩

/-- A row splits at a character exactly when one of its literal slots
    shows it. -/
theorem splitAtLiteral_eq_none_iff {c : Char} {slots : List Slot} :
    splitAtLiteral c slots = none ↔ ∀ s ∈ slots, s.literal? ≠ some c := by
  induction slots with
  | nil => simp [splitAtLiteral]
  | cons s r ih =>
    by_cases h : s.literal? = some c <;> simp [splitAtLiteral, h, ih]

/-- The literal slot found is the first one that shows the character. -/
theorem literal?_ne_of_splitAtLiteral {c : Char} {slots skipped rest : List Slot}
    (h : splitAtLiteral c slots = some (skipped, rest)) : ∀ s ∈ skipped, s.literal? ≠ some c := by
  induction slots generalizing skipped with
  | nil => simp [splitAtLiteral] at h
  | cons s r ih =>
    unfold splitAtLiteral at h
    split at h
    · simp only [Option.some.injEq, Prod.mk.injEq] at h
      simp [← h.1]
    · rename_i hs
      simp only [Option.map_eq_some_iff, Prod.mk.injEq, Prod.exists] at h
      obtain ⟨a, b, hab, rfl, rfl⟩ := h
      exact List.forall_mem_cons.mpr ⟨hs, ih hab⟩

/-- What stands behind the literal slot is part of the row. -/
theorem subset_of_splitAtLiteral {c : Char} {slots skipped rest : List Slot}
    (h : splitAtLiteral c slots = some (skipped, rest)) : rest ⊆ slots := by
  obtain ⟨s, _, rfl⟩ := eq_of_splitAtLiteral h
  exact fun x hx => List.mem_append_right _ (List.mem_cons_of_mem _ hx)

/-- What stands behind the literal slot is shorter than the row. -/
theorem length_of_splitAtLiteral {c : Char} {slots skipped rest : List Slot}
    (h : splitAtLiteral c slots = some (skipped, rest)) : rest.length < slots.length := by
  obtain ⟨s, _, rfl⟩ := eq_of_splitAtLiteral h
  simp
  omega

/-! ## 3. Filling slots -/

/-- The display of input over a row of slots, before trimming. -/
def fill (o : Options) : List Slot → Text → Text
  | [], _ => []
  | s :: rest, [] => blanks o.prompt (s :: rest)
  | s :: rest, c :: input =>
    match s.literal? with
    | some l => l :: fill o rest (pastFirst l (c :: input))
    | none =>
      match s.accept c with
      | some d => d :: fill o rest input
      | none =>
        if some c = o.prompt then
          if o.keepPrompt then c :: fill o rest input else fill o rest input
        else
          match _h : splitAtLiteral c rest with
          | some (skipped, rest') =>
            blanks o.prompt (s :: skipped) ++ c :: fill o rest' input
          | none => fill o (s :: rest) input
termination_by slots input => slots.length + input.length
decreasing_by
  · have := length_pastFirst_le l (c :: input)
    simp only [List.length_cons] at this ⊢
    omega
  · simp only [List.length_cons]; omega
  · simp only [List.length_cons]; omega
  · simp only [List.length_cons]; omega
  · have := length_of_splitAtLiteral _h
    simp only [List.length_cons]; omega
  · simp only [List.length_cons]; omega

section Equations

variable {o : Options} {s : Slot} {rest : List Slot} {c : Char} {input : Text}

/-- Without slots nothing is shown. -/
@[simp] theorem fill_no_slots (o : Options) (input : Text) : fill o [] input = [] := by
  rw [fill]

/-- Where the input ends, the slots that are left are blank. -/
@[simp] theorem fill_nil (o : Options) (slots : List Slot) :
    fill o slots [] = blanks o.prompt slots := by
  cases slots with
  | nil =>
    rw [fill]
    rfl
  | cons s rest => rw [fill]

theorem fill_literal {l : Char} (hl : s.literal? = some l) (input : Text) :
    fill o (s :: rest) input = l :: fill o rest (pastFirst l input) := by
  cases input with
  | nil =>
    rw [fill_nil, blanks_literal hl, pastFirst_of_not_mem List.not_mem_nil, fill_nil]
  | cons c input =>
    rw [fill]
    simp only [hl]

theorem fill_taken {d : Char} (hs : s.literal? = none) (hc : s.accept c = some d) :
    fill o (s :: rest) (c :: input) = d :: fill o rest input := by
  rw [fill]
  simp only [hs, hc]

theorem fill_prompt (hs : s.literal? = none) (hc : s.accept c = none)
    (hp : o.prompt = some c) (hk : o.keepPrompt = true) :
    fill o (s :: rest) (c :: input) = c :: fill o rest input := by
  rw [fill]
  simp only [hs, hc, hp, hk, if_true]

theorem fill_prompt_dropped (hs : s.literal? = none) (hc : s.accept c = none)
    (hp : o.prompt = some c) (hk : o.keepPrompt = false) :
    fill o (s :: rest) (c :: input) = fill o rest input := by
  rw [fill]
  simp only [hs, hc, hp, hk, if_true, Bool.false_eq_true, if_false]

theorem fill_jump {skipped rest' : List Slot} (hs : s.literal? = none)
    (hc : s.accept c = none) (hp : o.prompt ≠ some c)
    (hj : splitAtLiteral c rest = some (skipped, rest')) :
    fill o (s :: rest) (c :: input) =
      blanks o.prompt (s :: skipped) ++ c :: fill o rest' input := by
  rw [fill]
  simp only [hs, hc, hp.symm, if_false]
  split
  · rename_i hj'
    rw [hj] at hj'
    cases hj'
    rfl
  · rename_i hj'
    rw [hj] at hj'
    cases hj'

theorem fill_passed (hs : s.literal? = none) (hc : s.accept c = none)
    (hp : o.prompt ≠ some c) (hj : splitAtLiteral c rest = none) :
    fill o (s :: rest) (c :: input) = fill o (s :: rest) input := by
  rw [fill]
  simp only [hs, hc, hp.symm, if_false]
  split
  · rename_i hj'
    rw [hj] at hj'
    cases hj'
  · rfl

end Equations

/-- The display of a raw text. -/
def Mask.format (m : Mask) (o : Options) (raw : Text) : Text :=
  if m.isEmpty then raw else Text.trimEnd (fill o m.slots raw)

/-- Under a mask with slots the display is the filled row, trimmed. -/
theorem Mask.format_eq {m : Mask} (hm : m.isEmpty = false) (o : Options) (raw : Text) :
    m.format o raw = Text.trimEnd (fill o m.slots raw) := by
  unfold format
  rw [hm]
  rfl

end InputMask
