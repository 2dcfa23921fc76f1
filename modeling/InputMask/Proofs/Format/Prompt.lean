/-
  File:      InputMask/Proofs/Format/Prompt.lean
  Subject:   What the choice of the prompt shows, and what it does not.

  The prompt stands where nothing is entered. A raw text that has nothing to
  do with it, neither as it is nor under the case modes of the slots, fills
  the slots in the same way whichever prompt is shown, and also if none is.

  * `withoutPrompts`, `fill_hidden` -- hiding prompts takes the unfilled
    placeholders out of the full display;
  * `Reprompted`, `reprompted_fill` -- displays with two prompts differ in
    the unfilled placeholders alone, each of which shows its prompt;
  * `FreshPrompt` -- a prompt that a raw text has nothing to do with;
  * **`unmask_format_prompt`** -- with such prompts the value of a display
    is one and the same, and the display without prompts is what is kept of
    it when literals are.
-/
import InputMask.Proofs.Format.ReadBack
namespace InputMask

/-! ## 1. Displays without their prompts -/

/-- A full display with the unfilled placeholders taken out; a literal
    that is the prompt stays. -/
def withoutPrompts (p : Char) : List Slot → Text → Text
  | s :: rest, c :: display =>
    if s.isPlaceholder ∧ c = p then withoutPrompts p rest display
    else c :: withoutPrompts p rest display
  | _, _ => []

section Hidden

variable {p : Char} {s : Slot} {rest : List Slot} {c : Char}

theorem withoutPrompts_literal {l : Char} (hl : s.literal? = some l) (display : Text) :
    withoutPrompts p (s :: rest) (c :: display) = c :: withoutPrompts p rest display := by
  have hs := Slot.isPlaceholder_of_literal? hl
  exact if_neg fun h => Bool.false_ne_true (hs.symm.trans h.1)

theorem withoutPrompts_filled (hc : c ≠ p) (display : Text) :
    withoutPrompts p (s :: rest) (c :: display) = c :: withoutPrompts p rest display :=
  if_neg fun h => hc h.2

theorem withoutPrompts_unfilled (hs : s.literal? = none) (display : Text) :
    withoutPrompts p (s :: rest) (p :: display) = withoutPrompts p rest display :=
  if_pos ⟨Slot.literal?_eq_none_iff.mp hs, rfl⟩

/-- Of blank slots in front the literals stay. -/
theorem withoutPrompts_blanks_append (front slots : List Slot) (display : Text) :
    withoutPrompts p (front ++ slots) (blanks (some p) front ++ display) =
      blanks none front ++ withoutPrompts p slots display := by
  induction front with
  | nil => rfl
  | cons s front ih =>
    cases hl : s.literal? with
    | some l =>
      rw [blanks_literal hl, blanks_literal hl, List.cons_append, List.cons_append,
        withoutPrompts_literal hl, ih]
      rfl
    | none =>
      have hnone : blanks none (s :: front) = blanks none front :=
        List.filterMap_cons_none (Slot.blank_of_placeholder hl none)
      rw [blanks_placeholder hl, List.cons_append, List.cons_append,
        withoutPrompts_unfilled hl, ih, hnone]

/-- **Hidden prompts.** A raw text without the prompt, of which no
    placeholder makes the prompt, is filled in with hidden prompts like
    with prompts that show, only that the unfilled placeholders are
    missing. -/
theorem fill_hidden {slots : List Slot} {raw : Text} (keep keep' keepPrompt : Bool)
    (hp : p ∉ raw) (hn : NoneToPrompt p slots raw) :
    fill ⟨none, keepPrompt, keep'⟩ slots raw =
      withoutPrompts p slots (fill ⟨some p, true, keep⟩ slots raw) := by
  have hblanks : ∀ slots, withoutPrompts p slots (blanks (some p) slots) = blanks none slots := by
    intro slots
    have h := withoutPrompts_blanks_append (p := p) slots [] []
    rw [List.append_nil, List.append_nil] at h
    exact h.trans (List.append_nil _)
  have hnone : ∀ c : Char, none ≠ some c := fun c => nofun
  fun_induction fill ⟨some p, true, keep⟩ slots raw with
  | case1 raw =>
    rw [fill]
    rfl
  | case2 s rest => rw [fill_nil, hblanks]
  | case3 s rest c input l hl ih =>
    have hsub := (pastFirst_suffix l (c :: input)).subset
    rw [fill_literal hl, withoutPrompts_literal hl,
      ih (fun h => hp (hsub h)) (hn.of_subset (List.subset_cons_self _ _) hsub)]
  | case4 s rest c input hs d hc ih =>
    have hd : d ≠ p := hn.ne_of_accept hs hc
    rw [fill_taken hs hc, withoutPrompts_filled hd, ih (fun h => hp (List.mem_cons_of_mem _ h))
      (hn.of_subset (List.subset_cons_self _ _) (List.subset_cons_self _ _))]
  | case5 s rest c input hs _ hcp _ ih =>
    cases hcp
    exact absurd List.mem_cons_self hp
  | case6 s rest c input hs _ _ hk => exact absurd rfl hk
  | case7 s rest c input hs hc hcp skipped rest' hj ih =>
    obtain ⟨s', hs', rfl⟩ := eq_of_splitAtLiteral hj
    have hsub := List.subset_cons_of_subset s (subset_of_splitAtLiteral hj)
    rw [fill_jump hs hc (hnone c) hj, ← List.cons_append, withoutPrompts_blanks_append,
      withoutPrompts_literal hs', ih (fun h => hp (List.mem_cons_of_mem _ h))
      (hn.of_subset hsub (List.subset_cons_self _ _))]
  | case8 s rest c input hs hc hcp hj ih =>
    rw [fill_passed hs hc (hnone c) hj, ih (fun h => hp (List.mem_cons_of_mem _ h))
      (hn.of_subset (List.Subset.refl _) (List.subset_cons_self _ _))]

theorem withoutPrompts_append (slots : List Slot) (t u : Text) :
    withoutPrompts p slots (t ++ u) =
      withoutPrompts p slots t ++ withoutPrompts p (slots.drop t.length) u := by
  induction t generalizing slots with
  | nil => cases slots <;> rfl
  | cons c t ih =>
    cases slots with
    | nil => rfl
    | cons s slots =>
      show (if _ then _ else _) = (if _ then _ else _) ++ _
      split
      · exact ih slots
      · exact congrArg (c :: ·) (ih slots)

theorem withoutPrompts_subset (slots : List Slot) (display : Text) :
    withoutPrompts p slots display ⊆ display := by
  induction display generalizing slots with
  | nil => cases slots <;> exact List.Subset.refl _
  | cons c display ih =>
    cases slots with
    | nil => exact List.nil_subset _
    | cons s slots =>
      show (if _ then _ else _ : Text) ⊆ c :: display
      split
      · exact List.subset_cons_of_subset _ (ih slots)
      · exact List.cons_subset_cons c (ih slots)

/-- The blanks at the end of a display leave nothing but blanks. -/
theorem trimEnd_withoutPrompts_trimEnd (slots : List Slot) (t : Text) :
    Text.trimEnd (withoutPrompts p slots (Text.trimEnd t)) =
      Text.trimEnd (withoutPrompts p slots t) := by
  obtain ⟨u, hu, hb⟩ := Text.exists_trimEnd_append t
  have happend := withoutPrompts_append (p := p) slots (Text.trimEnd t) u
  rw [← hu] at happend
  rw [happend, Text.trimEnd_append_of_all _ fun c hc => hb c (withoutPrompts_subset _ _ hc)]

/-- Where no literal is the prompt, all prompts are taken out. -/
theorem withoutPrompts_eq_filter {slots : List Slot} {display : Text}
    (hliteral : ∀ s ∈ slots, s.literal? ≠ some p) (h : FullDisplay p slots display) :
    withoutPrompts p slots display = display.filter (· != p) := by
  induction h with
  | nil => rfl
  | @cons s c rest display hs _ ih =>
    obtain ⟨hfirst, hrest⟩ := List.forall_mem_cons.mp hliteral
    by_cases hc : c = p
    · subst hc
      cases hl : s.literal? with
      | some l =>
        obtain rfl := (shows_literal hl).mp hs
        exact absurd hl hfirst
      | none =>
        rw [withoutPrompts_unfilled hl, ih hrest, List.filter_cons_of_neg (by simp)]
    · rw [withoutPrompts_filled hc, ih hrest, List.filter_cons_of_pos (by simpa using hc)]

end Hidden

/-! ## 2. Prompts that a raw text has nothing to do with -/

/-- **A prompt that tells unfilled placeholders apart**: it stands neither in
    the raw text nor in the mask, and no placeholder's case mode makes it of a
    character of the text. -/
structure FreshPrompt (p : Char) (slots : List Slot) (raw : Text) : Prop where
  input : p ∉ raw
  literal : hasLiteral slots p = false
  shifted : ∀ s ∈ slots, s.isPlaceholder = true → ∀ c ∈ raw, s.caseMode.shift c ≠ p

instance (p : Char) (slots : List Slot) (raw : Text) : Decidable (FreshPrompt p slots raw) :=
  decidable_of_iff
    (p ∉ raw ∧ hasLiteral slots p = false ∧
      ∀ s ∈ slots, s.isPlaceholder = true → (raw.all fun c => s.caseMode.shift c != p) = true)
    ⟨fun ⟨hi, hl, hs⟩ => ⟨hi, hl, by simpa using hs⟩,
      fun h => ⟨h.input, h.literal, by simpa using h.shifted⟩⟩

section Fresh

variable {p : Char} {slots rest : List Slot} {raw raw' : Text}

theorem FreshPrompt.of_subset (h : FreshPrompt p slots raw) (hslots : rest ⊆ slots)
    (hraw : raw' ⊆ raw) : FreshPrompt p rest raw' where
  input hp := h.input (hraw hp)
  literal := hasLiteral_eq_false_iff.mpr fun s hs =>
    hasLiteral_eq_false_iff.mp h.literal s (hslots hs)
  shifted s hs hph c hc := h.shifted s (hslots hs) hph c (hraw hc)

/-- No placeholder makes a fresh prompt of the text. -/
theorem FreshPrompt.noneToPrompt (h : FreshPrompt p slots raw) : NoneToPrompt p slots raw := by
  intro c hc s hs hph haccept
  exact h.shifted s hs hph c hc
    (Slot.eq_shift_of_accept (Slot.literal?_eq_none_iff.mpr hph) haccept).symm

end Fresh

/-! ## 3. Displays with two prompts -/

/-- **Rows that differ in their prompts alone**: slot for slot they show the
    same literal; or they are `filled` with the same character, which is none
    of the two prompts; or they are `blank`, and each shows its prompt. -/
inductive Reprompted (p q : Char) : List Slot → Text → Text → Prop where
  | nil : Reprompted p q [] [] []
  | literal {s : Slot} {rest : List Slot} {l : Char} {t u : Text} (hl : s.literal? = some l)
      (h : Reprompted p q rest t u) : Reprompted p q (s :: rest) (l :: t) (l :: u)
  | filled {s : Slot} {rest : List Slot} {d : Char} {t u : Text} (hs : s.literal? = none)
      (hd : s.accept d = some d) (hp : d ≠ p) (hq : d ≠ q) (h : Reprompted p q rest t u) :
      Reprompted p q (s :: rest) (d :: t) (d :: u)
  | blank {s : Slot} {rest : List Slot} {t u : Text} (hs : s.literal? = none)
      (h : Reprompted p q rest t u) : Reprompted p q (s :: rest) (p :: t) (q :: u)

section Reprompted

variable {p q : Char} {slots : List Slot} {t u : Text}

/-- Blank slots in front differ in their prompts alone. -/
theorem Reprompted.blanks_append (front : List Slot) (h : Reprompted p q slots t u) :
    Reprompted p q (front ++ slots) (blanks (some p) front ++ t) (blanks (some q) front ++ u) := by
  induction front with
  | nil => exact h
  | cons s front ih =>
    cases hs : s.literal? with
    | some l =>
      rw [blanks_literal hs, blanks_literal hs]
      exact .literal hs ih
    | none =>
      rw [blanks_placeholder hs, blanks_placeholder hs]
      exact .blank hs ih

theorem reprompted_blanks (p q : Char) (slots : List Slot) :
    Reprompted p q slots (blanks (some p) slots) (blanks (some q) slots) := by
  have h := Reprompted.blanks_append slots (.nil (p := p) (q := q))
  rwa [List.append_nil, List.append_nil, List.append_nil] at h

/-- **A row filled with one prompt and with another** differs in the prompts
    alone, if the text has nothing to do with either. -/
theorem reprompted_fill (keep keep' : Bool) {raw : Text} (hp : FreshPrompt p slots raw)
    (hq : FreshPrompt q slots raw) :
    Reprompted p q slots (fill ⟨some p, true, keep⟩ slots raw)
      (fill ⟨some q, true, keep'⟩ slots raw) := by
  fun_induction fill ⟨some p, true, keep⟩ slots raw with
  | case1 raw =>
    rw [fill_no_slots]
    exact .nil
  | case2 s rest =>
    rw [fill_nil]
    exact reprompted_blanks p q (s :: rest)
  | case3 s rest c input l hl ih =>
    have hrest := List.subset_cons_self s rest
    have hsub := (pastFirst_suffix l (c :: input)).subset
    rw [fill_literal hl]
    exact .literal hl (ih (hp.of_subset hrest hsub) (hq.of_subset hrest hsub))
  | case4 s rest c input hs d hc ih =>
    have hdp : d ≠ p := hp.noneToPrompt.ne_of_accept hs hc
    have hdq : d ≠ q := hq.noneToPrompt.ne_of_accept hs hc
    have hrest := List.subset_cons_self s rest
    have hsub := List.subset_cons_self c input
    rw [fill_taken hs hc]
    exact .filled hs (Slot.accept_of_accept hc) hdp hdq
      (ih (hp.of_subset hrest hsub) (hq.of_subset hrest hsub))
  | case5 s rest c input hs _ hcp _ ih =>
    cases hcp
    exact absurd List.mem_cons_self hp.input
  | case6 s rest c input hs _ _ hk => exact absurd rfl hk
  | case7 s rest c input hs hc hcp skipped rest' hj ih =>
    have hcq : some q ≠ some c := fun e => hq.input (Option.some.inj e ▸ List.mem_cons_self)
    rw [fill_jump hs hc hcq hj]
    obtain ⟨s', hs', rfl⟩ := eq_of_splitAtLiteral hj
    have hrest := List.subset_cons_of_subset s (subset_of_splitAtLiteral hj)
    have hsub := List.subset_cons_self c input
    exact (Reprompted.literal hs' (ih (hp.of_subset hrest hsub)
      (hq.of_subset hrest hsub))).blanks_append (s :: skipped)
  | case8 s rest c input hs hc hcp hj ih =>
    have hcq : some q ≠ some c := fun e => hq.input (Option.some.inj e ▸ List.mem_cons_self)
    have hrest := List.Subset.refl (s :: rest)
    have hsub := List.subset_cons_self c input
    rw [fill_passed hs hc hcq hj]
    exact ih (hp.of_subset hrest hsub) (hq.of_subset hrest hsub)

/-- **Of rows that differ in their prompts alone the same values are kept.** -/
theorem Reprompted.kept_eq (h : Reprompted p q slots t u) :
    Options.kept ⟨some p, false, false⟩ t slots = Options.kept ⟨some q, false, false⟩ u slots := by
  induction h with
  | nil => rfl
  | literal hl _ ih =>
    rw [Options.kept_cons_of_not (Options.keeps_literal hl _ _ _),
      Options.kept_cons_of_not (Options.keeps_literal hl _ _ _), ih]
  | filled hs hd hp hq _ ih =>
    rw [Options.kept_cons_of_keeps (Options.keeps_taken hs hd hp false false),
      Options.kept_cons_of_keeps (Options.keeps_taken hs hd hq false false), ih]
  | @blank s _ _ _ _ _ ih =>
    rw [Options.kept_cons_of_not (Options.keeps_prompt p false s),
      Options.kept_cons_of_not (Options.keeps_prompt q false s), ih]

end Reprompted

/-! ## 4. Values and displays without prompts -/

/-- **The prompt is there to be looked at.** With either of two prompts that
    the raw text has nothing to do with, the value of its display is the same.
    The display with hidden prompts is what is kept of the display with
    prompts when literals are kept and prompts are not. -/
theorem unmask_format_prompt (m : Mask) (hm : m.isEmpty = false) (raw : Text) {p q : Char}
    (hp : FreshPrompt p m.slots raw) (hq : FreshPrompt q m.slots raw) (keep keep' : Bool) :
    m.unmask ⟨some p, false, false⟩ (m.format ⟨some p, true, keep⟩ raw) =
      m.unmask ⟨some q, false, false⟩ (m.format ⟨some q, true, keep'⟩ raw) ∧
    m.format ⟨none, false, keep'⟩ raw =
      m.unmask ⟨some p, false, true⟩ (m.format ⟨some p, true, keep⟩ raw) := by
  have hfull := (laid_fill p keep m.slots raw).fullDisplay
  constructor
  · have hsame := reprompted_fill keep keep' hp hq
    rw [m.format_eq hm, m.format_eq hm, m.unmask_trimEnd hm, m.unmask_trimEnd hm, m.unmask_eq hm,
      m.unmask_eq hm, hsame.kept_eq]
  · rw [unmask_format_eq_trimEnd m hm, m.format_eq hm,
      fill_hidden keep keep' false hp.input hp.noneToPrompt,
      withoutPrompts_eq_filter (hasLiteral_eq_false_iff.mp hp.literal) hfull]

/-- A date short of digits, with a prompt that shows and with a blank one, of
    which the last are trimmed off. -/
theorem unmask_format_prompt_date :
    let m := Mask.compile "00/00/00".toList
    let raw := "3/1".toList
    (m.isEmpty = false ∧ FreshPrompt '_' m.slots raw ∧ FreshPrompt ' ' m.slots raw) ∧
    (m.format ⟨some '_', true, false⟩ raw = "3_/1_/__".toList ∧
      m.format ⟨some ' ', true, false⟩ raw = "3 /1 /".toList) ∧
    m.unmask ⟨some '_', false, false⟩ "3_/1_/__".toList =
      m.unmask ⟨some ' ', false, false⟩ "3 /1 /".toList ∧
    m.format ⟨none, false, false⟩ raw = m.unmask ⟨some '_', false, true⟩ "3_/1_/__".toList := by
  intro m raw
  have hm : m.isEmpty = false := by decide +kernel
  have hp : FreshPrompt '_' m.slots raw := by decide +kernel
  have hq : FreshPrompt ' ' m.slots raw := by decide +kernel
  have hshown : m.format ⟨some '_', true, false⟩ raw = "3_/1_/__".toList := by decide +kernel
  have hblank : m.format ⟨some ' ', true, false⟩ raw = "3 /1 /".toList := by decide +kernel
  obtain ⟨hvalue, hhidden⟩ := unmask_format_prompt m hm raw hp hq false false
  rw [hshown, hblank] at hvalue
  rw [hshown] at hhidden
  exact ⟨⟨hm, hp, hq⟩, ⟨hshown, hblank⟩, hvalue, hhidden⟩

/-- A prompt that a case mode makes of the raw text hides what is entered. -/
example :
    let m := Mask.compile ">L".toList
    m.unmask ⟨some 'A', false, false⟩ (m.format ⟨some 'A', true, false⟩ "a".toList) = [] ∧
      m.unmask ⟨some '_', false, false⟩ (m.format ⟨some '_', true, false⟩ "a".toList) =
        "A".toList := by
  decide +kernel

end InputMask
