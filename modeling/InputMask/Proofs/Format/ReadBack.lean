/-
  File:      InputMask/Proofs/Format/ReadBack.lean
  Subject:   Which values are read back from their own display.

  A value is formatted as raw text, and the value of that display is the
  same one exactly when each of its characters gets a slot again.

  * where literals are dropped, the value fills the row from the left
    with its own characters (`unmask_format_eq_self_iff`): whatever is
    passed over, jumps or is changed is missing from the display
    (`takes_kept_fill`);
  * where literals are kept, the value is `Retraced`: literals meet
    themselves, and a character that a placeholder refuses is the next
    literal (`unmask_format_of_retraced`, `retraced_of_unmask_format`).
-/
import InputMask.Proofs.Format.GroupRoundTrip
import InputMask.Proofs.Format.ValueRoundTrip
namespace InputMask

/-! ## 1. Values without literals -/

section Dropped

variable {p : Char} {slots : List Slot} {raw values : Text}

theorem Takes.length_eq (h : Takes slots raw values) : values.length = raw.length := by
  induction h with
  | done => rfl
  | literal _ _ _ ih => exact ih
  | taken _ _ _ ih => exact congrArg (· + 1) ih

/-- What is taken along the row fills it from the left. -/
theorem Takes.leftFilled (h : Takes slots raw values) : LeftFilled slots raw values := by
  induction h with
  | done slots =>
    exact ⟨Nat.zero_le _, List.zipWith_nil_right, fun j hj => absurd hj (Nat.not_lt_zero j)⟩
  | @literal s rest l raw values hl hr _ ih =>
    have hs := Slot.isPlaceholder_of_literal? hl
    have hfilter : (s :: rest).filter Slot.isPlaceholder = rest.filter Slot.isPlaceholder :=
      List.filter_cons_of_neg (by simp [hs])
    refine ⟨hfilter ▸ ih.room, hfilter ▸ ih.taken, fun j hj s' hs' => ?_⟩
    rw [Field.placeholderAt_literal hs, List.take_succ_cons] at hs'
    rcases List.mem_cons.mp hs' with rfl | hs'
    · rw [hl, List.getElem?_eq_getElem hj]
      exact fun heq => hr (Option.some.inj heq ▸ List.getElem_mem hj)
    · exact ih.fresh j hj s' hs'
  | @taken s rest c d raw values hl hc _ ih =>
    have hs := Slot.literal?_eq_none_iff.mp hl
    have hfilter : (s :: rest).filter Slot.isPlaceholder = s :: rest.filter Slot.isPlaceholder :=
      List.filter_cons_of_pos hs
    refine ⟨?_, ?_, fun j hj s' hs' => ?_⟩
    · rw [hfilter]
      exact Nat.succ_le_succ ih.room
    · rw [hfilter, List.zipWith_cons_cons, hc, ih.taken, List.map_cons]
    · cases j with
      | zero =>
        rw [Field.placeholderAt_zero hs] at hs'
        exact absurd hs' List.not_mem_nil
      | succ j =>
        rw [Field.placeholderAt_succ hs, List.take_succ_cons] at hs'
        rcases List.mem_cons.mp hs' with rfl | hs'
        · rw [hl, List.getElem?_eq_getElem hj]
          exact fun heq => nomatch heq
        · exact ih.fresh j (Nat.lt_of_succ_lt_succ hj) s' hs'

/-- Where every placeholder takes every character as it is, and no literal
    is among them, a text that there is room for fills the row from the left. -/
theorem leftFilled_of_accepts (hroom : raw.length ≤ (slots.filter Slot.isPlaceholder).length)
    (haccept : ∀ s ∈ slots, s.isPlaceholder = true → ∀ c ∈ raw, s.accept c = some c)
    (hliteral : ∀ s ∈ slots, ∀ c ∈ raw, s.literal? ≠ some c) : LeftFilled slots raw raw where
  room := hroom
  taken := by
    refine List.ext_getElem (by simp [Nat.min_eq_right hroom]) fun i hi hi' => ?_
    rw [List.getElem_zipWith, List.getElem_map]
    obtain ⟨hmem, hs⟩ := List.mem_filter.mp (List.getElem_mem (l := slots.filter _) _)
    exact haccept _ hmem hs _ (List.getElem_mem _)
  fresh j hj s hs := by
    rw [List.getElem?_eq_getElem hj]
    exact hliteral s (List.mem_of_mem_take hs) _ (List.getElem_mem hj)

/-- Looking past a literal that is found uses up input. -/
theorem length_pastFirst_lt {l : Char} (h : l ∈ raw) :
    (pastFirst l raw).length < raw.length := by
  obtain ⟨front, back, rfl, hfront⟩ := List.eq_append_cons_of_mem h
  rw [pastFirst_append_cons hfront, List.length_append, List.length_cons]
  omega

/-- Blank slots in front of a row hold no value. -/
theorem kept_blanks_append (p : Char) (front slots : List Slot) (t : Text) :
    Options.kept ⟨some p, false, false⟩ (blanks (some p) front ++ t) (front ++ slots) =
      Options.kept ⟨some p, false, false⟩ t slots := by
  induction front with
  | nil => rfl
  | cons s front ih =>
    cases hl : s.literal? with
    | some l =>
      rw [blanks_literal hl, List.cons_append, List.cons_append,
        Options.kept_cons_of_not (Options.keeps_literal hl _ _ l), ih]
    | none =>
      rw [blanks_placeholder hl, List.cons_append, List.cons_append,
        Options.kept_cons_of_not (Options.keeps_prompt p _ s), ih]

/-- **Nothing is lost, or the value is shorter than its raw text**: a raw
    text is taken along the row, or less of it is kept than there was. -/
theorem takes_kept_fill (p : Char) (keep : Bool) (slots : List Slot) (raw : Text) :
    let values := Options.kept ⟨some p, false, false⟩ (fill ⟨some p, true, keep⟩ slots raw) slots
    Takes slots raw values ∨ values.length < raw.length := by
  intro values
  -- whichever of the two holds of a shorter raw text, no more is kept than there is of it
  have bound : ∀ {slots : List Slot} {raw values : Text},
      Takes slots raw values ∨ values.length < raw.length → values.length < raw.length + 1 := by
    intro slots raw values h
    rcases h with h | h
    · rw [h.length_eq]
      exact Nat.lt_succ_self _
    · exact Nat.lt_succ_of_lt h
  unfold values
  fun_induction fill ⟨some p, true, keep⟩ slots raw with
  | case1 raw =>
    cases raw with
    | nil => exact .inl (.done [])
    | cons c raw => exact .inr (Nat.succ_pos _)
  | case2 s rest =>
    rw [kept_blanks]
    exact .inl (.done _)
  | case3 s rest c input l hl ih =>
    rw [Options.kept_cons_of_not (Options.keeps_literal hl _ _ l)]
    by_cases hmem : l ∈ c :: input
    · exact .inr (Nat.lt_of_lt_of_le (bound ih) (length_pastFirst_lt hmem))
    · rw [pastFirst_of_not_mem hmem] at ih ⊢
      exact ih.imp (.literal hl hmem) id
  | case4 s rest c input hs d hc ih =>
    by_cases hd : d = p
    · rw [hd, Options.kept_cons_of_not (Options.keeps_prompt p _ s)]
      exact .inr (bound ih)
    · rw [Options.kept_cons_of_keeps
        (Options.keeps_taken hs (Slot.accept_of_accept hc) hd false false)]
      exact ih.imp (.taken hs hc) Nat.succ_lt_succ
  | case5 s rest c input hs _ hp _ ih =>
    cases hp
    rw [Options.kept_cons_of_not (Options.keeps_prompt p _ s)]
    exact .inr (bound ih)
  | case6 s rest c input hs _ _ hk => exact absurd rfl hk
  | case7 s rest c input hs _ _ skipped rest' hj ih =>
    obtain ⟨s', hs', rfl⟩ := eq_of_splitAtLiteral hj
    have hkept := kept_blanks_append p (s :: skipped) (s' :: rest')
      (c :: fill ⟨some p, true, keep⟩ rest' input)
    rw [Options.kept_cons_of_not (Options.keeps_literal hs' _ _ c)] at hkept
    rw [List.cons_append] at hkept
    rw [hkept]
    exact .inr (bound ih)
  | case8 s rest c input _ _ _ _ ih => exact .inr (bound ih)

/-- The values of a raw text taken along the row are read back. -/
theorem unmask_format_of_takes (m : Mask) (hm : m.isEmpty = false) (keep : Bool)
    (h : Takes m.slots raw values) (hp : p ∉ values) :
    m.unmask ⟨some p, false, false⟩ (m.format ⟨some p, true, keep⟩ raw) = Text.trimEnd values := by
  rw [m.format_eq hm, m.unmask_trimEnd hm, m.unmask_eq hm, fill_of_takes p keep h, kept_seat h hp]

/-- **A value that has lost its literals is read back** exactly when it
    fills the mask from the left with its own characters. -/
theorem unmask_format_eq_self_iff (m : Mask) (hm : m.isEmpty = false) (keep : Bool)
    (hp : p ∉ values) (hv : Text.trimEnd values = values) :
    m.unmask ⟨some p, false, false⟩ (m.format ⟨some p, true, keep⟩ values) = values ↔
      LeftFilled m.slots values values := by
  constructor
  · intro h
    rw [m.format_eq hm, m.unmask_trimEnd hm, m.unmask_eq hm] at h
    have hprefix := Text.trimEnd_isPrefix (Options.kept ⟨some p, false, false⟩
      (fill ⟨some p, true, keep⟩ m.slots values) m.slots)
    rw [h] at hprefix
    rcases takes_kept_fill p keep m.slots values with ht | hlt
    · rw [← hprefix.eq_of_length ht.length_eq.symm] at ht
      exact ht.leftFilled
    · exact absurd hprefix.length_le (Nat.not_le_of_lt hlt)
  · intro h
    rw [unmask_format_of_takes m hm keep h.takes hp, hv]

end Dropped

/-! ## 2. Values with literals -/

/-- **A value that keeps its literals, traced along a row again.** A literal
    slot meets its literal, or shows the prompt, which no value has. A
    placeholder takes the next character as it is; or it refuses it, and
    the next literal other than the prompt is that character. Where the
    value ends (`done`) the literals left are blank or the prompt. -/
inductive Retraced (p : Char) : List Slot → Text → Prop where
  | done {slots : List Slot}
      (hb : ∀ s ∈ slots, ∀ l, s.literal? = some l → l = p ∨ Text.isBlank l = true) :
      Retraced p slots []
  | prompt {s : Slot} {rest : List Slot} {v : Text}
      (hl : s.literal? = some p) (h : Retraced p rest v) : Retraced p (s :: rest) v
  | literal {s : Slot} {rest : List Slot} {l : Char} {v : Text}
      (hl : s.literal? = some l) (hp : l ≠ p) (h : Retraced p rest v) :
      Retraced p (s :: rest) (l :: v)
  | taken {s : Slot} {rest : List Slot} {c : Char} {v : Text}
      (hs : s.literal? = none) (hc : s.accept c = some c) (h : Retraced p rest v) :
      Retraced p (s :: rest) (c :: v)
  | jump {s : Slot} {rest skipped rest' : List Slot} {c : Char} {v : Text}
      (hs : s.literal? = none) (hc : s.accept c = none)
      (hj : splitAtLiteral c rest = some (skipped, rest'))
      (hq : ∀ s' ∈ skipped, ∀ l, s'.literal? = some l → l = p) (h : Retraced p rest' v) :
      Retraced p (s :: rest) (c :: v)

/-- No placeholder of the row makes the prompt of a character of the text. -/
def NoneToPrompt (p : Char) (slots : List Slot) (v : Text) : Prop :=
  ∀ c ∈ v, ∀ s ∈ slots, s.isPlaceholder = true → s.accept c ≠ some p

section Kept

variable {p : Char} {s : Slot} {slots rest : List Slot} {c : Char} {v u : Text}

theorem NoneToPrompt.of_subset {slots' : List Slot} {v' : Text} (h : NoneToPrompt p slots v)
    (hslots : slots' ⊆ slots) (hv : v' ⊆ v) : NoneToPrompt p slots' v' :=
  fun c hc s hs => h c (hv hc) s (hslots hs)

/-- What the first placeholder makes of the first character is not the prompt. -/
theorem NoneToPrompt.ne_of_accept {d : Char} (h : NoneToPrompt p (s :: rest) (c :: v))
    (hs : s.literal? = none) (hc : s.accept c = some d) : d ≠ p := by
  rintro rfl
  exact h c List.mem_cons_self s List.mem_cons_self (Slot.literal?_eq_none_iff.mp hs) hc

/-- Where the prompt belongs in no placeholder, none makes it of any text. -/
theorem noneToPrompt_of_not_fits
    (h : ∀ s ∈ slots, s.isPlaceholder = true → s.kind.fits p = false) (v : Text) :
    NoneToPrompt p slots v := by
  intro c _ s hs hplaceholder hc
  exact Bool.false_ne_true ((h s hs hplaceholder).symm.trans (Slot.fits_of_accept hc))

/-- What blank slots show other than the prompt are their literals. -/
theorem mem_filter_blanks :
    c ∈ (blanks (some p) slots).filter (· != p) ↔ c ≠ p ∧ ∃ s ∈ slots, s.literal? = some c := by
  have hblank : c ≠ p → ∀ s : Slot, s.blank (some p) = some c ↔ s.literal? = some c := by
    intro hc s
    cases hs : s.literal? with
    | some l => rw [Slot.blank_of_literal? hs]
    | none =>
      rw [Slot.blank_of_placeholder hs]
      simp [Ne.symm hc]
  rw [List.mem_filter, blanks, List.mem_filterMap, bne_iff_ne, and_comm]
  refine and_congr_right fun hc => ?_
  simp only [hblank hc]

theorem filter_blanks_placeholder (hs : s.literal? = none) :
    (blanks (some p) (s :: slots)).filter (· != p) = (blanks (some p) slots).filter (· != p) := by
  rw [blanks_placeholder hs, List.filter_cons_of_neg (by simp)]

/-- Blank slots show the prompt alone if all their literals are the prompt. -/
theorem filter_blanks_eq_nil_iff :
    (blanks (some p) slots).filter (· != p) = [] ↔
      ∀ s ∈ slots, ∀ l, s.literal? = some l → l = p := by
  rw [List.eq_nil_iff_forall_not_mem]
  constructor
  · intro h s hs l hl
    by_contra hlp
    exact h l (mem_filter_blanks.mpr ⟨hlp, s, hs, hl⟩)
  · intro h l hmem
    obtain ⟨hlp, s, hs, hl⟩ := mem_filter_blanks.mp hmem
    exact hlp (h s hs l hl)

/-- **A value traced along the row is shown again**, up to blanks at the
    end. -/
theorem filter_fill_of_retraced (keep : Bool) (h : Retraced p slots v) (hp : p ∉ v) :
    ∃ u, (fill ⟨some p, true, keep⟩ slots v).filter (· != p) = v ++ u ∧
      ∀ c ∈ u, Text.isBlank c = true := by
  induction h with
  | @done slots hb =>
    refine ⟨_, by rw [fill_nil, List.nil_append], fun c hc => ?_⟩
    obtain ⟨hcp, s, hs, hl⟩ := mem_filter_blanks.mp hc
    exact (hb s hs c hl).resolve_left hcp
  | prompt hl _ ih =>
    obtain ⟨u, hu, hb⟩ := ih hp
    refine ⟨u, ?_, hb⟩
    rw [fill_literal hl, pastFirst_of_not_mem hp, List.filter_cons_of_neg (by simp), hu]
  | @literal s rest l v hl hlp _ ih =>
    obtain ⟨u, hu, hb⟩ := ih fun hv => hp (List.mem_cons_of_mem _ hv)
    refine ⟨u, ?_, hb⟩
    rw [fill_literal hl, pastFirst_cons_self, List.filter_cons_of_pos (by simpa using hlp), hu,
      List.cons_append]
  | @taken s rest c v hs hc _ ih =>
    rw [List.mem_cons, not_or] at hp
    obtain ⟨u, hu, hb⟩ := ih hp.2
    refine ⟨u, ?_, hb⟩
    rw [fill_taken hs hc, List.filter_cons_of_pos (by simpa using Ne.symm hp.1), hu,
      List.cons_append]
  | @jump s rest skipped rest' c v hs hc hj hq _ ih =>
    rw [List.mem_cons, not_or] at hp
    obtain ⟨u, hu, hb⟩ := ih hp.2
    refine ⟨u, ?_, hb⟩
    -- the slots jumped over show the prompt alone
    rw [fill_jump hs hc (fun e => hp.1 (Option.some.inj e)) hj, List.filter_append,
      filter_blanks_placeholder hs, filter_blanks_eq_nil_iff.mpr hq, List.nil_append,
      List.filter_cons_of_pos (by simpa using Ne.symm hp.1), hu, List.cons_append]

/-- Where a placeholder refuses a character and no literal behind it is
    that character, the first thing shown is another one. -/
theorem head_filter_fill_ne (keep : Bool) (hs : s.literal? = none) (hc : s.accept c = none)
    (hj : splitAtLiteral c rest = none) (hp : p ∉ v) (hn : NoneToPrompt p (s :: rest) v) :
    ((fill ⟨some p, true, keep⟩ (s :: rest) v).filter (· != p)).head? ≠ some c := by
  have hlit : ∀ s' ∈ s :: rest, s'.literal? ≠ some c :=
    List.forall_mem_cons.mpr ⟨by simp [hs], splitAtLiteral_eq_none_iff.mp hj⟩
  -- blank slots show none but literals of the row, and `c` is none of them
  have hblanks : ∀ front ⊆ s :: rest, c ∉ (blanks (some p) front).filter (· != p) := by
    intro front hfront hmem
    obtain ⟨-, s', hs', hl⟩ := mem_filter_blanks.mp hmem
    exact hlit s' (hfront hs') hl
  induction v with
  | nil =>
    rw [fill_nil]
    exact fun h => hblanks _ (List.Subset.refl _) (List.mem_of_head? h)
  | cons d v ih =>
    rw [List.mem_cons, not_or] at hp
    have hdp : some p ≠ some d := fun e => hp.1 (Option.some.inj e)
    cases hd : s.accept d with
    | some d' =>
      have hd' : d' ≠ p := hn.ne_of_accept hs hd
      rw [fill_taken hs hd, List.filter_cons_of_pos (by simpa using hd'), List.head?_cons]
      intro heq
      cases heq
      rw [Slot.accept_of_accept hd] at hc
      cases hc
    | none =>
      cases hjd : splitAtLiteral d rest with
      | none =>
        rw [fill_passed hs hd hdp hjd]
        exact ih hp.2 (hn.of_subset (List.Subset.refl _) (List.subset_cons_self d v))
      | some r =>
        obtain ⟨skipped, rest'⟩ := r
        obtain ⟨s', hs', rfl⟩ := eq_of_splitAtLiteral hjd
        rw [fill_jump hs hd hdp hjd, List.filter_append,
          List.filter_cons_of_pos (by simpa using Ne.symm hp.1), List.head?_append, List.head?_cons]
        intro heq
        rcases Option.or_eq_some_iff.mp heq with hhead | ⟨-, heq⟩
        · refine hblanks (s :: skipped) ?_ (List.mem_of_head? hhead)
          exact List.cons_subset_cons s (List.subset_append_left _ _)
        · cases heq
          exact hlit s' (by simp) hs'

/-- **Only a value traced along the row is shown again**, if none of its
    characters becomes the prompt. -/
theorem retraced_of_filter_fill (keep : Bool) (hp : p ∉ v) (hn : NoneToPrompt p slots v)
    (hv : (fill ⟨some p, true, keep⟩ slots v).filter (· != p) = v ++ u)
    (hu : ∀ c ∈ u, Text.isBlank c = true) : Retraced p slots v := by
  fun_induction fill ⟨some p, true, keep⟩ slots v with
  | case1 v =>
    obtain ⟨rfl, -⟩ := List.append_eq_nil_iff.mp hv.symm
    exact .done (by simp)
  | case2 s rest =>
    rw [List.nil_append] at hv
    refine .done fun s' hs' l hl => ?_
    by_cases hlp : l = p
    · exact .inl hlp
    · exact .inr (hu l (hv ▸ mem_filter_blanks.mpr ⟨hlp, s', hs', hl⟩))
  | case3 s rest c input l hl ih =>
    have hrest := List.subset_cons_self s rest
    by_cases hlp : l = p
    · subst hlp
      rw [List.filter_cons_of_neg (by simp)] at hv
      rw [pastFirst_of_not_mem hp] at ih hv
      exact .prompt hl (ih hp (hn.of_subset hrest (List.Subset.refl _)) hv)
    · rw [List.filter_cons_of_pos (by simpa using hlp), List.cons_append] at hv
      obtain ⟨rfl, hinput⟩ := List.cons.inj hv
      rw [pastFirst_cons_self] at ih hinput
      rw [List.mem_cons, not_or] at hp
      exact .literal hl hlp (ih hp.2 (hn.of_subset hrest (List.subset_cons_self _ _)) hinput)
  | case4 s rest c input hs d hc ih =>
    have hd : d ≠ p := hn.ne_of_accept hs hc
    rw [List.filter_cons_of_pos (by simpa using hd), List.cons_append] at hv
    obtain ⟨rfl, hinput⟩ := List.cons.inj hv
    rw [List.mem_cons, not_or] at hp
    exact .taken hs hc (ih hp.2
      (hn.of_subset (List.subset_cons_self s rest) (List.subset_cons_self _ _)) hinput)
  | case5 s rest c input hs _ hcp _ ih =>
    cases hcp
    exact absurd List.mem_cons_self hp
  | case6 s rest c input hs _ _ hk => exact absurd rfl hk
  | case7 s rest c input hs hc hcp skipped rest' hj ih =>
    obtain ⟨s', hs', rfl⟩ := eq_of_splitAtLiteral hj
    rw [List.mem_cons, not_or] at hp
    rw [List.filter_append, filter_blanks_placeholder hs,
      List.filter_cons_of_pos (by simpa using Ne.symm hp.1)] at hv
    -- a literal jumped over would be the first thing shown, and it is not `c`
    have hblank : (blanks (some p) skipped).filter (· != p) = [] := by
      cases hb : (blanks (some p) skipped).filter (· != p) with
      | nil => rfl
      | cons d ds =>
        rw [hb, List.cons_append, List.cons_append] at hv
        obtain ⟨rfl, -⟩ := List.cons.inj hv
        obtain ⟨-, s'', hs'', hl⟩ := mem_filter_blanks.mp (hb ▸ List.mem_cons_self)
        exact absurd hl (literal?_ne_of_splitAtLiteral hj s'' hs'')
    rw [hblank, List.nil_append, List.cons_append] at hv
    have hsub := List.subset_cons_of_subset s (subset_of_splitAtLiteral hj)
    exact .jump hs hc hj (filter_blanks_eq_nil_iff.mp hblank)
      (ih hp.2 (hn.of_subset hsub (List.subset_cons_self _ _)) (List.cons.inj hv).2)
  | case8 s rest c input hs hc hcp hj ih =>
    rw [List.mem_cons, not_or] at hp
    refine absurd ?_ (head_filter_fill_ne keep hs hc hj hp.2
      (hn.of_subset (List.Subset.refl _) (List.subset_cons_self _ _)))
    rw [hv]
    rfl

/-- The value of a display with its literals is what the full display
    shows other than the prompt, trimmed. -/
theorem unmask_format_eq_trimEnd (m : Mask) (hm : m.isEmpty = false) (keep : Bool) (raw : Text) :
    m.unmask ⟨some p, false, true⟩ (m.format ⟨some p, true, keep⟩ raw) =
      Text.trimEnd ((fill ⟨some p, true, keep⟩ m.slots raw).filter (· != p)) := by
  rw [m.format_eq hm, m.unmask_trimEnd hm, m.unmask_eq hm,
    kept_eq_filter (laid_fill p keep m.slots raw).fullDisplay]

/-- **A value that keeps its literals is read back** if it can be traced
    along the mask again. -/
theorem unmask_format_of_retraced (m : Mask) (hm : m.isEmpty = false) (keep : Bool)
    (hp : p ∉ v) (hv : Text.trimEnd v = v) (h : Retraced p m.slots v) :
    m.unmask ⟨some p, false, true⟩ (m.format ⟨some p, true, keep⟩ v) = v := by
  obtain ⟨u, hu, hb⟩ := filter_fill_of_retraced keep h hp
  rw [unmask_format_eq_trimEnd m hm, hu, Text.trimEnd_append_of_all v hb, hv]

/-- **Only such a value is read back**, if no placeholder makes the prompt
    of one of its characters. -/
theorem retraced_of_unmask_format (m : Mask) (hm : m.isEmpty = false) (keep : Bool)
    (hp : p ∉ v) (hn : NoneToPrompt p m.slots v)
    (h : m.unmask ⟨some p, false, true⟩ (m.format ⟨some p, true, keep⟩ v) = v) :
    Retraced p m.slots v := by
  rw [unmask_format_eq_trimEnd m hm] at h
  obtain ⟨u, hu, hb⟩ :=
    Text.exists_trimEnd_append ((fill ⟨some p, true, keep⟩ m.slots v).filter (· != p))
  rw [h] at hu
  exact retraced_of_filter_fill keep hp hn hu hb

end Kept

end InputMask
