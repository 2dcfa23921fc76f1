/-
  File:      InputMask/Proofs/Format/GroupRoundTrip.lean
  Subject:   Displays with gaps, unmasked with their literals and
             formatted again.

  A value that keeps the literals has lost the prompts, so the gaps of
  the display are gone. Formatting finds them again: in front of a gap
  the next character is a literal, which the placeholder refuses, and
  the jump to the slot of that literal leaves the gap blank.

  * `GroupFilled` -- a full display in which each group of placeholders
    between two literals is filled from its left;
  * `GroupFilled.exists_jump` -- where a group has run out of characters
    the next one is a literal, and the jump lands on its slot;
  * **`format_unmask_grouped`** -- formatting the value with literals of
    such a display gives the display back.
-/
import InputMask.Proofs.Format.Layout
import InputMask.Unmask
namespace InputMask

/-! ## 1. Displays filled group by group -/

/-- The literals of a row are told apart from all else: none is the
    prompt, and no placeholder takes one. -/
structure LiteralsApart (p : Char) (slots : List Slot) : Prop where
  prompt : ∀ s ∈ slots, s.literal? ≠ some p
  refused : ∀ s ∈ slots, s.isPlaceholder = true → ∀ s' ∈ slots, s'.literal?.bind s.accept = none

/-- **A full display filled group by group.** What its placeholders show
    other than the prompt is not blank (`solid`); and where all slots from
    `i` to `j` are placeholders, so no literal is between them, and `i`
    shows the prompt, `j` shows it too (`leading`). -/
structure GroupFilled (p : Char) (slots : List Slot) (display : Text) : Prop where
  full : FullDisplay p slots display
  solid : ∀ x ∈ display.zip slots, x.2.isPlaceholder = true →
    x.1 = p ∨ Text.isBlank x.1 = false
  leading : ∀ j < slots.length, ∀ i < j,
    ((slots.take (j + 1)).drop i).all Slot.isPlaceholder = true →
    display[i]? = some p → display[j]? = some p

/-- No placeholder in front of the first literal is filled. -/
def OpensBlank (p : Char) (slots : List Slot) (display : Text) : Prop :=
  ∀ j < slots.length, (slots.take (j + 1)).all Slot.isPlaceholder = true → display[j]? = some p

section Groups

variable {p : Char} {s : Slot} {slots rest : List Slot} {c : Char} {display v : Text}

theorem LiteralsApart.of_subset (h : LiteralsApart p slots) (hsub : rest ⊆ slots) :
    LiteralsApart p rest where
  prompt s hs := h.prompt s (hsub hs)
  refused s hs hph s' hs' := h.refused s (hsub hs) hph s' (hsub hs')

theorem GroupFilled.tail (h : GroupFilled p (s :: rest) (c :: display)) :
    GroupFilled p rest display where
  full := by
    cases h.full with
    | cons _ hrest => exact hrest
  solid x hx := h.solid x (List.mem_cons_of_mem _ hx)
  leading j hj i hi := h.leading (j + 1) (Nat.succ_lt_succ hj) (i + 1) (Nat.succ_lt_succ hi)

/-- Behind a placeholder that shows the prompt its group is blank. -/
theorem GroupFilled.opensBlank (hs : s.isPlaceholder = true)
    (h : GroupFilled p (s :: rest) (p :: display)) : OpensBlank p rest display := by
  intro j hj hall
  refine h.leading (j + 1) (Nat.succ_lt_succ hj) 0 (Nat.succ_pos j) ?_ rfl
  rw [List.drop_zero, List.take_succ_cons, List.all_cons, hs, hall]
  rfl

theorem OpensBlank.tail (hs : s.isPlaceholder = true)
    (h : OpensBlank p (s :: rest) (c :: display)) : OpensBlank p rest display := by
  intro j hj hall
  refine h (j + 1) (Nat.succ_lt_succ hj) ?_
  rw [List.take_succ_cons, List.all_cons, hs, hall]
  rfl

theorem OpensBlank.head (hs : s.isPlaceholder = true)
    (h : OpensBlank p (s :: rest) (c :: display)) : c = p := by
  have hc := h 0 (Nat.succ_pos _) (by simpa using hs)
  exact Option.some.inj hc

/-- **Where a group has run out, the next character jumps**: it is the
    next literal, and what the jump leaves blank is blank in the display. -/
theorem GroupFilled.exists_jump (hp : ∀ s ∈ slots, s.literal? ≠ some p)
    (h : GroupFilled p slots display) (hb : OpensBlank p slots display)
    (hv : display.filter (· != p) = c :: v) :
    ∃ skipped rest display', splitAtLiteral c slots = some (skipped, rest) ∧
      display = blanks (some p) skipped ++ c :: display' ∧
      display'.filter (· != p) = v ∧ GroupFilled p rest display' := by
  induction slots generalizing display with
  | nil =>
    cases h.full with
    | nil => cases hv
  | cons s rest ih =>
    cases h.full with
    | @cons _ d _ display hs hrest =>
      cases hl : s.literal? with
      | some l =>
        obtain rfl := (shows_literal hl).mp hs
        have hd : d ≠ p := fun e => hp s List.mem_cons_self (e ▸ hl)
        rw [List.filter_cons_of_pos (by simpa using hd)] at hv
        obtain ⟨rfl, rfl⟩ := List.cons.inj hv
        refine ⟨[], rest, display, ?_, rfl, rfl, h.tail⟩
        rw [splitAtLiteral, if_pos hl]
      | none =>
        have hph := Slot.literal?_eq_none_iff.mp hl
        obtain rfl := hb.head hph
        rw [List.filter_cons_of_neg (by simp)] at hv
        obtain ⟨skipped, rest', display', hj, rfl, hv', hrest'⟩ :=
          ih (fun s' hs' => hp s' (List.mem_cons_of_mem _ hs')) h.tail (hb.tail hph) hv
        refine ⟨s :: skipped, rest', display', ?_, ?_, hv', hrest'⟩
        · rw [splitAtLiteral, if_neg (by simp [hl]), hj, Option.map_some]
        · rw [blanks_placeholder hl, List.cons_append]

/-- Where nothing but blanks is left of the value, the display is blank. -/
theorem GroupFilled.eq_blanks (h : GroupFilled p slots display)
    (hb : ∀ c ∈ display.filter (· != p), Text.isBlank c = true) :
    display = blanks (some p) slots := by
  induction slots generalizing display with
  | nil =>
    cases h.full with
    | nil => rfl
  | cons s rest ih =>
    cases h.full with
    | @cons _ d _ display hs hrest =>
      have hrest := ih h.tail fun c hc => hb c (by
        rw [List.mem_filter] at hc ⊢
        exact ⟨List.mem_cons_of_mem _ hc.1, hc.2⟩)
      cases hl : s.literal? with
      | some l => rw [blanks_literal hl, (shows_literal hl).mp hs, hrest]
      | none =>
        have hd : d = p := by
          rcases h.solid (d, s) List.mem_cons_self (Slot.literal?_eq_none_iff.mp hl) with hd | hd
          · exact hd
          · by_contra hne
            rw [hb d (by simpa using hne)] at hd
            cases hd
        rw [blanks_placeholder hl, hd, hrest]

end Groups

/-! ## 2. There and back -/

section RoundTrip

variable {p : Char} {slots : List Slot} {display v u : Text}

/-- **Formatting puts the gaps back**: the characters of a display other
    than the prompt, up to blanks at their end, fill the row to the
    display. -/
theorem fill_grouped (keep : Bool) (ha : LiteralsApart p slots)
    (h : GroupFilled p slots display) (hv : display.filter (· != p) = v ++ u)
    (hu : ∀ c ∈ u, Text.isBlank c = true) :
    fill ⟨some p, true, keep⟩ slots v = display := by
  -- a jump passes over several slots at once, hence the induction on their number
  induction hn : slots.length using Nat.strongRecOn generalizing slots display v with
  | ind n ih =>
    subst hn
    cases v with
    | nil =>
      rw [List.nil_append] at hv
      rw [fill_nil]
      exact (h.eq_blanks (hv ▸ hu)).symm
    | cons c v =>
      cases h.full with
      | nil => cases hv
      | @cons s d rest display hs hrest =>
        have harest : LiteralsApart p rest := ha.of_subset (List.subset_cons_self s rest)
        have ihrest := fun v hv =>
          ih rest.length (Nat.lt_succ_self _) (v := v) harest h.tail hv rfl
        cases hl : s.literal? with
        | some l =>
          obtain rfl := (shows_literal hl).mp hs
          have hd : d ≠ p := fun e => ha.prompt s List.mem_cons_self (e ▸ hl)
          rw [List.filter_cons_of_pos (by simpa using hd)] at hv
          obtain ⟨rfl, hv'⟩ := List.cons.inj hv
          rw [fill_literal hl, pastFirst_cons_self, ihrest v hv']
        | none =>
          have hph := Slot.literal?_eq_none_iff.mp hl
          by_cases hd : d = p
          · subst hd
            rw [List.filter_cons_of_neg (by simp)] at hv
            obtain ⟨skipped, rest', display', hj, rfl, hv', hrest'⟩ :=
              h.tail.exists_jump harest.prompt (h.opensBlank hph) hv
            obtain ⟨s', hs', heq⟩ := eq_of_splitAtLiteral hj
            have hmem : s' ∈ s :: rest := by simp [heq]
            have hc : s.accept c = none := by
              have hc := ha.refused s List.mem_cons_self hph s' hmem
              rwa [hs'] at hc
            have hpc : some d ≠ some c := fun e => ha.prompt s' hmem (e ▸ hs')
            have hsub := List.subset_cons_of_subset s (subset_of_splitAtLiteral hj)
            rw [fill_jump hl hc hpc hj, blanks_placeholder hl,
              ih rest'.length (Nat.lt_succ_of_lt (length_of_splitAtLiteral hj))
                (ha.of_subset hsub) hrest' hv' rfl]
            rfl
          · have hc := ((shows_placeholder hl).mp hs).resolve_left hd
            rw [List.filter_cons_of_pos (by simpa using hd)] at hv
            obtain ⟨rfl, hv'⟩ := List.cons.inj hv
            rw [fill_taken hl hc, ihrest v hv']

/-- The value that keeps literals is the display without its prompts. -/
theorem kept_eq_filter (h : FullDisplay p slots display) :
    Options.kept ⟨some p, false, true⟩ display slots = display.filter (· != p) := by
  induction h with
  | nil => rfl
  | @cons s c rest display _ _ ih =>
    by_cases hc : c = p
    · subst hc
      rw [Options.kept_cons_of_not (Options.keeps_prompt c true s), ih,
        List.filter_cons_of_neg (by simp)]
    · have hkeep : Options.keeps ⟨some p, false, true⟩ c s = true := by
        simp [Options.keeps, hc]
      rw [Options.kept_cons_of_keeps hkeep, ih, List.filter_cons_of_pos (by simpa using hc)]

/-- **Gaps survive a value that keeps its literals.** Under a mask whose
    literals are told apart from the prompt and from all input, a display
    filled group by group is unmasked with its literals and formatted
    again to itself. -/
theorem format_unmask_grouped (m : Mask) (hm : m.isEmpty = false) (keep : Bool)
    (ha : LiteralsApart p m.slots) (h : GroupFilled p m.slots display) :
    m.format ⟨some p, true, keep⟩ (m.unmask ⟨some p, false, true⟩ (Text.trimEnd display)) =
      Text.trimEnd display := by
  obtain ⟨u, hv, hu⟩ := Text.exists_trimEnd_append (display.filter (· != p))
  rw [m.unmask_trimEnd hm, m.unmask_eq hm, kept_eq_filter h.full, m.format_eq hm,
    fill_grouped keep ha h hv hu]

/-- A date whose day and month have one digit each and whose year is
    still to come. -/
theorem format_unmask_grouped_date :
    let m := Mask.compile "00/00/0000".toList
    let display := "1_/2_/____".toList
    (m.isEmpty = false ∧ LiteralsApart '_' m.slots ∧ GroupFilled '_' m.slots display) ∧
    m.unmask ⟨some '_', false, true⟩ display = "1/2/".toList ∧
    m.format ⟨some '_', true, false⟩ "1/2/".toList = display := by
  intro m display
  have hm : m.isEmpty = false := by decide
  have ha : LiteralsApart '_' m.slots := ⟨by decide, by decide⟩
  have h : GroupFilled '_' m.slots display := ⟨by decide, by decide, by decide⟩
  have hunmask : m.unmask ⟨some '_', false, true⟩ display = "1/2/".toList := by decide
  have hback := format_unmask_grouped m hm false ha h
  rw [show Text.trimEnd display = display from rfl, hunmask] at hback
  exact ⟨⟨hm, ha, h⟩, hunmask, hback⟩

end RoundTrip

end InputMask
