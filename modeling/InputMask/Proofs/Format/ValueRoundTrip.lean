/-
  File:      InputMask/Proofs/Format/ValueRoundTrip.lean
  Subject:   Values formatted and read back.

  * `LeftFilled` -- a raw text that fills the first placeholders of a
    row one by one, and whose characters are no literals in front of
    their own places;
  * `Takes` -- the same read along the row; at a literal slot the search
    for the literal finds nothing, so nothing is passed over;
  * `seat` -- the display that holds values in the first placeholders;
  * **`unmask_format_leftFilled`** -- such a raw text is formatted to its
    values in their places, and unmasking gives the values back.
-/
import InputMask.Proofs.Format.Layout
import InputMask.Field
namespace InputMask

/-! ## 1. Values in their places -/

/-- A row that shows values in its first placeholders, the prompt in the
    others, and its literals. -/
def seat (p : Char) : List Slot → Text → Text
  | [], _ => []
  | s :: rest, values =>
    match s.literal? with
    | some l => l :: seat p rest values
    | none => values.headD p :: seat p rest values.tail

section Seat

variable {p : Char} {s : Slot} {rest : List Slot}

theorem seat_literal {l : Char} (hl : s.literal? = some l) (values : Text) :
    seat p (s :: rest) values = l :: seat p rest values := by
  simp only [seat, hl]

theorem seat_placeholder (hs : s.literal? = none) (values : Text) :
    seat p (s :: rest) values = values.headD p :: seat p rest values.tail := by
  simp only [seat, hs]

/-- Without values the row is blank. -/
theorem seat_nil (p : Char) (slots : List Slot) : seat p slots [] = blanks (some p) slots := by
  induction slots with
  | nil => rfl
  | cons s rest ih =>
    cases hs : s.literal? with
    | some l => rw [seat_literal hs, blanks_literal hs, ih]
    | none =>
      rw [seat_placeholder hs, blanks_placeholder hs, List.tail_nil, ih]
      rfl

/-- A row with values shows a value, the prompt or a literal. -/
theorem mem_seat {c : Char} {slots : List Slot} {values : Text} (h : c ∈ seat p slots values) :
    c = p ∨ c ∈ values ∨ ∃ s ∈ slots, s.literal? = some c := by
  fun_induction seat p slots values with
  | case1 => cases h
  | case2 s rest values l hl ih =>
    rcases List.mem_cons.mp h with rfl | h
    · exact .inr (.inr ⟨s, List.mem_cons_self, hl⟩)
    · rcases ih h with hp | hv | ⟨s', hs', hc⟩
      · exact .inl hp
      · exact .inr (.inl hv)
      · exact .inr (.inr ⟨s', List.mem_cons_of_mem _ hs', hc⟩)
  | case3 s rest values hl ih =>
    rcases List.mem_cons.mp h with rfl | h
    · cases values with
      | nil => exact .inl rfl
      | cons d values => exact .inr (.inl List.mem_cons_self)
    · rcases ih h with hp | hv | ⟨s', hs', hc⟩
      · exact .inl hp
      · exact .inr (.inl (List.mem_of_mem_tail hv))
      · exact .inr (.inr ⟨s', List.mem_cons_of_mem _ hs', hc⟩)

end Seat

/-! ## 2. Raw texts that fill from the left -/

/-- **A raw text that fills a row from the left.** There is a placeholder
    for every character; the `j`-th placeholder makes the `j`-th value of
    the `j`-th character; and no literal slot in front of that placeholder
    has the character. -/
structure LeftFilled (slots : List Slot) (raw values : Text) : Prop where
  room : raw.length ≤ (slots.filter Slot.isPlaceholder).length
  taken : List.zipWith Slot.accept (slots.filter Slot.isPlaceholder) raw = values.map some
  fresh : ∀ j < raw.length, ∀ s ∈ slots.take (Field.placeholderAt j slots),
    s.literal? ≠ raw[j]?

/-- **The same, read along the row.** A literal slot finds its literal
    nowhere in what is still to be read; a placeholder takes the next
    character; when all is read the slots that are left do not matter. -/
inductive Takes : List Slot → Text → Text → Prop where
  | done (slots : List Slot) : Takes slots [] []
  | literal {s : Slot} {rest : List Slot} {l : Char} {raw values : Text}
      (hl : s.literal? = some l) (hr : l ∉ raw) (h : Takes rest raw values) :
      Takes (s :: rest) raw values
  | taken {s : Slot} {rest : List Slot} {c d : Char} {raw values : Text}
      (hs : s.literal? = none) (hc : s.accept c = some d) (h : Takes rest raw values) :
      Takes (s :: rest) (c :: raw) (d :: values)

section LeftFilled

variable {s : Slot} {rest : List Slot} {raw values : Text}

theorem LeftFilled.behind_literal (hs : s.isPlaceholder = false)
    (h : LeftFilled (s :: rest) raw values) : LeftFilled rest raw values where
  room := by
    have hroom := h.room
    rwa [List.filter_cons_of_neg (by simp [hs])] at hroom
  taken := by
    have htaken := h.taken
    rwa [List.filter_cons_of_neg (by simp [hs])] at htaken
  fresh j hj s' hs' := by
    apply h.fresh j hj s'
    rw [Field.placeholderAt_literal hs, List.take_succ_cons]
    exact List.mem_cons_of_mem _ hs'

theorem LeftFilled.not_mem {l : Char} (hl : s.literal? = some l)
    (h : LeftFilled (s :: rest) raw values) : l ∉ raw := by
  intro hmem
  obtain ⟨j, hj, hget⟩ := List.getElem_of_mem hmem
  apply h.fresh j hj s
  · rw [Field.placeholderAt_literal (Slot.isPlaceholder_of_literal? hl), List.take_succ_cons]
    exact List.mem_cons_self
  · rw [hl, List.getElem?_eq_getElem hj, hget]

/-- A placeholder in front takes the head of the raw text, and the rest
    fills the rest of the row. -/
theorem LeftFilled.behind_placeholder {c : Char} (hs : s.isPlaceholder = true)
    (h : LeftFilled (s :: rest) (c :: raw) values) :
    ∃ d values', values = d :: values' ∧ s.accept c = some d ∧ LeftFilled rest raw values' := by
  have hroom := h.room
  have htaken := h.taken
  rw [List.filter_cons_of_pos hs] at hroom htaken
  rw [List.zipWith_cons_cons] at htaken
  obtain ⟨d, values', rfl, hd, htail⟩ := List.map_eq_cons_iff.mp htaken.symm
  refine ⟨d, values', rfl, hd.symm, ⟨Nat.le_of_succ_le_succ hroom, htail.symm, ?_⟩⟩
  intro j hj s' hs'
  have hfresh := h.fresh (j + 1) (Nat.succ_lt_succ hj) s'
  rw [Field.placeholderAt_succ hs, List.take_succ_cons] at hfresh
  exact hfresh (List.mem_cons_of_mem _ hs')

theorem LeftFilled.takes {slots : List Slot} (h : LeftFilled slots raw values) :
    Takes slots raw values := by
  induction slots generalizing raw values with
  | nil =>
    obtain rfl : raw = [] := List.eq_nil_of_length_eq_zero (Nat.le_zero.mp h.room)
    obtain rfl : values = [] := List.map_eq_nil_iff.mp h.taken.symm
    exact .done []
  | cons s rest ih =>
    cases hl : s.literal? with
    | some l =>
      exact .literal hl (h.not_mem hl) (ih (h.behind_literal (Slot.isPlaceholder_of_literal? hl)))
    | none =>
      cases raw with
      | nil =>
        have htaken := h.taken
        rw [List.zipWith_nil_right] at htaken
        obtain rfl : values = [] := List.map_eq_nil_iff.mp htaken.symm
        exact .done _
      | cons c raw =>
        obtain ⟨d, values', rfl, hc, hrest⟩ :=
          h.behind_placeholder (Slot.literal?_eq_none_iff.mp hl)
        exact .taken hl hc (ih hrest)

end LeftFilled

/-! ## 3. There and back -/

section RoundTrip

variable {p : Char} {slots : List Slot} {raw values : Text}

/-- **A raw text taken along the row is formatted to its values in their
    places.** -/
theorem fill_of_takes (p : Char) (keep : Bool) (h : Takes slots raw values) :
    fill ⟨some p, true, keep⟩ slots raw = seat p slots values := by
  induction h with
  | done slots => rw [fill_nil, seat_nil]
  | literal hl hr _ ih => rw [fill_literal hl, pastFirst_of_not_mem hr, seat_literal hl, ih]
  | taken hs hc _ ih =>
    rw [fill_taken hs hc, seat_placeholder hs, ih]
    rfl

/-- Blank slots hold no value. -/
theorem kept_blanks (p : Char) (slots : List Slot) :
    Options.kept ⟨some p, false, false⟩ (blanks (some p) slots) slots = [] := by
  induction slots with
  | nil => rfl
  | cons s rest ih =>
    cases hl : s.literal? with
    | some l =>
      rw [blanks_literal hl, Options.kept_cons_of_not (Options.keeps_literal hl _ _ l), ih]
    | none =>
      rw [blanks_placeholder hl, Options.kept_cons_of_not (Options.keeps_prompt p _ s), ih]

/-- **Values in their places are read back**, as far as none of them is
    the prompt. -/
theorem kept_seat (h : Takes slots raw values) (hp : p ∉ values) :
    Options.kept ⟨some p, false, false⟩ (seat p slots values) slots = values := by
  induction h with
  | done slots => rw [seat_nil, kept_blanks]
  | @literal s rest l raw values hl _ _ ih =>
    rw [seat_literal hl, Options.kept_cons_of_not (Options.keeps_literal hl _ _ l), ih hp]
  | @taken s rest c d raw values hs hc _ ih =>
    rw [List.mem_cons, not_or] at hp
    have hkeep := Options.keeps_taken hs (Slot.accept_of_accept hc) (Ne.symm hp.1) false false
    rw [seat_placeholder hs, List.headD_cons, List.tail_cons, Options.kept_cons_of_keeps hkeep,
      ih hp.2]

/-- **The value of a display is what was entered.** Raw text that fills
    the mask from the left is formatted to its values in their places;
    where no value is the prompt and the last is not blank, unmasking
    that display gives exactly the values. -/
theorem unmask_format_leftFilled (m : Mask) (hm : m.isEmpty = false) (p : Char) (keep : Bool)
    (h : LeftFilled m.slots raw values) (hp : p ∉ values)
    (hlast : values.getLast?.any Text.isBlank = false) :
    m.format ⟨some p, true, keep⟩ raw = Text.trimEnd (seat p m.slots values) ∧
    m.unmask ⟨some p, false, false⟩ (m.format ⟨some p, true, keep⟩ raw) = values := by
  have hformat : m.format ⟨some p, true, keep⟩ raw = Text.trimEnd (seat p m.slots values) := by
    rw [m.format_eq hm, fill_of_takes p keep h.takes]
  refine ⟨hformat, ?_⟩
  rw [hformat, m.unmask_trimEnd hm, m.unmask_eq hm, kept_seat h.takes hp,
    Text.trimEnd_eq_self hlast]

/-- The start of a number plate, its letter in lower case. -/
theorem unmask_format_leftFilled_plate :
    let m := Mask.compile ">L-00".toList
    (m.isEmpty = false ∧ LeftFilled m.slots "b7".toList "B7".toList) ∧
    m.format ⟨some '_', true, false⟩ "b7".toList = "B-7_".toList ∧
    m.unmask ⟨some '_', false, false⟩ "B-7_".toList = "B7".toList := by
  intro m
  have hm : m.isEmpty = false := by decide
  have h : LeftFilled m.slots "b7".toList "B7".toList :=
    ⟨by decide, by decide, by decide⟩
  obtain ⟨hformat, hunmask⟩ :=
    unmask_format_leftFilled m hm '_' false h (by decide) (by decide)
  have hseat : Text.trimEnd (seat '_' m.slots "B7".toList) = "B-7_".toList := by decide
  rw [hseat] at hformat
  rw [hformat] at hunmask
  exact ⟨⟨hm, h⟩, hformat, hunmask⟩

end RoundTrip

end InputMask
