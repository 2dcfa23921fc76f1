/-
  File:      InputMask/Proofs/Format/FixedPoint.lean
  Subject:   Displays formatted again.

  A display read as raw text fills the slots in lockstep: character `k`
  meets slot `k` all the way (`fill_front`). What was trimmed off is not
  read, so the slots behind the display come back blank
  (`format_trimEnd`). They are trimmed off again unless a prompt shows
  among them (`format_eq_self_iff`), and a display that has once been
  padded with prompts stays as it is (`format_format`).

  * **`format_display`** -- which displays formatting leaves alone; that
    the second formatting leaves all of them alone; and that every raw
    text is formatted into such a display.
-/
import InputMask.Proofs.Format.Layout
import InputMask.Caret
namespace InputMask

/-- The prompt is no character that a placeholder of the row would change. -/
def PromptStable (p : Char) (slots : List Slot) : Prop :=
  ∀ s ∈ slots, s.isPlaceholder = true → s.accept p = none ∨ s.accept p = some p

instance (p : Char) (slots : List Slot) : Decidable (PromptStable p slots) :=
  inferInstanceAs (Decidable (∀ s ∈ slots, _ → _))

/-! ## 1. Lockstep -/

section Lockstep

variable {p : Char} (keep : Bool) {slots : List Slot}

/-- A slot that shows the character at the head of the input takes it,
    and the rest of the input meets the rest of the row. -/
theorem fill_shown {s : Slot} {c : Char} (hp : PromptStable p (s :: slots))
    (hs : s.Shows p c) (input : Text) :
    fill ⟨some p, true, keep⟩ (s :: slots) (c :: input) =
      c :: fill ⟨some p, true, keep⟩ slots input := by
  cases hl : s.literal? with
  | some l =>
    obtain rfl := (shows_literal hl).mp hs
    rw [fill_literal hl, pastFirst_cons_self]
  | none =>
    rcases (shows_placeholder hl).mp hs with rfl | hc
    · rcases hp s List.mem_cons_self (Slot.literal?_eq_none_iff.mp hl) with hn | hc
      · exact fill_prompt hl hn rfl rfl
      · exact fill_taken hl hc
    · exact fill_taken hl hc

/-- **The front of a full display fills the slots it stands on**, and the
    slots behind it are blank. -/
theorem fill_front (hp : PromptStable p slots) {front back : Text}
    (hd : FullDisplay p slots (front ++ back)) :
    fill ⟨some p, true, keep⟩ slots front =
      front ++ blanks (some p) (slots.drop front.length) := by
  induction front generalizing slots with
  | nil => rw [fill_nil, List.nil_append, List.length_nil, List.drop_zero]
  | cons c front ih =>
    cases hd with
    | @cons s _ rest _ hs hrest =>
      have hp' : PromptStable p rest := fun s' h => hp s' (List.mem_cons_of_mem _ h)
      rw [fill_shown keep hp hs, ih hp' hrest]
      rfl

end Lockstep

/-! ## 2. What was trimmed off -/

section Trimmed

variable {p : Char} {slots : List Slot} {front back : Text}

/-- A full display without its front shows the slots behind the front. -/
theorem FullDisplay.drop (h : FullDisplay p slots (front ++ back)) :
    FullDisplay p (slots.drop front.length) back := by
  induction front generalizing slots with
  | nil => exact h
  | cons c front ih =>
    cases h with
    | cons _ hrest => exact ih hrest

section Related

variable {R : Slot → Char → Prop}

/-- Slots related to their blank forms are so along a row. -/
theorem forall₂_blanks (hR : ∀ s c, s.blank (some p) = some c → R s c) (slots : List Slot) :
    List.Forall₂ R slots (blanks (some p) slots) := by
  induction slots with
  | nil => exact .nil
  | cons s rest ih =>
    cases hl : s.literal? with
    | some l =>
      rw [blanks_literal hl]
      exact .cons (hR s l (Slot.blank_of_literal? hl _)) ih
    | none =>
      rw [blanks_placeholder hl]
      exact .cons (hR s p (Slot.blank_of_placeholder hl _)) ih

/-- Where the back of a row is made blank, the row stays related. -/
theorem forall₂_refill (hR : ∀ s c, s.blank (some p) = some c → R s c)
    (h : List.Forall₂ R slots (front ++ back)) :
    List.Forall₂ R slots (front ++ blanks (some p) (slots.drop front.length)) := by
  induction front generalizing slots with
  | nil => exact forall₂_blanks hR slots
  | cons c front ih =>
    cases h with
    | cons hs hrest => exact .cons hs (ih hrest)

theorem length_trimEnd_le_of_forall₂ {m : Mask} {display : Text}
    (h : List.Forall₂ R m.slots display) : (Text.trimEnd display).length ≤ m.length :=
  Nat.le_trans (Text.length_trimEnd_le display) (Nat.le_of_eq h.length_eq.symm)

/-- A row of characters without its blank end is padded to a related row. -/
theorem forall₂_padded {m : Mask} {display : Text}
    (hR : ∀ s c, s.blank (some p) = some c → R s c) (h : List.Forall₂ R m.slots display) :
    List.Forall₂ R m.slots (m.padded (some p) (Text.trimEnd display)) := by
  obtain ⟨back, hback, -⟩ := Text.exists_trimEnd_append display
  rw [m.padded_some p (length_trimEnd_le_of_forall₂ h)]
  exact forall₂_refill hR (hback ▸ h)

end Related

/-- Where all that is shown is blank, the blank forms are blank too,
    unless a prompt that is not blank is among them. -/
theorem blanks_blank_iff (h : FullDisplay p slots back)
    (hb : ∀ c ∈ back, Text.isBlank c = true) :
    (∀ c ∈ blanks (some p) slots, Text.isBlank c = true) ↔
      Text.isBlank p = true ∨ ∀ s ∈ slots, s.isPlaceholder = false := by
  induction h with
  | nil => simp [blanks]
  | @cons s c rest back hs _ ih =>
    have ih := ih fun d hd => hb d (List.mem_cons_of_mem _ hd)
    cases hl : s.literal? with
    | some l =>
      obtain rfl := (shows_literal hl).mp hs
      have hc : Text.isBlank c = true := hb c List.mem_cons_self
      rw [blanks_literal hl]
      simp only [List.mem_cons, forall_eq_or_imp, hc, Slot.isPlaceholder_of_literal? hl,
        true_and, ih]
    | none =>
      have hph : s.isPlaceholder = true := Slot.literal?_eq_none_iff.mp hl
      rw [blanks_placeholder hl]
      simp only [List.mem_cons, forall_eq_or_imp, hph, ih]
      constructor
      · intro h
        exact .inl h.1
      · rintro (h | h)
        · exact ⟨h, .inl h⟩
        · exact absurd h.1 (by simp)

end Trimmed

/-! ## 3. Formatting a display -/

section Formatting

variable {m : Mask} {p : Char} (keep : Bool) {display : Text}

theorem FullDisplay.length_trimEnd_le (hd : FullDisplay p m.slots display) :
    (Text.trimEnd display).length ≤ m.length :=
  length_trimEnd_le_of_forall₂ hd

/-- **A trimmed display is formatted by padding it** and trimming again. -/
theorem format_trimEnd (hm : m.isEmpty = false) (hp : PromptStable p m.slots)
    (hd : FullDisplay p m.slots display) :
    m.format ⟨some p, true, keep⟩ (Text.trimEnd display) =
      Text.trimEnd (m.padded (some p) (Text.trimEnd display)) := by
  obtain ⟨back, hback, -⟩ := Text.exists_trimEnd_append display
  rw [m.padded_some p hd.length_trimEnd_le]
  rw [hback] at hd
  rw [m.format_eq hm, fill_front keep hp hd]

/-- A trimmed display is left alone exactly when the prompt is blank or
    no placeholder stands behind the display. -/
theorem format_eq_self_iff (hm : m.isEmpty = false) (hp : PromptStable p m.slots)
    (hd : FullDisplay p m.slots display) :
    m.format ⟨some p, true, keep⟩ (Text.trimEnd display) = Text.trimEnd display ↔
      Text.isBlank p = true ∨
        ∀ s ∈ m.slots.drop (Text.trimEnd display).length, s.isPlaceholder = false := by
  obtain ⟨back, hback, hb⟩ := Text.exists_trimEnd_append display
  have htail : FullDisplay p (m.slots.drop (Text.trimEnd display).length) back :=
    FullDisplay.drop (hback ▸ hd)
  rw [format_trimEnd keep hm hp hd, m.padded_some p hd.length_trimEnd_le,
    Text.trimEnd_trimEnd_append_eq_iff, blanks_blank_iff htail hb]

/-- **The second formatting changes nothing more**: what is padded again
    was padding before it was trimmed off. -/
theorem format_format (hm : m.isEmpty = false) (hp : PromptStable p m.slots)
    (hd : FullDisplay p m.slots display) :
    m.format ⟨some p, true, keep⟩
        (m.format ⟨some p, true, keep⟩ (Text.trimEnd display)) =
      m.format ⟨some p, true, keep⟩ (Text.trimEnd display) := by
  have hlen := hd.length_trimEnd_le
  have hpad := m.padded_some p hlen
  have hfull : FullDisplay p m.slots (m.padded (some p) (Text.trimEnd display)) :=
    forall₂_padded (fun _ _ => shows_blank) hd
  have hle : (Text.trimEnd display).length ≤
      (Text.trimEnd (m.padded (some p) (Text.trimEnd display))).length := by
    rw [hpad]
    exact Text.length_trimEnd_append_ge display _
  rw [format_trimEnd keep hm hp hd, format_trimEnd keep hm hp hfull,
    m.padded_of_isPrefix p hlen hle (Text.trimEnd_isPrefix _)]

/-- What shows in a display is its own value when all is kept. -/
theorem unmask_verbatim (hm : m.isEmpty = false) (hd : FullDisplay p m.slots display) :
    m.unmask ⟨some p, true, true⟩ (Text.trimEnd display) = Text.trimEnd display := by
  have hall : (display.zip m.slots).filter
      (fun x => Options.keeps ⟨some p, true, true⟩ x.1 x.2) = display.zip m.slots :=
    List.filter_eq_self.mpr (by simp [Options.keeps])
  rw [m.unmask_trimEnd hm, m.unmask_eq hm]
  unfold Options.kept
  rw [hall, List.map_fst_zip (Nat.le_of_eq hd.length_eq.symm)]

/-- **Displays under formatting.** Let no placeholder change the prompt.
    A trimmed full display is formatted into itself exactly when the
    prompt is blank or no placeholder stands behind it; formatting twice
    is formatting once; and the display is its own value when all is
    kept. Every raw text is formatted into such a display, so from the
    second formatting on nothing changes. -/
theorem format_display (m : Mask) (hm : m.isEmpty = false) (p : Char) (keep : Bool)
    (hp : PromptStable p m.slots) :
    let format := m.format ⟨some p, true, keep⟩
    (∀ display, FullDisplay p m.slots display →
      (format (Text.trimEnd display) = Text.trimEnd display ↔
        Text.isBlank p = true ∨
          ∀ s ∈ m.slots.drop (Text.trimEnd display).length, s.isPlaceholder = false) ∧
      format (format (Text.trimEnd display)) = format (Text.trimEnd display) ∧
      m.unmask ⟨some p, true, true⟩ (Text.trimEnd display) = Text.trimEnd display) ∧
    ∀ raw,
      (∃ display, FullDisplay p m.slots display ∧ format raw = Text.trimEnd display) ∧
      format (format (format raw)) = format (format raw) := by
  intro format
  refine ⟨fun display hd => ?_, fun raw => ?_⟩
  · exact ⟨format_eq_self_iff keep hm hp hd, format_format keep hm hp hd,
      unmask_verbatim hm hd⟩
  · have hd := (laid_fill p keep m.slots raw).fullDisplay
    have hraw : format raw = Text.trimEnd _ := m.format_eq hm _ raw
    refine ⟨⟨_, hd, hraw⟩, ?_⟩
    rw [hraw]
    exact format_format keep hm hp hd

/-- A digit and a space entered in the second place: the space is trimmed
    off and the place comes back blank, once and for all. -/
theorem format_display_space :
    let m := Mask.compile "09".toList
    let format := m.format ⟨some '_', true, false⟩
    (m.isEmpty = false ∧ PromptStable '_' m.slots ∧ FullDisplay '_' m.slots "1 ".toList) ∧
    Text.trimEnd "1 ".toList = "1".toList ∧ format "1".toList ≠ "1".toList ∧
    format (format "1".toList) = format "1".toList := by
  intro m format
  have hm : m.isEmpty = false := by decide
  have hp : PromptStable '_' m.slots := by decide
  have hd : FullDisplay '_' m.slots "1 ".toList := by decide
  obtain ⟨hfixed, htwice, -⟩ := (format_display m hm '_' false hp).1 _ hd
  exact ⟨⟨hm, hp, hd⟩, rfl, fun h => absurd (hfixed.mp h) (by decide), htwice⟩

end Formatting

end InputMask
