/-
  File:      InputMask/Proofs/Format/Layout.lean
  Subject:   What a formatted display shows, and which input it shows.

  * `Laid p slots input display` -- the row is laid out from left to
    right with input read from left to right: each slot shows its
    literal, the prompt, or what it makes of the next character read,
    and characters may be passed over;
  * `laid_fill` -- filling a row lays it out, whichever way the search
    for literals and the jumps go;
  * `Layout` -- the same with positions: every slot names the position
    of the input it shows, and the positions ascend;
  * **`exists_layout_format`** -- a display is the trimmed layout of its
    raw text, and no display is longer than its mask.
-/
import Mathlib.Data.List.Forall2
import InputMask.Format
namespace InputMask

/-! ## 1. Full displays -/

/-- What a slot shows in a full display: a literal slot its literal, a
    placeholder the prompt or a character that it takes as it is. -/
def Slot.Shows (p : Char) (s : Slot) (c : Char) : Prop :=
  match s.literal? with
  | some l => c = l
  | none => c = p ∨ s.accept c = some c

/-- A display at full width, one character for each slot. -/
def FullDisplay (p : Char) (slots : List Slot) (display : Text) : Prop :=
  List.Forall₂ (Slot.Shows p) slots display

section Slots

variable {p : Char} {s : Slot} {c : Char}

theorem shows_literal {l : Char} (hl : s.literal? = some l) : s.Shows p c ↔ c = l := by
  unfold Slot.Shows
  rw [hl]

theorem shows_placeholder (hs : s.literal? = none) :
    s.Shows p c ↔ c = p ∨ s.accept c = some c := by
  unfold Slot.Shows
  rw [hs]

/-- A slot shows its blank form. -/
theorem shows_blank (h : s.blank (some p) = some c) : s.Shows p c := by
  cases hl : s.literal? with
  | some l =>
    rw [Slot.blank_of_literal? hl] at h
    exact (shows_literal hl).mpr (Option.some.inj h).symm
  | none =>
    rw [Slot.blank_of_placeholder hl] at h
    exact (shows_placeholder hl).mpr (.inl (Option.some.inj h).symm)

end Slots

instance (p : Char) (s : Slot) (c : Char) : Decidable (s.Shows p c) :=
  match hs : s.literal? with
  | some l => decidable_of_iff (c = l) (shows_literal hs).symm
  | none => decidable_of_iff (c = p ∨ s.accept c = some c) (shows_placeholder hs).symm

instance (p : Char) (slots : List Slot) (display : Text) :
    Decidable (FullDisplay p slots display) :=
  inferInstanceAs (Decidable (List.Forall₂ (Slot.Shows p) slots display))

/-! ## 2. Rows laid out from input -/

/-- **A display laid out over a row of slots from input**, both read from
    the left. A literal slot shows its literal. A placeholder is `blank`
    and shows the prompt, or has `taken` the next character of the input.
    Characters may be `passed` over, and input may be left at the end. -/
inductive Laid (p : Char) : List Slot → Text → Text → Prop where
  | nil (input : Text) : Laid p [] input []
  | literal {s : Slot} {rest : List Slot} {l : Char} {input display : Text}
      (hl : s.literal? = some l) (h : Laid p rest input display) :
      Laid p (s :: rest) input (l :: display)
  | blank {s : Slot} {rest : List Slot} {input display : Text}
      (hs : s.literal? = none) (h : Laid p rest input display) :
      Laid p (s :: rest) input (p :: display)
  | taken {s : Slot} {rest : List Slot} {c d : Char} {input display : Text}
      (hs : s.literal? = none) (hc : s.accept c = some d) (h : Laid p rest input display) :
      Laid p (s :: rest) (c :: input) (d :: display)
  | passed {slots : List Slot} {c : Char} {input display : Text}
      (h : Laid p slots input display) : Laid p slots (c :: input) display

section Rows

variable {p : Char} {slots : List Slot} {input display : Text}

/-- What is laid out from the end of the input is laid out from all of it. -/
theorem Laid.of_suffix {input' : Text} (h : Laid p slots input' display)
    (hs : input' <:+ input) : Laid p slots input display := by
  obtain ⟨front, rfl⟩ := hs
  induction front with
  | nil => exact h
  | cons c front ih => exact .passed ih

/-- Blank slots in front take no input. -/
theorem Laid.blanks_append (front : List Slot) (h : Laid p slots input display) :
    Laid p (front ++ slots) input (blanks (some p) front ++ display) := by
  induction front with
  | nil => exact h
  | cons s front ih =>
    cases hs : s.literal? with
    | some l =>
      rw [blanks_literal hs]
      exact .literal hs ih
    | none =>
      rw [blanks_placeholder hs]
      exact .blank hs ih

/-- A row is laid out blank from any input. -/
theorem laid_blanks (p : Char) (slots : List Slot) (input : Text) :
    Laid p slots input (blanks (some p) slots) := by
  have h := Laid.blanks_append slots (Laid.nil (p := p) input)
  rwa [List.append_nil, List.append_nil] at h

/-- **Filling lays out**: with a prompt that is kept, the display of any
    input over a row is laid out from that input. -/
theorem laid_fill (p : Char) (keep : Bool) (slots : List Slot) (input : Text) :
    Laid p slots input (fill ⟨some p, true, keep⟩ slots input) := by
  fun_induction fill ⟨some p, true, keep⟩ slots input with
  | case1 input => exact .nil input
  | case2 s rest => exact laid_blanks p (s :: rest) []
  | case3 s rest c input l hl ih => exact .literal hl (ih.of_suffix (pastFirst_suffix l _))
  | case4 s rest c input hs d hc ih => exact .taken hs hc ih
  | case5 s rest c input hs _ hp _ ih =>
    cases hp
    exact .blank hs ih.passed
  | case6 s rest c input hs _ _ hk => exact absurd rfl hk
  | case7 s rest c input hs _ _ skipped rest' hj ih =>
    obtain ⟨s', hs', rfl⟩ := eq_of_splitAtLiteral hj
    exact (Laid.literal hs' ih).passed.blanks_append (s :: skipped)
  | case8 s rest c input _ _ _ _ ih => exact .passed ih

/-- A row laid out is a full display: what a slot makes of a character
    it takes as it is. -/
theorem Laid.fullDisplay (h : Laid p slots input display) : FullDisplay p slots display := by
  induction h with
  | nil => exact .nil
  | literal hl _ ih => exact .cons ((shows_literal hl).mpr rfl) ih
  | blank hs _ ih => exact .cons ((shows_placeholder hs).mpr (.inl rfl)) ih
  | taken hs hc _ ih =>
    exact .cons ((shows_placeholder hs).mpr (.inr (Slot.accept_of_accept hc))) ih
  | passed _ ih => exact ih

end Rows

/-! ## 3. Positions -/

/-- What a slot shows, given the position of the raw text it shows, if any. -/
def Slot.ShowsFrom (p : Char) (raw : Text) (s : Slot) (d : Char) (source : Option Nat) : Prop :=
  match s.kind, source with
  | .literal l, _ => d = l
  | .placeholder _, none => d = p
  | .placeholder k, some i =>
    ∃ c, raw[i]? = some c ∧ d = s.caseMode.shift c ∧ k.admits d = true

/-- **A layout of a raw text**: a full-width display whose slot `k` shows
    position `source k` of the raw text, or shows none of it. The
    positions ascend: what stands further right is read later. -/
structure Layout (p : Char) (slots : List Slot) (raw display : Text)
    (source : Nat → Option Nat) : Prop where
  width : display.length = slots.length
  cell : ∀ (k : Nat) (s : Slot) (d : Char), slots[k]? = some s → display[k]? = some d →
    s.ShowsFrom p raw d (source k)
  ascending : ∀ k k' i i' : Nat, k < k' → source k = some i → source k' = some i' → i < i'

section Positions

variable {p : Char} {slots : List Slot} {raw display : Text} {source : Nat → Option Nat}

/-- Positions for a row with one more slot in front. -/
def consSource (first : Option Nat) (source : Nat → Option Nat) : Nat → Option Nat
  | 0 => first
  | k + 1 => source k

theorem Layout.cons {s : Slot} {d : Char} {first : Option Nat}
    (h : Layout p slots raw display source) (hd : s.ShowsFrom p raw d first)
    (hf : ∀ i, first = some i → ∀ k j, source k = some j → i < j) :
    Layout p (s :: slots) raw (d :: display) (consSource first source) where
  width := congrArg (· + 1) h.width
  cell k s' d' hs' hd' := by
    cases k with
    | zero =>
      cases hs'
      cases hd'
      exact hd
    | succ k => exact h.cell k s' d' hs' hd'
  ascending k k' i i' hk hi hi' := by
    cases k' with
    | zero => exact absurd hk (Nat.not_lt_zero k)
    | succ k' =>
      cases k with
      | zero => exact hf i hi k' i' hi'
      | succ k => exact h.ascending k k' i i' (Nat.lt_of_succ_lt_succ hk) hi hi'

/-- A character in front of the raw text moves all positions on by one. -/
theorem Layout.passed (c : Char) (h : Layout p slots raw display source) :
    Layout p slots (c :: raw) display (fun k => (source k).map (· + 1)) where
  width := h.width
  cell k s d hs hd := by
    have hcell := h.cell k s d hs hd
    unfold Slot.ShowsFrom at hcell ⊢
    cases hk : s.kind <;> cases hi : source k <;> simpa [hk, hi] using hcell
  ascending k k' i i' hk hi hi' := by
    obtain ⟨j, hj, rfl⟩ := Option.map_eq_some_iff.mp hi
    obtain ⟨j', hj', rfl⟩ := Option.map_eq_some_iff.mp hi'
    exact Nat.succ_lt_succ (h.ascending k k' j j' hk hj hj')

end Positions

/-- **A row laid out names its positions.** -/
theorem Laid.exists_layout {p : Char} {slots : List Slot} {input display : Text}
    (h : Laid p slots input display) : ∃ source, Layout p slots input display source := by
  induction h with
  | nil input => exact ⟨fun _ => none, ⟨rfl, by simp, by simp⟩⟩
  | @literal s rest l input display hl _ ih =>
    obtain ⟨source, hsrc⟩ := ih
    have hd : s.ShowsFrom p input l none := by
      have hk : s.kind = .literal l := Slot.kind_of_literal? hl
      unfold Slot.ShowsFrom
      rw [hk]
    exact ⟨_, hsrc.cons hd (by simp)⟩
  | @blank s rest input display hs _ ih =>
    obtain ⟨source, hsrc⟩ := ih
    obtain ⟨k, hk⟩ := Slot.exists_kind_of_literal? hs
    have hd : s.ShowsFrom p input p none := by
      unfold Slot.ShowsFrom
      rw [hk]
    exact ⟨_, hsrc.cons hd (by simp)⟩
  | @taken s rest c d input display hs hc _ ih =>
    obtain ⟨source, hsrc⟩ := ih
    obtain ⟨k, hk⟩ := Slot.exists_kind_of_literal? hs
    have hfits := Slot.fits_of_accept hc
    have hd : s.ShowsFrom p (c :: input) d (some 0) := by
      unfold Slot.ShowsFrom
      rw [hk] at hfits ⊢
      exact ⟨c, rfl, Slot.eq_shift_of_accept hs hc, hfits⟩
    -- the head of the input is read first: all other positions have moved on
    refine ⟨_, (hsrc.passed c).cons hd ?_⟩
    intro i hi k j hj
    cases hi
    obtain ⟨j', -, rfl⟩ := Option.map_eq_some_iff.mp hj
    exact Nat.succ_pos j'
  | passed _ ih =>
    obtain ⟨source, hsrc⟩ := ih
    exact ⟨_, hsrc.passed _⟩

/-! ## 4. Formatted displays -/

/-- No option makes filling give more characters than there are slots. -/
theorem length_fill_le (o : Options) (slots : List Slot) (input : Text) :
    (fill o slots input).length ≤ slots.length := by
  fun_induction fill o slots input with
  | case1 => exact Nat.le_refl 0
  | case2 s rest => exact length_blanks_le _ _
  | case3 s rest c input l _ ih => exact Nat.succ_le_succ ih
  | case4 s rest c input _ d _ ih => exact Nat.succ_le_succ ih
  | case5 s rest c input _ _ _ _ ih => exact Nat.succ_le_succ ih
  | case6 s rest c input _ _ _ _ ih => exact Nat.le_succ_of_le ih
  | case7 s rest c input _ _ _ skipped rest' hj ih =>
    obtain ⟨s', -, rfl⟩ := eq_of_splitAtLiteral hj
    have hb := length_blanks_le o.prompt (s :: skipped)
    simp only [List.length_append, List.length_cons] at hb ih ⊢
    omega
  | case8 s rest c input _ _ _ _ ih => exact ih

/-- **A display lays out its raw text.** With a prompt that is kept it is
    a layout of the raw text, trimmed; under all options it is no longer
    than the mask. -/
theorem exists_layout_format (m : Mask) (hm : m.isEmpty = false) (p : Char)
    (keep : Bool) (raw : Text) :
    (∃ display source, Layout p m.slots raw display source ∧
      m.format ⟨some p, true, keep⟩ raw = Text.trimEnd display) ∧
    ∀ o : Options, (m.format o raw).length ≤ m.length := by
  refine ⟨?_, fun o => ?_⟩
  · obtain ⟨source, h⟩ := (laid_fill p keep m.slots raw).exists_layout
    exact ⟨_, source, h, m.format_eq hm _ raw⟩
  · rw [m.format_eq hm]
    exact Nat.le_trans (Text.length_trimEnd_le _) (length_fill_le o m.slots raw)

/-- A separator that comes early, laid out over a date. -/
theorem exists_layout_format_date :
    let m := Mask.compile "00/00".toList
    m.isEmpty = false ∧
    (∃ display source, Layout '_' m.slots "1/2".toList display source ∧
      m.format ⟨some '_', true, false⟩ "1/2".toList = Text.trimEnd display) ∧
    ∀ o : Options, (m.format o "1/2".toList).length ≤ m.length :=
  ⟨by decide, exists_layout_format _ (by decide) '_' false _⟩

end InputMask
