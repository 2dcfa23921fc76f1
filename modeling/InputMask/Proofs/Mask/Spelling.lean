/-
  File:      InputMask/Proofs/Mask/Spelling.lean
  Subject:   Which rows of slots some mask text lays out.

  * `Slot.Spellable` -- an escaped slot is a literal, and a literal that
    is not escaped has no other meaning in a mask text;
  * `spellable_of_mem_compile` -- a mask has no other slots;
  * `compile_spell` -- a row of such slots is laid out by its spelling;
  * **`exists_compile_iff`** -- so these are the rows that masks lay out.
-/
import InputMask.Proofs.Mask.Reading
namespace InputMask

/-! ## 1. Slots that can be spelt -/

/-- The characters that stand for a category. -/
def symbols : Text := "09#L?&CAa".toList

theorem not_mem_symbols_iff {c : Char} : c ∉ symbols ↔ Category.ofSymbol? c = none := by
  have hsymbols : symbols = Category.all.map Category.symbol := rfl
  rw [hsymbols]
  constructor
  · intro hc
    cases hk : Category.ofSymbol? c with
    | none => rfl
    | some k =>
      have hall : k ∈ Category.all := by cases k <;> decide
      exact absurd (List.mem_map.mpr ⟨k, hall, Category.symbol_of_ofSymbol? hk⟩) hc
  · intro hc hmem
    obtain ⟨k, -, rfl⟩ := List.mem_map.mp hmem
    rw [Category.ofSymbol?_symbol] at hc
    cases hc

/-- **A slot that a mask text can lay out.** Only literals are escaped, and
    what is a literal without an escape stands for no category and directs
    nothing. The case mode is any. -/
structure Slot.Spellable (s : Slot) : Prop where
  escaped : s.escaped = true → ∃ c, s.kind = .literal c
  plain : ∀ c, s.kind = .literal c → s.escaped = false → c ∉ symbols ∧ c ∉ directives

section Spellable

variable {c : Char}

theorem SlotKind.ofChar_of_not_mem (hc : c ∉ symbols) : ofChar c = .literal c := by
  unfold ofChar
  rw [not_mem_symbols_iff.mp hc]

theorem SlotKind.ofChar_symbol (k : Category) : ofChar k.symbol = .placeholder k := by
  unfold ofChar
  rw [Category.ofSymbol?_symbol]

theorem spellable_escaped (c : Char) (m : CaseMode) : Slot.Spellable ⟨.literal c, m, true⟩ where
  escaped _ := ⟨c, rfl⟩
  plain _ _ he := nomatch he

theorem spellable_ofChar (hc : c ∉ directives) (m : CaseMode) :
    Slot.Spellable ⟨.ofChar c, m, false⟩ where
  escaped he := nomatch he
  plain l hl _ := by
    have hl : SlotKind.ofChar c = .literal l := hl
    unfold SlotKind.ofChar at hl
    split at hl
    · cases hl
    · rename_i hnone
      cases hl
      exact ⟨not_mem_symbols_iff.mpr hnone, hc⟩

end Spellable

/-! ## 2. Compiled slots -/

/-- The slot of a position can be spelt. -/
theorem Source.spellable_of_slotAt {t : Text} {i : Nat} {s : Slot} (h : slotAt t i = some s) :
    s.Spellable := by
  unfold slotAt at h
  obtain ⟨c, -, h⟩ := Option.bind_eq_some_iff.mp h
  split at h
  · cases h
    exact spellable_escaped c _
  · split at h
    · cases h
    · rename_i hc
      cases h
      exact spellable_ofChar hc _

/-- **Every slot of a mask can be spelt.** -/
theorem spellable_of_mem_compile {t : Text} {s : Slot} (h : s ∈ (Mask.compile t).slots) :
    s.Spellable := by
  rw [Source.compile_slots, Source.slots, List.mem_append] at h
  rcases h with h | h
  · obtain ⟨i, -, hi⟩ := List.mem_filterMap.mp h
    exact Source.spellable_of_slotAt hi
  · unfold Source.danglingSlot at h
    split at h
    · obtain rfl := List.mem_singleton.mp h
      exact spellable_escaped escapeMark _
    · exact absurd h List.not_mem_nil

/-! ## 3. Spelt slots -/

/-- The spelling of a slot is compiled to that slot, whichever case mode
    was in force; its own is in force behind it. -/
theorem slotsFrom_spell_append {s : Slot} (hs : s.Spellable) (m : CaseMode) (rest : Text) :
    slotsFrom m (s.spell ++ rest) = s :: slotsFrom s.caseMode rest := by
  obtain ⟨kind, mode, escaped⟩ := s
  cases kind with
  | literal c =>
    cases escaped with
    | true =>
      show slotsFrom m (mode.mark :: escapeMark :: c :: rest) = _
      rw [slotsFrom_mark, slotsFrom_escapeMark, escapedSlotsFrom]
    | false =>
      obtain ⟨hsymbol, hdirective⟩ := hs.plain c rfl rfl
      show slotsFrom m (mode.mark :: c :: rest) = _
      rw [slotsFrom_mark, slotsFrom_plain _ _ hdirective, SlotKind.ofChar_of_not_mem hsymbol]
  | placeholder k =>
    cases escaped with
    | true =>
      obtain ⟨c, hc⟩ := hs.escaped rfl
      cases hc
    | false =>
      have hdirective : k.symbol ∉ directives := by cases k <;> decide
      show slotsFrom m (mode.mark :: k.symbol :: rest) = _
      rw [slotsFrom_mark, slotsFrom_plain _ _ hdirective, SlotKind.ofChar_symbol]

/-- **A row of slots that can be spelt is laid out by its spelling.** -/
theorem compile_spell {slots : List Slot} (h : ∀ s ∈ slots, s.Spellable) :
    (Mask.compile (spell slots)).slots = slots := by
  have hall : ∀ m, slotsFrom m (spell slots) = slots := by
    induction slots with
    | nil => exact fun _ => rfl
    | cons s rest ih =>
      intro m
      rw [List.forall_mem_cons] at h
      rw [spell, List.flatMap_cons, slotsFrom_spell_append h.1]
      exact congrArg (s :: ·) (ih h.2 s.caseMode)
  exact hall .plain

/-- **The rows that masks lay out** are those whose slots can be spelt:
    every escaped slot is a literal, and no literal that is not escaped is
    one of the characters with a meaning in a mask text. -/
theorem exists_compile_iff (slots : List Slot) :
    (∃ t, (Mask.compile t).slots = slots) ↔ ∀ s ∈ slots, s.Spellable := by
  constructor
  · rintro ⟨t, rfl⟩ s hs
    exact spellable_of_mem_compile hs
  · intro h
    exact ⟨spell slots, compile_spell h⟩

end InputMask
