/-
  File:      InputMask/Proofs/Field/Paste.lean
  Subject:   Text pasted into the value of a field.

  A paste puts text between what the value holds in front of the edited
  slots and what it holds behind them, and shows the result anew. Its caret
  is found by counting what the front alone would show.

  * **`caret_pasteResync`** -- when the caret is behind all placeholders
    that the front fills, and a paste after which it is not;
  * `FitsAnywhere` -- text that every placeholder takes as it is;
  * `pastedFront_of_holds`, `valueBehind_of_holds` -- the pieces of a paste
    into a display that holds values;
  * **`pasteResync_splices`** -- such text is spliced into such values.
-/
import InputMask.Proofs.Caret.Typing
import InputMask.Proofs.Field.Refusal
import InputMask.Proofs.Format.Filled
import InputMask.Proofs.Format.ReadBack
namespace InputMask

open InputMask.Field (placeholderAt)

namespace Field

/-! ## 1. The caret after a paste -/

/-- **The caret after a paste** is on a placeholder or at the end of the
    mask. It is behind every placeholder that the front of the paste fills
    exactly when no placeholder in front of these is left free and what is
    read back from the display of the front does not end in a blank: the
    caret is found by counting the characters read back. -/
theorem caret_pasteResync {f : Field} (hm : f.engine.mask.isEmpty = false) (text : Text) :
    let p := f.engine.config.prompt
    let slots := f.engine.mask.slots
    let front := f.engine.focusText (f.pastedFront text)
    let read := Options.kept ⟨some p, false, false⟩ front slots
    let caret := (f.paste text .resync).1.caret
    (PlaceholderSlot slots caret ∨ caret = f.engine.mask.length) ∧
    ((∀ i, FilledAt p slots front i → i < caret) ↔
      Gapless p slots front ∧ read.getLast?.any Text.isBlank = false) := by
  intro p slots front read caret
  have hcaret : caret = placeholderAt (Text.trimEnd read).length slots := by
    show (f.pasteResync text).1.caret = _
    rw [f.pasteResync_eq hm, f.engine.mask.unmask_eq hm]
    rfl
  have hfront : TrimmedDisplay p slots front := trimmedDisplay_format hm _
  rw [hcaret]
  exact ⟨placeholderSlot_placeholderAt _ slots, forall_filledAt_lt_iff hfront⟩

/-- Digits pasted where the value keeps its literals: the literal in front
    of them is not counted, and the caret is right behind the digits. -/
theorem caret_pasteResync_phone :
    let f := (ofConfig { Config.ofMask "(000) 000".toList with keepLiterals := true }).run [.focus]
    let g := (f.paste "12".toList .resync).1
    let front := f.engine.focusText (f.pastedFront "12".toList)
    (f.engine.mask.isEmpty = false ∧ front = "(12_) ___".toList ∧ g.caret = 3) ∧
    ∀ i, FilledAt f.engine.config.prompt f.engine.mask.slots front i → i < g.caret := by
  intro f g front
  have hm : f.engine.mask.isEmpty = false := by decide +kernel
  have hfront : front = "(12_) ___".toList := by decide +kernel
  have hgapless : Gapless f.engine.config.prompt f.engine.mask.slots front := by decide +kernel
  have hlast : (Options.kept ⟨some f.engine.config.prompt, false, false⟩ front
      f.engine.mask.slots).getLast?.any Text.isBlank = false := by decide +kernel
  exact ⟨⟨hm, hfront, by decide +kernel⟩,
    (caret_pasteResync hm "12".toList).2.mpr ⟨hgapless, hlast⟩⟩

/-- **A caret that is not behind the pasted text**: the separator leaves the
    first placeholder free, and the caret is on the digit behind it. -/
theorem caret_pasteResync_gap :
    let f := (ofConfig (Config.ofMask "0/0".toList)).run [.focus]
    let g := (f.paste "/2".toList .resync).1
    let front := f.engine.focusText (f.pastedFront "/2".toList)
    (f.Reachable ∧ f.focused = true ∧ f.engine.mask.isEmpty = false ∧
      front = "_/2".toList) ∧
    FilledAt f.engine.config.prompt f.engine.mask.slots front 2 ∧ ¬2 < g.caret := by
  intro f g front
  have hf : f.Reachable := ⟨_, _, rfl⟩
  exact ⟨⟨hf, by decide +kernel, by decide +kernel, by decide +kernel⟩, by decide +kernel,
    by decide +kernel⟩

end Field

/-! ## 2. Text that fits anywhere -/

/-- **Text that fits anywhere in a row**: every placeholder takes each of
    its characters as it is, and none of them is the prompt, a literal of
    the row or a blank. -/
structure FitsAnywhere (p : Char) (slots : List Slot) (text : Text) : Prop where
  accept : ∀ s ∈ slots, s.isPlaceholder = true → ∀ c ∈ text, s.accept c = some c
  plain : PlainInput p slots text
  solid : ∀ c ∈ text, Text.isBlank c = false

instance (p : Char) (slots : List Slot) (text : Text) : Decidable (FitsAnywhere p slots text) :=
  decidable_of_iff
    ((∀ s ∈ slots, s.isPlaceholder = true → (text.all fun c => s.accept c == some c) = true) ∧
      PlainInput p slots text ∧ (text.all fun c => !Text.isBlank c) = true)
    ⟨fun ⟨ha, hp, hs⟩ => ⟨by simpa using ha, hp, by simpa using hs⟩,
      fun h => ⟨by simpa using h.accept, h.plain, by simpa using h.solid⟩⟩

namespace FitsAnywhere

variable {p : Char} {slots : List Slot} {m : Mask} {keep : Bool} {text w : Text}

theorem of_subset (h : FitsAnywhere p slots text) (hw : w ⊆ text) : FitsAnywhere p slots w where
  accept s hs hph c hc := h.accept s hs hph c (hw hc)
  plain := ⟨fun hp => h.plain.prompt (hw hp), fun s hs c hc => h.plain.literal s hs c (hw hc)⟩
  solid c hc := h.solid c (hw hc)

/-- Trimming leaves such text alone. -/
theorem last (h : FitsAnywhere p slots text) : text.getLast?.any Text.isBlank = false := by
  cases hlast : text.getLast? with
  | none => rfl
  | some c => exact h.solid c (List.mem_of_getLast? hlast)

/-- As far as there is room such text is taken along the row. -/
theorem takes (h : FitsAnywhere p slots text)
    (hroom : text.length ≤ (slots.filter Slot.isPlaceholder).length) : Takes slots text text :=
  (leftFilled_of_accepts hroom h.accept h.plain.literal).takes

/-- What there is no room for is dropped. -/
theorem format_take (h : FitsAnywhere p m.slots text) (hm : m.isEmpty = false) :
    m.format ⟨some p, true, keep⟩ text =
      m.format ⟨some p, true, keep⟩ (text.take (m.slots.filter Slot.isPlaceholder).length) := by
  have htake := h.of_subset (List.take_subset (m.slots.filter Slot.isPlaceholder).length text)
  have hentered : ∀ {w : Text}, FitsAnywhere p m.slots w →
      entered (m.slots.filter Slot.isPlaceholder) w =
        w.take (m.slots.filter Slot.isPlaceholder).length := fun hw =>
    entered_of_accepts fun s hs c hc =>
      hw.accept s (List.mem_of_mem_filter hs) (List.mem_filter.mp hs).2 c hc
  rw [m.format_eq hm, m.format_eq hm, fill_entered p keep h.plain, fill_entered p keep htake.plain,
    hentered h, hentered htake, List.take_take, Nat.min_self]

/-- **The value of such text** is as much of it as there is room for. -/
theorem unmask_format (h : FitsAnywhere p m.slots text) (hm : m.isEmpty = false) :
    m.unmask ⟨some p, false, false⟩ (m.format ⟨some p, true, keep⟩ text) =
      text.take (m.slots.filter Slot.isPlaceholder).length := by
  have htake := h.of_subset (List.take_subset (m.slots.filter Slot.isPlaceholder).length text)
  have hroom := List.length_take_le (m.slots.filter Slot.isPlaceholder).length text
  rw [h.format_take hm, unmask_format_of_takes m hm keep (htake.takes hroom) htake.plain.prompt,
    Text.trimEnd_eq_self htake.last]

end FitsAnywhere

/-! ## 3. Pastes that splice -/

namespace Field

section Pieces

variable {f : Field} {v raw : Text}
  (hoptions : f.engine.config.valueOptions = ⟨some f.engine.config.prompt, false, false⟩)
  (ht : Takes f.engine.mask.slots raw v) (hp : f.engine.config.prompt ∉ v)
  (h : Holds f.engine.config.prompt f.engine.mask.slots f.slotText v)

include hoptions ht hp h

/-- In front of an edit stand the values of the placeholders there. -/
theorem pastedFront_of_holds (text : Text) :
    f.pastedFront text =
      v.take (placeholdersBefore f.engine.mask.slots f.editSpan.1) ++ text := by
  unfold pastedFront
  rw [hoptions, unmaskRange_front ht hp h]

/-- Behind an edit stand those of the placeholders behind the edited slots. -/
theorem valueBehind_of_holds :
    f.valueBehind =
      v.drop (placeholdersBefore f.engine.mask.slots (f.editSpan.1 + f.editSpan.2)) := by
  unfold valueBehind
  rw [hoptions, unmaskRange_back ht hp h (Nat.min_le_right _ _)]
  exact congrArg v.drop (placeholdersBefore_min _ _)

end Pieces

/-- **A paste splices.** Let a field with focus, its value without literals,
    show a text that there is room for, and let it and the pasted text fit
    anywhere in the mask. The value is then the text with the pasted text in
    place of what stands in the edited slots, as far as there is room for
    it; the display shows just that; and the caret is on the placeholder
    behind the pasted text, or at the end of the mask. -/
theorem pasteResync_splices {f : Field} (hf : f.Reachable) (hfocus : f.focused = true)
    (hm : f.engine.mask.isEmpty = false) (hkeep : f.engine.config.keepLiterals = false)
    {v text : Text} (hfits : FitsAnywhere f.engine.config.prompt f.engine.mask.slots (v ++ text))
    (hroom : v.length ≤ (f.engine.mask.slots.filter Slot.isPlaceholder).length)
    (hdisplay : f.display = f.engine.focusText v) :
    let slots := f.engine.mask.slots
    let before := placeholdersBefore slots f.editSpan.1
    let through := placeholdersBefore slots (f.editSpan.1 + f.editSpan.2)
    let value := (v.take before ++ text ++ v.drop through).take
      (slots.filter Slot.isPlaceholder).length
    let g := (f.paste text .resync).1
    g.value = value ∧ g.display = f.engine.focusText value ∧
      g.caret = placeholderAt (min before v.length + text.length) slots := by
  intro slots before through value g
  have hv := hfits.of_subset (List.subset_append_left v text)
  have htakes := hv.takes hroom
  have hholds : Holds f.engine.config.prompt slots f.slotText v := by
    rw [slotText_of_focused hf hfocus, hdisplay]
    exact f.engine.holds_focusText hm htakes hroom hv.last
  have hoptions : f.engine.config.valueOptions = ⟨some f.engine.config.prompt, false, false⟩ := by
    unfold Config.valueOptions Config.maskOptions
    rw [hkeep]
  have hfront := pastedFront_of_holds hoptions htakes hv.plain.prompt hholds text
  have hbehind := valueBehind_of_holds hoptions htakes hv.plain.prompt hholds
  -- the spliced text is made of the two texts, and so fits anywhere too
  have hsplicedFront : v.take before ++ text ⊆ v ++ text :=
    List.append_subset.mpr
      ⟨List.Subset.trans (List.take_subset _ v) (List.subset_append_left v text),
        List.subset_append_right v text⟩
  have hspliced : v.take before ++ text ++ v.drop through ⊆ v ++ text :=
    List.append_subset.mpr
      ⟨hsplicedFront, List.Subset.trans (List.drop_subset _ v) (List.subset_append_left v text)⟩
  have hshown : f.engine.focusText (v.take before ++ text ++ v.drop through) =
      f.engine.focusText value := (hfits.of_subset hspliced).format_take hm
  have hread : f.engine.mask.unmask ⟨some f.engine.config.prompt, false, false⟩
      (f.engine.focusText (v.take before ++ text)) =
      (v.take before ++ text).take (slots.filter Slot.isPlaceholder).length :=
    (hfits.of_subset hsplicedFront).unmask_format hm
  have hg : g = (f.withDisplay (f.engine.focusText value)).caretAt
      (placeholderAt (min before v.length + text.length) slots) := by
    show (f.pasteResync text).1 = _
    rw [f.pasteResync_of_shows hm (.inl hfocus), hfront, hbehind, hshown, hread,
      List.length_take, placeholderAt_min, List.length_append, List.length_take]
  rw [hg]
  refine ⟨?_, rfl, rfl⟩
  show f.engine.value (f.engine.focusText value) = value
  unfold Engine.value
  rw [hoptions, ← hshown]
  exact (hfits.of_subset hspliced).unmask_format hm

/-- Two digits pasted over one digit of a date and the separator behind it:
    the last digit of the date is pushed out. -/
theorem pasteResync_splices_date :
    let f := (ofConfig (Config.ofMask "00/00".toList)).run
      [.focus, .setValue "1234".toList, .select 1 3]
    let g := (f.paste "56".toList .resync).1
    (f.Reachable ∧ f.focused = true ∧ f.engine.mask.isEmpty = false ∧
      f.engine.config.keepLiterals = false ∧
      FitsAnywhere f.engine.config.prompt f.engine.mask.slots ("1234".toList ++ "56".toList) ∧
      f.display = f.engine.focusText "1234".toList ∧ f.editSpan = (1, 2)) ∧
    g.value = "1563".toList ∧ g.display = "15/63".toList ∧ g.caret = 4 := by
  intro f g
  have hf : f.Reachable := ⟨_, _, rfl⟩
  have hfocus : f.focused = true := by decide +kernel
  have hmask : f.engine.mask = Mask.compile "00/00".toList := by decide +kernel
  have hp : f.engine.config.prompt = '_' := by decide +kernel
  have hm : f.engine.mask.isEmpty = false := by rw [hmask]; decide
  have hkeep : f.engine.config.keepLiterals = false := by decide +kernel
  have hfits : FitsAnywhere f.engine.config.prompt f.engine.mask.slots
      ("1234".toList ++ "56".toList) := by
    rw [hmask, hp]
    decide
  have hdisplay : f.display = f.engine.focusText "1234".toList := by decide +kernel
  have hspan : f.editSpan = (1, 2) := by decide +kernel
  obtain ⟨hvalue, hshown, hcaret⟩ := pasteResync_splices hf hfocus hm hkeep hfits
    (by rw [hmask]; decide) hdisplay
  rw [hspan, hmask] at hvalue hshown hcaret
  refine ⟨⟨hf, hfocus, hm, hkeep, hfits, hdisplay, hspan⟩, hvalue, ?_, hcaret⟩
  exact hshown.trans (by decide +kernel)

end Field

end InputMask
