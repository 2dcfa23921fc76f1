/-
  File:      InputMask/Proofs/Field/CutPaste.lean
  Subject:   A selection cut out of a field and pasted back.

  A cut moves what stands behind the selection up to its start, and leaves
  the caret there. As many characters as stood in front of the selection
  still stand in front of the caret, whatever literals are around it; a paste
  at the caret therefore puts what was cut back between the same two pieces.

  * `seatAt`, `seatsBefore` -- where the characters of a text are shown, and
    how many of them in front of a position, with a mask and without;
  * `ShowsFitting` -- a field with focus that shows a text which fits
    anywhere in its mask;
  * `ShowsFitting.selected`, `ShowsFitting.deleteSelection`,
    `ShowsFitting.pasteAtCaret` -- what the three operations make of the text;
  * `ShowsFitting.paste_cut` -- what of the field is restored;
  * **`pasteResync_cut`** -- what a cut gives out, and that pasting it right
    after restores display and value, for every selection.
-/
import InputMask.Proofs.Caret.Deletion
import InputMask.Proofs.Field.Paste
namespace InputMask

open InputMask.Field (placeholderAt)

/-! ## 1. Seats -/

namespace Mask

/-- Where the `n`-th character of a text is shown, if all of them are taken:
    in the placeholder with that number, or without a mask at that position. -/
def seatAt (m : Mask) (n : Nat) : Nat := if m.isEmpty then n else placeholderAt n m.slots

/-- How many characters of a text are shown in front of a position. -/
def seatsBefore (m : Mask) (i : Nat) : Nat :=
  if m.isEmpty then i else placeholdersBefore m.slots i

/-- The characters of a text that are shown from `first` up to but not
    including `stop`. -/
def shownBetween (m : Mask) (first stop : Nat) (text : Text) : Text :=
  (text.zipIdx.filter fun x => first ≤ m.seatAt x.2 && m.seatAt x.2 < stop).map Prod.fst

section Seats

variable {m : Mask} {i j first stop : Nat}

theorem seatsBefore_free (hm : m.isEmpty = true) (i : Nat) : m.seatsBefore i = i :=
  if_pos hm

theorem seatsBefore_masked (hm : m.isEmpty = false) (i : Nat) :
    m.seatsBefore i = placeholdersBefore m.slots i :=
  if_neg (by simp [hm])

theorem seatsBefore_mono (m : Mask) (h : i ≤ j) : m.seatsBefore i ≤ m.seatsBefore j := by
  cases hm : m.isEmpty with
  | true => rwa [seatsBefore_free hm, seatsBefore_free hm]
  | false =>
    rw [seatsBefore_masked hm, seatsBefore_masked hm]
    exact placeholdersBefore_mono m.slots h

/-- A character is shown in front of a position exactly when its number is
    less than that of the seats there. -/
theorem seatAt_lt_iff (hi : m.isEmpty = false → i ≤ m.length) (n : Nat) :
    m.seatAt n < i ↔ n < m.seatsBefore i := by
  unfold seatAt
  cases hm : m.isEmpty with
  | true => rw [if_pos rfl, seatsBefore_free hm]
  | false =>
    rw [if_neg Bool.false_ne_true, seatsBefore_masked hm]
    exact placeholderAt_lt_iff (hi hm)

/-- **What is shown between two positions** is one piece of the text. -/
theorem shownBetween_eq (hle : first ≤ stop) (hstop : m.isEmpty = false → stop ≤ m.length)
    (text : Text) :
    m.shownBetween first stop text =
      (text.take (m.seatsBefore stop)).drop (m.seatsBefore first) := by
  have hseat : ∀ n, (decide (first ≤ m.seatAt n) && decide (m.seatAt n < stop)) =
      (decide (m.seatsBefore first ≤ n) && decide (n < m.seatsBefore stop)) := by
    intro n
    have hfirst : first ≤ m.seatAt n ↔ m.seatsBefore first ≤ n := by
      rw [← Nat.not_lt, seatAt_lt_iff (fun hm => Nat.le_trans hle (hstop hm)), Nat.not_lt]
    rw [decide_eq_decide.mpr hfirst, decide_eq_decide.mpr (seatAt_lt_iff hstop n)]
  unfold shownBetween
  simp only [hseat]
  exact map_filter_zipIdx_within text _ _ 0

end Seats

end Mask

/-- **A piece cut out of a text and put back** gives the text. -/
theorem take_cut_drop (text : Text) {a b : Nat} (hab : a ≤ b) :
    (text.take a ++ text.drop b).take a ++ (text.take b).drop a ++
      (text.take a ++ text.drop b).drop a = text := by
  rcases Nat.le_total a text.length with ha | ha
  · have hlength : (text.take a).length = a := List.length_take_of_le ha
    have hfront := List.take_append_drop a (text.take b)
    rw [List.take_take, Nat.min_eq_left hab] at hfront
    rw [List.take_left' hlength, List.drop_left' hlength, hfront, List.take_append_drop]
  · -- all stands in front of the cut, and nothing was cut
    have hb := Nat.le_trans ha hab
    rw [List.take_of_length_le ha, List.drop_of_length_le hb, List.append_nil,
      List.take_of_length_le ha, List.take_of_length_le hb, List.drop_of_length_le ha,
      List.append_nil, List.append_nil]

/-! ## 2. Fields that show a text -/

namespace Field

/-- **A field with focus that shows a text**, its value without literals,
    where the text fits anywhere in the mask and there is room for it. -/
structure ShowsFitting (f : Field) (text : Text) : Prop where
  reachable : f.Reachable
  focused : f.focused = true
  plainValue : f.engine.config.keepLiterals = false
  fits : FitsAnywhere f.engine.config.prompt f.engine.mask.slots text
  room : f.engine.mask.isEmpty = false →
    text.length ≤ (f.engine.mask.slots.filter Slot.isPlaceholder).length
  display : f.display = f.engine.focusText text

namespace ShowsFitting

variable {f : Field} {text : Text} (h : f.ShowsFitting text)

include h

theorem slotText_eq : f.slotText = f.engine.focusText text := by
  rw [slotText_of_focused h.reachable h.focused, h.display]

theorem valueOptions_eq :
    f.engine.config.valueOptions = ⟨some f.engine.config.prompt, false, false⟩ := by
  unfold Config.valueOptions Config.maskOptions
  rw [h.plainValue]

section Masked

variable (hm : f.engine.mask.isEmpty = false)

include hm

theorem takes : Takes f.engine.mask.slots text text :=
  h.fits.takes (h.room hm)

theorem holds : Holds f.engine.config.prompt f.engine.mask.slots f.slotText text := by
  rw [h.slotText_eq]
  exact f.engine.holds_focusText hm (h.takes hm) (h.room hm) h.fits.last

end Masked

/-- **The selected part of the value** is what is shown in the selection. -/
theorem selected :
    f.selected = (text.take (f.engine.mask.seatsBefore f.selStop)).drop
      (f.engine.mask.seatsBefore f.selStart) := by
  unfold Field.selected
  cases hm : f.engine.mask.isEmpty with
  | true =>
    rw [if_pos rfl, h.slotText_eq, f.engine.focusText_of_isEmpty hm, Mask.seatsBefore_free hm,
      Mask.seatsBefore_free hm, List.drop_take]
  | false =>
    have hordered := (invariant_inBounds.reachable h.reachable).ordered
    rw [if_neg Bool.false_ne_true, h.valueOptions_eq, Mask.seatsBefore_masked hm,
      Mask.seatsBefore_masked hm]
    exact unmaskRange_of_holds (h.takes hm) h.fits.plain.prompt (h.holds hm) hordered

/-- A delete of the selection shows the text in front of it and behind it. -/
theorem deleteRange_selection (hsel : f.selStart < f.selStop) :
    f.engine.mask.deleteRange f.engine.options f.slotText f.selStart (f.selStop - f.selStart)
        .forward =
      ⟨f.engine.focusText (text.take (f.engine.mask.seatsBefore f.selStart) ++
        text.drop (f.engine.mask.seatsBefore f.selStop)), f.selStart, .accepted⟩ := by
  have hb : f.InBounds := invariant_inBounds.reachable h.reachable
  have hspan : deleteSpan (f.engine.mask.lastPosition f.slotText) f.selStart
      (f.selStop - f.selStart) .forward = .ok (f.selStart, f.selStop - f.selStart) :=
    deleteSpan_range hsel hb.selection .forward
  have hthrough : f.selStart + (f.selStop - f.selStart) = f.selStop :=
    Nat.add_sub_cancel' (Nat.le_of_lt hsel)
  cases hm : f.engine.mask.isEmpty with
  | true =>
    rw [Mask.lastPosition_of_isEmpty hm, h.slotText_eq, f.engine.focusText_of_isEmpty hm] at hspan
    unfold Mask.deleteRange deleteFree
    rw [if_pos hm, h.slotText_eq, f.engine.focusText_of_isEmpty hm,
      f.engine.focusText_of_isEmpty hm, hspan, Mask.seatsBefore_free hm, Mask.seatsBefore_free hm]
    simp only [splice, List.append_nil, hthrough]
  | false =>
    rw [Mask.lastPosition_of_not hm] at hspan
    rw [Mask.seatsBefore_masked hm, Mask.seatsBefore_masked hm]
    refine (deleteRange_of_holds hm (h.takes hm) h.fits.plain.prompt (h.holds hm) hspan).trans ?_
    rw [hthrough]
    rfl

/-- **A deleted selection** leaves what stands beside it, and the caret where
    it started. -/
theorem deleteSelection (hsel : f.selStart < f.selStop) :
    (f.delete .forward).1 =
      (f.withDisplay (f.engine.focusText (text.take (f.engine.mask.seatsBefore f.selStart) ++
        text.drop (f.engine.mask.seatsBefore f.selStop)))).caretAt f.selStart := by
  rw [delete_eq, editSpan_of_selected hsel, apply_of_shows f (.inl h.focused),
    h.deleteRange_selection hsel]

/-- **A paste with nothing selected** puts new text between what is shown in
    front of the caret and what is shown behind it. -/
theorem pasteAtCaret (hnone : f.selStop ≤ f.selStart) (new : Text) :
    ∃ k, (f.pasteResync new).1 =
      (f.withDisplay (f.engine.focusText (text.take (f.engine.mask.seatsBefore f.caret) ++ new ++
        text.drop (f.engine.mask.seatsBefore f.caret)))).caretAt k := by
  have hspan := editSpan_of_none hnone
  cases hm : f.engine.mask.isEmpty with
  | true =>
    have hcaret : min f.caret text.length = f.caret := by
      have hle := (invariant_inBounds.reachable h.reachable).caret
      rw [maxPosition, if_pos hm, h.slotText_eq, f.engine.focusText_of_isEmpty hm] at hle
      exact Nat.min_eq_left hle
    refine ⟨f.caret + new.length, ?_⟩
    rw [pasteResync_free f hm, hspan, h.slotText_eq, f.engine.focusText_of_isEmpty hm]
    simp only [hcaret, splice, Nat.add_zero, Mask.seatsBefore_free hm,
      f.engine.focusText_of_isEmpty hm]
  | false =>
    have hfront := pastedFront_of_holds h.valueOptions_eq (h.takes hm) h.fits.plain.prompt
      (h.holds hm) new
    have hbehind := valueBehind_of_holds h.valueOptions_eq (h.takes hm) h.fits.plain.prompt
      (h.holds hm)
    rw [hspan] at hfront hbehind
    rw [f.pasteResync_of_shows hm (.inl h.focused), hfront, hbehind, Mask.seatsBefore_masked hm]
    exact ⟨_, rfl⟩

/-- What is left when the selection is deleted is shown in the same way. -/
theorem afterDelete (hsel : f.selStart < f.selStop) :
    (f.delete .forward).1.ShowsFitting (text.take (f.engine.mask.seatsBefore f.selStart) ++
      text.drop (f.engine.mask.seatsBefore f.selStop)) := by
  have hmono := f.engine.mask.seatsBefore_mono (Nat.le_of_lt hsel)
  have hsub := List.append_subset.mpr
    ⟨List.take_subset (f.engine.mask.seatsBefore f.selStart) text,
      List.drop_subset (f.engine.mask.seatsBefore f.selStop) text⟩
  have hreachable : (f.delete .forward).1.Reachable := h.reachable.step .deleteForward
  rw [h.deleteSelection hsel] at hreachable ⊢
  refine ⟨hreachable, h.focused, h.plainValue, h.fits.of_subset hsub, fun hm => ?_, rfl⟩
  have hroom := h.room hm
  refine Nat.le_trans ?_ hroom
  rw [List.length_append, List.length_take, List.length_drop]
  omega

/-- **A cut gives out what is shown in the selection**, and all but the caret
    and the selection is back when that is pasted right after. -/
theorem paste_cut :
    f.cut.2 = (text.take (f.engine.mask.seatsBefore f.selStop)).drop
      (f.engine.mask.seatsBefore f.selStart) ∧
    ∃ k, (f.cut.1.pasteResync f.cut.2).1 = f.caretAt k := by
  have hshown : f.withDisplay (f.engine.focusText text) = f := by
    rw [← h.display]
    exact withDisplay_display (hidden_of_focused h.reachable h.focused)
  by_cases hsel : f.selStart < f.selStop
  · have hcut : f.cut = ((f.delete .forward).1, f.selected) := if_neg (Nat.not_le_of_lt hsel)
    have hmono := f.engine.mask.seatsBefore_mono (Nat.le_of_lt hsel)
    have hdelete := h.deleteSelection hsel
    have hleft := h.afterDelete hsel
    rw [hcut, h.selected]
    refine ⟨rfl, ?_⟩
    rw [hdelete] at hleft ⊢
    obtain ⟨k, hk⟩ := hleft.pasteAtCaret (Nat.le_refl _) _
    have hback : (f.withDisplay (f.engine.focusText _)).caretAt k = f.caretAt k :=
      (congrArg (fun t => (f.withDisplay (f.engine.focusText t)).caretAt k)
        (take_cut_drop text hmono)).trans (congrArg (Field.caretAt · k) hshown)
    exact ⟨k, hk.trans hback⟩
  · have hnone := Nat.le_of_not_lt hsel
    have hcut : f.cut = (f, []) := if_pos hnone
    have hordered := (invariant_inBounds.reachable h.reachable).ordered
    have hend : f.selStop = f.selStart := Nat.le_antisymm hnone hordered
    rw [hcut, hend, List.drop_take_self]
    refine ⟨rfl, ?_⟩
    obtain ⟨k, hk⟩ := h.pasteAtCaret hnone []
    rw [List.append_nil, List.take_append_drop, hshown] at hk
    exact ⟨k, hk⟩

end ShowsFitting

/-- A field that shows a text which fits anywhere shows as much of it as there
    is room for. -/
theorem exists_showsFitting {f : Field} (hf : f.Reachable) (hfocus : f.focused = true)
    (hkeep : f.engine.config.keepLiterals = false) {text : Text}
    (hfits : FitsAnywhere f.engine.config.prompt f.engine.mask.slots text)
    (hdisplay : f.display = f.engine.focusText text) :
    ∃ n, f.ShowsFitting (text.take n) ∧
      ∀ i, i ≤ f.maxPosition → f.engine.mask.seatsBefore i ≤ n := by
  cases hm : f.engine.mask.isEmpty with
  | true =>
    have hall : text.take text.length = text := List.take_length
    refine ⟨text.length, ⟨hf, hfocus, hkeep, hall.symm ▸ hfits, ?_, hall.symm ▸ hdisplay⟩, ?_⟩
    · intro hm'
      rw [hm] at hm'
      cases hm'
    · intro i hi
      rw [maxPosition, if_pos hm, slotText_of_focused hf hfocus, hdisplay,
        f.engine.focusText_of_isEmpty hm] at hi
      rwa [Mask.seatsBefore_free hm]
  | false =>
    refine ⟨(f.engine.mask.slots.filter Slot.isPlaceholder).length, ⟨hf, hfocus, hkeep,
      hfits.of_subset (List.take_subset _ text), fun _ => List.length_take_le _ _,
      hdisplay.trans (hfits.format_take hm)⟩, fun i _ => ?_⟩
    rw [Mask.seatsBefore_masked hm]
    exact placeholdersBefore_le _ i

section Restored

variable {f : Field} {text : Text} (hf : f.Reachable) (hfocus : f.focused = true)
  (hkeep : f.engine.config.keepLiterals = false)
  (hfits : FitsAnywhere f.engine.config.prompt f.engine.mask.slots text)
  (hdisplay : f.display = f.engine.focusText text)

include hf hfocus hkeep hfits hdisplay

/-- The field's own selection: all but it and the caret is restored. -/
theorem exists_caretAt_pasteResync_cut :
    f.cut.2 = f.engine.mask.shownBetween f.selStart f.selStop text ∧
    ∃ k, (f.cut.1.paste f.cut.2 .resync).1 = f.caretAt k := by
  have hb : f.InBounds := invariant_inBounds.reachable hf
  have hstop : f.engine.mask.isEmpty = false → f.selStop ≤ f.engine.mask.length := fun hm =>
    f.maxPosition_of_not hm ▸ hb.selection
  obtain ⟨n, hshows, hn⟩ := exists_showsFitting hf hfocus hkeep hfits hdisplay
  obtain ⟨hcut, hback⟩ := hshows.paste_cut
  rw [List.take_take, Nat.min_eq_left (hn _ hb.selection)] at hcut
  exact ⟨hcut.trans (Mask.shownBetween_eq hb.ordered hstop text).symm, hback⟩

/-- **Cut and paste restore.** Let a field with focus, its value without
    literals, show a text that fits anywhere in its mask. For every selection,
    the field's own or one made now, a cut gives out the characters of the
    text that are shown in it; and what was cut, pasted right after, gives the
    display and the value back. -/
theorem pasteResync_cut {g : Field} (hg : g = f ∨ ∃ first stop, g = f.select first stop) :
    let back := (g.cut.1.paste g.cut.2 .resync).1
    g.cut.2 = g.engine.mask.shownBetween g.selStart g.selStop text ∧
      back.display = f.display ∧ back.value = f.value := by
  intro back
  rcases hg with rfl | ⟨first, stop, rfl⟩
  · obtain ⟨hcut, k, hback⟩ := exists_caretAt_pasteResync_cut hf hfocus hkeep hfits hdisplay
    have hback : back = g.caretAt k := hback
    rw [hback]
    exact ⟨hcut, rfl, rfl⟩
  · -- a selection changes neither what is shown nor what is hidden
    obtain ⟨hcut, k, hback⟩ := exists_caretAt_pasteResync_cut (f := f.select first stop)
      (hf.step (.select first stop)) hfocus hkeep hfits hdisplay
    have hback : back = (f.select first stop).caretAt k := hback
    rw [hback]
    exact ⟨hcut, rfl, rfl⟩

end Restored

/-- Two digits of a date cut out together with the separator between them,
    and put back; and a selection that is reversed, with nothing to cut. -/
theorem pasteResync_cut_date :
    let f := (ofConfig (Config.ofMask "00/00".toList)).run [.focus, .setValue "1234".toList]
    let g := f.select 1 4
    let back := (g.cut.1.paste g.cut.2 .resync).1
    (f.Reachable ∧ f.focused = true ∧ f.engine.config.keepLiterals = false ∧
      FitsAnywhere f.engine.config.prompt f.engine.mask.slots "1234".toList ∧
      f.display = f.engine.focusText "1234".toList) ∧
    (g.cut.2 = "23".toList ∧ g.cut.1.display = "14/__".toList) ∧
    (back.display = "12/34".toList ∧ back.value = "1234".toList) ∧
    (f.select 9 2).cut.2 = [] := by
  intro f g back
  have hf : f.Reachable := ⟨_, _, rfl⟩
  have hfocus : f.focused = true := by decide +kernel
  have hmask : f.engine.mask = Mask.compile "00/00".toList := by decide +kernel
  have hp : f.engine.config.prompt = '_' := by decide +kernel
  have hkeep : f.engine.config.keepLiterals = false := by decide +kernel
  have hfits : FitsAnywhere f.engine.config.prompt f.engine.mask.slots "1234".toList := by
    rw [hmask, hp]
    decide
  have hdisplay : f.display = f.engine.focusText "1234".toList := by decide +kernel
  have hshown : f.display = "12/34".toList ∧ f.value = "1234".toList := by decide +kernel
  obtain ⟨hcut, hback, hvalue⟩ :=
    pasteResync_cut hf hfocus hkeep hfits hdisplay (.inr ⟨1, 4, rfl⟩)
  obtain ⟨hnone, -, -⟩ := pasteResync_cut hf hfocus hkeep hfits hdisplay (.inr ⟨9, 2, rfl⟩)
  have hrange : g.engine.mask.shownBetween g.selStart g.selStop "1234".toList = "23".toList := by
    decide +kernel
  refine ⟨⟨hf, hfocus, hkeep, hfits, hdisplay⟩, ⟨hcut.trans hrange, by decide +kernel⟩,
    ⟨hback.trans hshown.1, hvalue.trans hshown.2⟩, hnone.trans ?_⟩
  decide +kernel

end Field

end InputMask
