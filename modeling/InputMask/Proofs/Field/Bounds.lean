/-
  File:      InputMask/Proofs/Field/Bounds.lean
  Subject:   The caret and the selection of a field never leave its text.

  * `Field.InBounds` -- the caret and both ends of the selection are
    positions of the field, and the selection is not reversed;
  * `invariant_inBounds` -- every operation keeps them so;
  * **`caret_of_reachable`** -- the bounds in every state, told by the
    display: the width of the mask, or of the text where there is none.
-/
import InputMask.Proofs.Field.Display
namespace InputMask

namespace Field

/-! ## 1. The last position -/

section Positions

variable (f : Field)

theorem maxPosition_of_not (hm : f.engine.mask.isEmpty = false) :
    f.maxPosition = f.engine.mask.length :=
  Mask.lastPosition_of_not hm _

/-- Without a mask a raw text on show is what edits work on. -/
theorem slotText_render (hm : f.engine.mask.isEmpty = true) (raw : Text) :
    (f.render raw).slotText = raw := by
  by_cases h : f.ShowsPrompts
  · rw [f.render_of_shows raw h]
    exact f.engine.focusText_of_isEmpty hm raw
  · rw [f.render_of_not raw h]
    show f.engine.focusText (f.engine.value (f.engine.focusText raw)) = raw
    rw [f.engine.focusText_of_isEmpty hm, f.engine.value_of_isEmpty hm,
      f.engine.focusText_of_isEmpty hm]

/-- Rendering the value of a text leaves as many positions as the text has. -/
theorem maxPosition_render_value (t : Text) :
    (f.render (f.engine.value t)).maxPosition = f.engine.mask.lastPosition t := by
  show (f.render _).engine.mask.lastPosition _ = _
  rw [engine_render]
  cases hm : f.engine.mask.isEmpty with
  | false => rw [Mask.lastPosition_of_not hm, Mask.lastPosition_of_not hm]
  | true => rw [f.slotText_render hm, f.engine.value_of_isEmpty hm]

end Positions

/-! ## 2. Bounds -/

/-- **Caret and selection are in bounds**: positions of the field, and the
    selection ends no sooner than it starts. -/
structure InBounds (f : Field) : Prop where
  caret : f.caret ≤ f.maxPosition
  ordered : f.selStart ≤ f.selStop
  selection : f.selStop ≤ f.maxPosition

section Bounds

variable {f : Field}

/-- A caret that is a position, with nothing selected, is in bounds. -/
theorem inBounds_caretAt {p : Nat} (hp : p ≤ f.maxPosition) : (f.caretAt p).InBounds :=
  ⟨hp, Nat.le_refl p, hp⟩

theorem inBounds_refresh (f : Field) (raw : Text) : (f.refresh raw).InBounds := by
  rw [refresh_eq]
  exact inBounds_caretAt (Nat.min_le_right _ _)

/-- A search for an editable position ends in bounds. -/
theorem inBounds_nextEditable (hm : f.engine.mask.isEmpty = false) (k : Nat) :
    (f.caretAt (f.engine.mask.nextEditable k)).InBounds := by
  apply inBounds_caretAt
  rw [f.maxPosition_of_not hm]
  exact f.engine.mask.nextEditable_le k

/-- **An edit leaves the caret in bounds**, if its caret is a position of
    its text. -/
theorem inBounds_apply {out : Outcome}
    (hout : out.caret ≤ f.engine.mask.lastPosition out.text) : (f.apply out).1.InBounds := by
  rw [apply_eq]
  apply inBounds_caretAt
  split
  · exact hout
  · rw [maxPosition_render_value]
    exact hout

end Bounds

/-- **Every operation keeps caret and selection in bounds.** -/
theorem invariant_inBounds : Invariant InBounds where
  new c := inBounds_refresh _ _
  focus f _ := by
    simp only [focus]
    split
    · exact inBounds_refresh _ _
    · rename_i hm
      exact inBounds_nextEditable (Bool.eq_false_iff.mpr hm) _
  blur f _ := inBounds_refresh _ _
  setValue f raw _ := inBounds_refresh _ _
  setMask f mask _ := inBounds_refresh _ _
  select f first stop _ := ⟨Nat.min_le_right _ _, Nat.min_le_right _ _, Nat.min_le_right _ _⟩
  typeChar f c h := by
    have hcaret := caret_insertChar_le f.engine.mask f.engine.options f.slotText (f.entryPoint c)
      f.editSpan.2 c
    rw [typeChar_eq]
    simp only
    split
    · rename_i hr
      -- refused: the text is as it was, and so is the selection
      rw [Mask.text_of_rejected hr] at hcaret
      exact ⟨hcaret, h.ordered, h.selection⟩
    · exact inBounds_apply hcaret
  delete f side _ := by
    rw [delete_eq]
    exact inBounds_apply (caret_deleteRange_le _ _ _ _ _ _)
  moveLeft f h := by
    apply inBounds_caretAt
    split
    · exact Nat.le_trans (Nat.sub_le _ _) h.caret
    · cases hp : f.engine.mask.prevEditable f.caret with
      | none => exact h.caret
      | some i => exact Nat.le_trans (Nat.le_of_lt (f.engine.mask.prevEditable_lt hp)) h.caret
  moveRight f _ := by
    unfold moveRight
    split
    · exact inBounds_caretAt (Nat.min_le_right _ _)
    · rename_i hm
      exact inBounds_nextEditable (Bool.eq_false_iff.mpr hm) _
  moveHome f _ := by
    unfold moveHome
    split
    · exact inBounds_caretAt (Nat.zero_le _)
    · rename_i hm
      exact inBounds_nextEditable (Bool.eq_false_iff.mpr hm) _
  moveEnd f _ := by
    unfold moveEnd
    split
    · exact inBounds_caretAt (Nat.le_refl _)
    · rename_i hm
      exact inBounds_nextEditable (Bool.eq_false_iff.mpr hm) _
  pasteResync f text _ := by
    cases hm : f.engine.mask.isEmpty with
    | true =>
      rw [pasteResync_free f hm]
      apply inBounds_caretAt
      show _ ≤ f.engine.mask.lastPosition _
      rw [Mask.lastPosition_of_isEmpty hm]
      exact length_splice _ _ _ _ (Nat.min_le_right _ _)
    | false =>
      obtain ⟨raw, n, heq⟩ := pasteResync_masked f hm text
      rw [heq]
      apply inBounds_caretAt
      have he : (f.refresh raw).engine = f.engine := f.engine_refresh raw
      rw [maxPosition_of_not _ (he ▸ hm), he]
      exact placeholderAt_le_length n f.engine.mask.slots

/-! ## 3. The bounds in every state -/

/-- **Caret and selection in every state.** The caret and the end of the
    selection are no further than the last position of the display, which
    is the number of slots of the mask, or of characters on show where the
    mask has none; and the selection starts no later than it ends. -/
theorem caret_of_reachable {f : Field} (hf : f.Reachable) :
    let last := f.engine.mask.lastPosition f.display
    f.caret ≤ last ∧ f.selStart ≤ f.selStop ∧ f.selStop ≤ last := by
  intro last
  have hlast : f.maxPosition = last := by
    show f.engine.mask.lastPosition _ = f.engine.mask.lastPosition _
    cases hm : f.engine.mask.isEmpty with
    | false => rw [Mask.lastPosition_of_not hm, Mask.lastPosition_of_not hm]
    | true => rw [(invariant_paired.reachable hf).free hm]
  have h : f.InBounds := invariant_inBounds.reachable hf
  rw [← hlast]
  exact ⟨h.caret, h.ordered, h.selection⟩

/-- A selection that is reversed and reaches behind the text, and a mask
    that comes after it. -/
theorem caret_of_reachable_reversed :
    let f := (ofConfig Config.standard).run [.setValue "abc".toList, .select 9 1, .select 2 9]
    let g := f.run [.setMask "L".toList]
    (f.Reachable ∧ f.engine.mask.isEmpty = true ∧ f.caret = 3 ∧ f.selStart = 2) ∧
    (g.Reachable ∧ g.engine.mask.isEmpty = false) ∧
    f.selStop ≤ f.display.length ∧ g.caret ≤ 1 ∧ g.selStart ≤ g.selStop := by
  intro f g
  have hf : f.Reachable := ⟨_, _, rfl⟩
  have hg : g.Reachable := ⟨_, [.setValue "abc".toList, .select 9 1, .select 2 9,
    .setMask "L".toList], rfl⟩
  have hfm : f.engine.mask.isEmpty = true := by decide +kernel
  have hgm : g.engine.mask.isEmpty = false := by decide +kernel
  obtain ⟨-, -, hstop⟩ := caret_of_reachable hf
  obtain ⟨hcaret, hordered, -⟩ := caret_of_reachable hg
  rw [Mask.lastPosition_of_isEmpty hfm] at hstop
  rw [Mask.lastPosition_of_not hgm] at hcaret
  have hlen : g.engine.mask.length = 1 := by decide +kernel
  exact ⟨⟨hf, hfm, by decide +kernel⟩, ⟨hg, hgm⟩, hstop, hlen ▸ hcaret, hordered⟩

end Field

end InputMask
