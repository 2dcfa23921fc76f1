/-
  File:      InputMask/Proofs/Field/HiddenEdit.lean
  Subject:   Edits of a field that hides its prompts.

  Without focus such a field has no display with a place for every slot. An
  edit works on the one that its value has with focus, and what comes of it is
  hidden again. This is what giving focus and taking it away do around an
  edit, only that they show the display in between.

  * `Paired.slotText_eq` -- the display that an edit works on;
  * `focus_of_hidden` -- focus shows that display, and leaves a caret that is
    on no literal;
  * `apply_shown` -- an edited display shown and hidden again;
  * **`run_focus_edit_blur`** -- an edit that is not refused is the same edit
    with focus.
-/
import InputMask.Proofs.Field.Refusal
import InputMask.Proofs.Format.Filled
namespace InputMask

namespace Field

variable {f : Field}

/-! ## 1. Focus for an edit -/

/-- **The display that edits of a hidden value work on** is the one that the
    value has with focus. -/
theorem Paired.slotText_eq (h : f.Paired) (hs : ¬f.ShowsPrompts) :
    f.slotText = f.engine.focusText f.value := by
  cases hh : f.hidden with
  | some v => simp only [slotText, value, hh, Option.getD_some]
  | none =>
    cases hm : f.engine.mask.isEmpty with
    | true =>
      simp only [slotText, value, hh, Option.getD_none, f.engine.value_of_isEmpty hm,
        f.engine.focusText_of_isEmpty hm]
    | false =>
      obtain ⟨t, ht, -⟩ := h.concealed hm hs
      rw [hh] at ht
      cases ht

/-- The field with focus and a display with a place for every slot. -/
def shown (f : Field) : Field :=
  ({ f with focused := true }.withDisplay f.slotText).caretAt f.caret

/-- **Focus shows the display that edits work on**, and leaves a caret that is
    on no literal. -/
theorem focus_of_hidden (hf : f.Reachable) (hs : ¬f.ShowsPrompts) (ho : f.OffLiterals) :
    f.focus = f.shown := by
  have htext := (invariant_paired.reachable hf).slotText_eq hs
  have hcaret : f.caret ≤ f.maxPosition := (invariant_inBounds.reachable hf).caret
  have hrefresh : { f with focused := true }.refresh f.value = f.shown := by
    rw [refresh_eq, render_of_shows _ _ (.inl rfl)]
    show ({ f with focused := true }.withDisplay (f.engine.focusText f.value)).caretAt
      (min f.caret (f.engine.mask.lastPosition (f.engine.focusText f.value))) = _
    rw [← htext]
    exact congrArg (Field.caretAt _) (Nat.min_eq_left hcaret)
  unfold focus
  simp only [hrefresh]
  split
  · rfl
  · rename_i hm
    have hm : f.engine.mask.isEmpty = false := Bool.eq_false_iff.mpr hm
    rw [f.maxPosition_of_not hm] at hcaret
    exact congrArg (Field.caretAt _) (f.engine.mask.nextEditable_eq_self hcaret ho)

/-- What a raw text on show looks like depends on engine and focus alone. -/
theorem caretAt_render_congr {g h : Field} (he : g.engine = h.engine)
    (hf : g.focused = h.focused) (raw : Text) (p : Nat) :
    (g.render raw).caretAt p = (h.render raw).caretAt p := by
  have hiff : g.ShowsPrompts ↔ h.ShowsPrompts := by
    unfold ShowsPrompts
    rw [he, hf]
  by_cases hs : h.ShowsPrompts
  · rw [render_of_shows h raw hs, render_of_shows g raw (hiff.mpr hs)]
    simp only [withDisplay, caretAt, he, hf]
  · rw [render_of_not h raw hs, render_of_not g raw (mt hiff.mp hs)]
    simp only [caretAt, he, hf]

/-- Where the value of a text is shown anew, a caret that is one of the text's
    positions stays. -/
theorem refresh_value {g : Field} (he : g.engine = f.engine) (hf : g.focused = f.focused)
    {t : Text} (hcaret : g.caret ≤ f.engine.mask.lastPosition t) :
    g.refresh (f.engine.value t) = (f.render (f.engine.value t)).caretAt g.caret := by
  have hmax : (g.render (f.engine.value t)).maxPosition = f.engine.mask.lastPosition t := by
    rw [← he]
    exact maxPosition_render_value g t
  rw [refresh_eq, hmax, Nat.min_eq_left hcaret]
  exact caretAt_render_congr he hf _ _

/-- **An edited display shown and hidden again** is hidden as the edit
    without focus hides it. -/
theorem apply_shown (hs : ¬f.ShowsPrompts) {out : Outcome}
    (hout : out.caret ≤ f.engine.mask.lastPosition out.text) :
    (f.shown.apply out).2 = (f.apply out).2 ∧ (f.shown.apply out).1.blur = (f.apply out).1 := by
  have hfocused : f.focused = false := Bool.eq_false_iff.mpr fun h => hs (.inl h)
  refine ⟨(status_apply _ _).trans (status_apply _ _).symm, ?_⟩
  rw [apply_of_shows f.shown (.inl rfl), apply_eq, if_neg hs]
  exact refresh_value (f := f)
    (g := { (f.shown.withDisplay out.text).caretAt out.caret with focused := false })
    rfl hfocused.symm hout

/-! ## 2. Edits with and without focus -/

theorem offLiterals_of_placeholder (h : PlaceholderSlot f.engine.mask.slots f.caret) :
    f.OffLiterals := by
  intro s hs
  unfold PlaceholderSlot at h
  rwa [hs] at h

theorem offLiterals_of_end (h : f.caret = f.engine.mask.length) : f.OffLiterals := by
  intro s hs
  exact absurd h (Nat.ne_of_lt (List.getElem?_eq_some_iff.mp hs).1)

/-- Off the literals a character is refused where it is tried, at the caret. -/
theorem status_insertChar_of_typeChar (hnone : f.selStop ≤ f.selStart) (ho : f.OffLiterals)
    {c : Char} (h : (f.typeChar c).2 ≠ .rejected) :
    (f.engine.mask.insertChar f.engine.options f.slotText f.caret 0 c).status ≠ .rejected := by
  intro hout
  rw [typeChar_eq, entryPoint_of_offLiterals hnone ho, editSpan_of_none hnone] at h
  exact h (congrArg Prod.snd (if_pos hout))

/-- **An edit of hidden prompts is an edit with focus.** In every state
    without focus that hides its prompts, with nothing selected and the caret
    on a placeholder, at the end of the mask or, without a mask, anywhere: an
    edit that is not refused answers and leaves just what it does when the
    field is given focus for it. -/
theorem run_focus_edit_blur (hf : f.Reachable) (hfocus : f.focused = false)
    (hhide : f.engine.config.hidePrompt = true) (hnone : f.selStop ≤ f.selStart)
    (hcaret : f.engine.mask.isEmpty = false →
      PlaceholderSlot f.engine.mask.slots f.caret ∨ f.caret = f.engine.mask.length)
    {a : Action} (ha : (∃ c, a = .typeChar c) ∨ a = .backspace ∨ a = .deleteForward)
    (h : ¬f.Refuses a) :
    (f.focus.step a).2 = (f.step a).2 ∧ f.run [.focus, a, .blur] = (f.step a).1 := by
  have hs : ¬f.ShowsPrompts := by simp [ShowsPrompts, hfocus, hhide]
  have ho : f.OffLiterals := by
    cases hm : f.engine.mask.isEmpty with
    | true => exact offLiterals_of_isEmpty hm
    | false => exact (hcaret hm).elim offLiterals_of_placeholder offLiterals_of_end
  show (f.focus.step a).2 = _ ∧ (f.focus.step a).1.blur = _
  rw [focus_of_hidden hf hs ho]
  -- with focus the same edit works on the same display at the same caret
  have hnone' : f.shown.selStop ≤ f.shown.selStart := Nat.le_refl _
  have hdelete : ∀ side, (f.shown.delete side).2 = (f.delete side).2 ∧
      (f.shown.delete side).1.blur = (f.delete side).1 := fun side => by
    rw [delete_of_none hnone, delete_of_none hnone']
    exact apply_shown hs (caret_deleteRange_le _ _ _ _ _ _)
  rcases ha with ⟨c, rfl⟩ | rfl | rfl
  · have hout := status_insertChar_of_typeChar hnone ho fun hc => h (congrArg Answer.status hc)
    have htyped := apply_shown hs (caret_insertChar_le f.engine.mask f.engine.options f.slotText
      f.caret 0 c)
    show Answer.status (f.shown.typeChar c).2 = .status (f.typeChar c).2 ∧
      (f.shown.typeChar c).1.blur = (f.typeChar c).1
    rw [typeChar_of_offLiterals hnone ho hout,
      typeChar_of_offLiterals (f := f.shown) hnone' ho hout]
    exact ⟨congrArg Answer.status htyped.1, htyped.2⟩
  · exact ⟨congrArg Answer.status (hdelete .backward).1, (hdelete .backward).2⟩
  · exact ⟨congrArg Answer.status (hdelete .forward).1, (hdelete .forward).2⟩

/-- A letter typed in front of a digit that the display of its own value has
    no place for: with and without focus the letter alone is left. -/
theorem run_focus_edit_blur_gap :
    let f := (ofConfig ⟨"L/0".toList, '_', true, false⟩).run [.setValue "/5".toList, .select 0 0]
    let g := (f.step (.typeChar 'a')).1
    (f.Reachable ∧ f.focused = false ∧ f.engine.config.hidePrompt = true ∧
      f.selStop ≤ f.selStart ∧ PlaceholderSlot f.engine.mask.slots f.caret ∧
      ¬f.Refuses (.typeChar 'a')) ∧
    (f.value = "5".toList ∧ f.engine.focusText f.value = "_/_".toList) ∧
    (g.value = "a".toList ∧ g.display = "a/".toList ∧ g.caret = 2) ∧
    f.run [.focus, .typeChar 'a', .blur] = g := by
  intro f g
  have hf : f.Reachable := ⟨_, _, rfl⟩
  have hstate : f.focused = false ∧ f.engine.config.hidePrompt = true ∧ f.selStop ≤ f.selStart := by
    decide +kernel
  have hcaret : PlaceholderSlot f.engine.mask.slots f.caret := by decide +kernel
  have htaken : ¬f.Refuses (.typeChar 'a') := by decide +kernel
  have hvalue : f.value = "5".toList ∧ f.engine.focusText f.value = "_/_".toList := by
    decide +kernel
  have hg : g.value = "a".toList ∧ g.display = "a/".toList ∧ g.caret = 2 := by decide +kernel
  obtain ⟨-, hrun⟩ := run_focus_edit_blur hf hstate.1 hstate.2.1 hstate.2.2 (fun _ => .inl hcaret)
    (.inl ⟨'a', rfl⟩) htaken
  exact ⟨⟨hf, hstate.1, hstate.2.1, hstate.2.2, hcaret, htaken⟩, hvalue, hg, hrun⟩

/-- A refused key leaves that digit alone, and the focus change around it does
    not. -/
example :
    let f := (ofConfig ⟨"L/0".toList, '_', true, false⟩).run [.setValue "/5".toList, .select 0 0]
    f.Refuses (.typeChar '7') ∧ (f.step (.typeChar '7')).1.value = "5".toList ∧
      (f.run [.focus, .typeChar '7', .blur]).value = [] := by
  decide +kernel

end Field

end InputMask
