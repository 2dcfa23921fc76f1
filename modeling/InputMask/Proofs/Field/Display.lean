/-
  File:      InputMask/Proofs/Field/Display.lean
  Subject:   What a field shows and which value it holds, in every state.

  * `Field.Paired` -- display and hidden value go together: the text that
    edits work on is a trimmed full display, a field that shows its
    prompts hides no value, and one that hides them shows its value
    rendered without prompts;
  * `invariant_paired` -- every operation keeps them together;
  * **`display_of_reachable`** -- what this says of the display and of
    the value of every state.
-/
import InputMask.Proofs.Caret.Edit
import InputMask.Proofs.Field.Operation
import InputMask.Proofs.Field.Value
namespace InputMask

namespace Field

/-! ## 1. Display and hidden value -/

/-- **Display and hidden value go together.** Under a mask the slot text is
    a trimmed full display (`trimmed`), shown as it is with nothing hidden
    (`shown`), or hidden as the value of a display and shown without its
    prompts (`concealed`). Without a mask the slot text is what is shown. -/
structure Paired (f : Field) : Prop where
  trimmed : f.engine.mask.isEmpty = false →
    TrimmedDisplay f.engine.config.prompt f.engine.mask.slots f.slotText
  shown : f.engine.mask.isEmpty = false → f.ShowsPrompts → f.hidden = none
  concealed : f.engine.mask.isEmpty = false → ¬f.ShowsPrompts →
    ∃ t, f.hidden = some (f.engine.value t) ∧ f.display = f.engine.blurText (f.engine.value t)
  free : f.engine.mask.isEmpty = true → f.slotText = f.display

section Paired

variable {f : Field}

/-- Where the caret stands does not matter. -/
theorem Paired.congr {g : Field} (h : f.Paired) (he : g.engine = f.engine)
    (hd : g.display = f.display) (hh : g.hidden = f.hidden) (hf : g.focused = f.focused) :
    g.Paired := by
  obtain ⟨e, display, caret, first, stop, focused, hidden⟩ := g
  obtain rfl : e = f.engine := he
  obtain rfl : display = f.display := hd
  obtain rfl : focused = f.focused := hf
  obtain rfl : hidden = f.hidden := hh
  exact ⟨h.trimmed, h.shown, h.concealed, h.free⟩

theorem Paired.caretAt (h : f.Paired) (p : Nat) : (f.caretAt p).Paired :=
  h.congr rfl rfl rfl rfl

/-- A display that is the field's own is paired where prompts are shown. -/
theorem paired_withDisplay {t : Text} (hs : f.engine.mask.isEmpty = false → f.ShowsPrompts)
    (ht : f.engine.mask.isEmpty = false →
      TrimmedDisplay f.engine.config.prompt f.engine.mask.slots t) :
    (f.withDisplay t).Paired where
  trimmed := ht
  shown _ _ := rfl
  concealed hm hns := absurd (hs hm) hns
  free _ := rfl

/-- **A raw text on show pairs display and hidden value**, whatever they
    were before. -/
theorem paired_render (f : Field) (raw : Text) : (f.render raw).Paired := by
  by_cases h : f.ShowsPrompts
  · rw [f.render_of_shows raw h]
    exact paired_withDisplay (fun _ => h) fun hm => trimmedDisplay_format hm raw
  · rw [f.render_of_not raw h]
    refine ⟨fun hm => trimmedDisplay_format hm _, fun _ hs => absurd hs h, fun _ _ => ⟨_, rfl, rfl⟩,
      fun hm => ?_⟩
    show f.engine.focusText _ = f.engine.blurText _
    rw [f.engine.focusText_of_isEmpty hm, f.engine.blurText_of_isEmpty hm]

theorem paired_refresh (f : Field) (raw : Text) : (f.refresh raw).Paired := by
  rw [refresh_eq]
  exact (f.paired_render raw).caretAt _

/-- **An edit keeps the pair**, if the edited display is a trimmed one. -/
theorem paired_apply {out : Outcome}
    (ht : f.engine.mask.isEmpty = false →
      TrimmedDisplay f.engine.config.prompt f.engine.mask.slots out.text) :
    (f.apply out).1.Paired := by
  rw [apply_eq]
  apply Paired.caretAt
  split
  · rename_i h
    exact paired_withDisplay (fun _ => h) ht
  · exact f.paired_render _

end Paired

/-! ## 2. Every operation keeps the pair -/

theorem invariant_paired : Invariant Paired where
  new c := paired_refresh _ _
  focus f _ := by
    unfold focus
    simp only
    split
    · exact paired_refresh _ _
    · exact (paired_refresh _ _).caretAt _
  blur f _ := paired_refresh _ _
  setValue f raw _ := paired_refresh _ _
  setMask f mask _ := paired_refresh _ _
  select f first stop h := h.congr rfl rfl rfl rfl
  typeChar f c h := by
    rw [typeChar_eq]
    simp only
    split
    · exact h.congr rfl rfl rfl rfl
    · exact paired_apply fun hm => trimmedDisplay_insertChar hm (h.trimmed hm) _ _ _ _
  delete f side h := by
    rw [delete_eq]
    exact paired_apply fun hm => trimmedDisplay_deleteRange hm (h.trimmed hm) _ _ _
  moveLeft f h := h.caretAt _
  moveRight f h := h.caretAt _
  moveHome f h := h.caretAt _
  moveEnd f h := h.caretAt _
  pasteResync f text h := by
    cases hm : f.engine.mask.isEmpty with
    | true =>
      rw [pasteResync_free f hm]
      refine Paired.caretAt (paired_withDisplay ?_ ?_) _ <;> simp [hm]
    | false =>
      obtain ⟨raw, n, heq⟩ := pasteResync_masked f hm text
      rw [heq]
      exact (paired_refresh _ _).caretAt _

/-! ## 3. Display and value of every state -/

section Reachable

variable {f : Field}

/-- Under a mask the value of a paired field is the value of a display. -/
theorem Paired.exists_value (h : f.Paired) (hm : f.engine.mask.isEmpty = false) :
    ∃ t, f.value = f.engine.value t := by
  by_cases hs : f.ShowsPrompts
  · refine ⟨f.display, ?_⟩
    unfold value
    rw [h.shown hm hs]
    rfl
  · obtain ⟨t, ht, -⟩ := h.concealed hm hs
    refine ⟨t, ?_⟩
    unfold value
    rw [ht]
    rfl

/-- **Display and value of every state.** Let the mask have slots. A field
    that shows its prompts shows a full display without its blank end: the
    literals in their places, and in each placeholder the prompt or a
    character it takes. A field that hides them shows its value rendered
    without prompts. No display is longer than the mask, and no value has
    the prompt or, where literals are dropped, more characters than there
    are placeholders. -/
theorem display_of_reachable (hf : f.Reachable) (hm : f.engine.mask.isEmpty = false) :
    let p := f.engine.config.prompt
    (f.ShowsPrompts → TrimmedDisplay p f.engine.mask.slots f.display) ∧
    (¬f.ShowsPrompts → f.display = f.engine.blurText f.value) ∧
    f.display.length ≤ f.engine.mask.length ∧
    p ∉ f.value ∧
    (f.engine.config.keepLiterals = false →
      f.value.length ≤ f.engine.mask.placeholderCount) := by
  intro p
  have h : f.Paired := invariant_paired.reachable hf
  have hshown : f.ShowsPrompts → TrimmedDisplay p f.engine.mask.slots f.display := by
    intro hs
    have ht := h.trimmed hm
    unfold slotText at ht
    rwa [h.shown hm hs] at ht
  have hconcealed : ¬f.ShowsPrompts → f.display = f.engine.blurText f.value := by
    intro hs
    obtain ⟨t, ht, hd⟩ := h.concealed hm hs
    unfold value
    rw [ht]
    exact hd
  obtain ⟨t, ht⟩ := h.exists_value hm
  refine ⟨hshown, hconcealed, ?_, ?_, ?_⟩
  · by_cases hs : f.ShowsPrompts
    · exact (hshown hs).length_le
    · rw [hconcealed hs]
      exact f.engine.length_blurText_le hm _
  · rw [ht]
    exact f.engine.prompt_not_mem_value hm t
  · intro hk
    rw [ht]
    exact f.engine.length_value_le hm hk t

/-- A number plate with a gap, left by the focus: the gap closes and no
    prompt shows. -/
theorem display_of_reachable_plate :
    let f := (ofConfig ⟨">L-00".toList, '_', true, false⟩).run
      [.focus, .typeChar 'b', .select 3 3, .typeChar '7', .blur]
    (f.Reachable ∧ f.engine.mask.isEmpty = false ∧ ¬f.ShowsPrompts) ∧
    f.value = "B7".toList ∧ f.engine.blurText "B7".toList = "B-7".toList ∧
    f.display = "B-7".toList ∧ '_' ∉ f.value ∧ f.value.length ≤ f.engine.mask.placeholderCount := by
  intro f
  have hf : f.Reachable := ⟨_, _, rfl⟩
  have hm : f.engine.mask.isEmpty = false := by decide +kernel
  have hs : ¬f.ShowsPrompts := by decide +kernel
  have hv : f.value = "B7".toList := by decide +kernel
  have hb : f.engine.blurText "B7".toList = "B-7".toList := by decide +kernel
  obtain ⟨-, hconcealed, -, hp, hlen⟩ := display_of_reachable hf hm
  exact ⟨⟨hf, hm, hs⟩, hv, hb, by rw [hconcealed hs, hv, hb], hp, hlen (by decide +kernel)⟩

end Reachable

end Field

end InputMask
