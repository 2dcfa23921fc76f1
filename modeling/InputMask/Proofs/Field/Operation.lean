/-
  File:      InputMask/Proofs/Field/Operation.lean
  Subject:   What each operation of a field does, and how a property is
             shown of all states.

  Every operation moves the caret, shows a raw text anew (`refresh`) or
  shows an edited display (`apply`). The equations below say which, so
  that later proofs need not open an operation. With them a property of
  all states that a field comes to is shown operation by operation:

  * `Field.Invariant` -- a property of new fields that the operations
    keep; cutting and replaying a paste only delete and type, so nothing
    is to be shown of them;
  * **`Invariant.reachable`** -- every state that a new field comes to
    has the property.
-/
import InputMask.Field
namespace InputMask

namespace Field

/-! ## 1. Shown and hidden prompts -/

/-- The field shows its prompts: it has focus or does not hide them. -/
def ShowsPrompts (f : Field) : Prop :=
  f.focused = true ∨ f.engine.config.hidePrompt = false

instance (f : Field) : Decidable f.ShowsPrompts :=
  inferInstanceAs (Decidable (_ ∨ _))

/-- The field with a display that is its own, nothing hidden. -/
def withDisplay (f : Field) (t : Text) : Field := { f with display := t, hidden := none }

/-- The field with a raw text on show, its caret left where it is. -/
def render (f : Field) (raw : Text) : Field :=
  if f.ShowsPrompts then f.withDisplay (f.engine.focusText raw)
  else
    let value := f.engine.value (f.engine.focusText raw)
    { f with display := f.engine.blurText value, hidden := some value }

section Render

variable (f : Field) (raw : Text)

theorem refresh_eq :
    f.refresh raw = (f.render raw).caretAt (min f.caret (f.render raw).maxPosition) := by
  have hcond : (f.focused || !f.engine.config.hidePrompt) = true ↔ f.ShowsPrompts := by
    simp [ShowsPrompts]
  unfold refresh render
  by_cases h : f.ShowsPrompts
  · rw [if_pos h, if_pos (hcond.mpr h)]
    rfl
  · rw [if_neg h, if_neg (mt hcond.mp h)]

theorem render_of_shows (h : f.ShowsPrompts) :
    f.render raw = f.withDisplay (f.engine.focusText raw) :=
  if_pos h

theorem render_of_not (h : ¬f.ShowsPrompts) :
    f.render raw =
      { f with
        display := f.engine.blurText (f.engine.value (f.engine.focusText raw))
        hidden := some (f.engine.value (f.engine.focusText raw)) } :=
  if_neg h

/-- What was on display before does not matter. -/
theorem render_withDisplay (t : Text) : (f.withDisplay t).render raw = f.render raw := by
  by_cases h : f.ShowsPrompts
  · rw [render_of_shows f raw h]
    exact render_of_shows (f.withDisplay t) raw h
  · rw [render_of_not f raw h]
    exact render_of_not (f.withDisplay t) raw h

@[simp] theorem engine_render : (f.render raw).engine = f.engine := by
  unfold render
  split <;> rfl

/-- **The value of a raw text on show** is what its display holds, whether
    the prompts are hidden or not. -/
theorem value_render : (f.render raw).value = f.engine.value (f.engine.focusText raw) := by
  unfold render
  split <;> rfl

@[simp] theorem engine_refresh : (f.refresh raw).engine = f.engine := by
  rw [refresh_eq]
  exact f.engine_render raw

theorem focused_render : (f.render raw).focused = f.focused := by
  unfold render
  split <;> rfl

theorem focused_refresh : (f.refresh raw).focused = f.focused := by
  rw [refresh_eq]
  exact f.focused_render raw

theorem value_refresh : (f.refresh raw).value = f.engine.value (f.engine.focusText raw) := by
  rw [refresh_eq]
  exact f.value_render raw

end Render

/-! ## 2. Edits -/

section Edits

variable (f : Field)

/-- An edited display takes the place of the old one; where prompts are
    hidden its value is rendered. -/
theorem apply_eq (out : Outcome) :
    f.apply out =
      ((if f.ShowsPrompts then f.withDisplay out.text
        else f.render (f.engine.value out.text)).caretAt out.caret, out.status) := by
  have hcond : (!f.focused && f.engine.config.hidePrompt) = true ↔ ¬f.ShowsPrompts := by
    simp [ShowsPrompts]
  simp only [apply]
  by_cases h : f.ShowsPrompts
  · rw [if_pos h, if_neg (fun hc => hcond.mp hc h)]
    rfl
  · rw [if_neg h, if_pos (hcond.mpr h)]
    show (((f.withDisplay out.text).refresh (f.engine.value out.text)).caretAt _, _) = _
    rw [refresh_eq, render_withDisplay]
    rfl

/-- Where prompts are shown the edited display stands as it is. -/
theorem apply_of_shows (h : f.ShowsPrompts) (out : Outcome) :
    f.apply out = ((f.withDisplay out.text).caretAt out.caret, out.status) := by
  rw [apply_eq, if_pos h]

/-- Where a typed character goes: to the start of the selection, or to
    the caret, moved on from a literal that is another character. -/
def entryPoint (f : Field) (c : Char) : Nat :=
  let m := f.engine.mask
  let (p, count) := f.editSpan
  let onOther : Bool := match m.slots[p]? with
    | some s => match s.literal? with
      | some l => l != c
      | none => false
    | none => false
  if count = 0 ∧ onOther then m.nextEditable p else p

/-- A typed character is an insert; a refused one only moves the caret. -/
theorem typeChar_eq (c : Char) :
    f.typeChar c =
      let out := f.engine.mask.insertChar f.engine.options f.slotText (f.entryPoint c)
        f.editSpan.2 c
      if out.status = .rejected then ({ f with caret := out.caret }, .rejected)
      else f.apply out :=
  rfl

theorem delete_eq (side : Side) :
    f.delete side =
      f.apply (f.engine.mask.deleteRange f.engine.options f.slotText f.editSpan.1
        f.editSpan.2 side) :=
  rfl

/-- Without a mask pasted text is spliced into the display. -/
theorem pasteResync_free (hm : f.engine.mask.isEmpty = true) (text : Text) :
    (f.pasteResync text).1 =
      let p := min f.editSpan.1 f.slotText.length
      (f.withDisplay (splice f.slotText p f.editSpan.2 text)).caretAt (p + text.length) := by
  simp only [pasteResync, hm, if_true]
  rfl

/-- The value in front of an edit, and a pasted text behind it. -/
def pastedFront (f : Field) (text : Text) : Text :=
  f.engine.mask.unmaskRange f.engine.config.valueOptions f.slotText 0 f.editSpan.1 ++ text

/-- The value behind an edit. -/
def valueBehind (f : Field) : Text :=
  f.engine.mask.unmaskRange f.engine.config.valueOptions f.slotText
    (min (f.editSpan.1 + f.editSpan.2) f.engine.mask.length) f.engine.mask.length

/-- **Under a mask pasted text is put into the value**, which is shown anew;
    the caret goes to the placeholder whose number is the count of characters
    read from the display of the front. -/
theorem pasteResync_eq (hm : f.engine.mask.isEmpty = false) (text : Text) :
    f.pasteResync text =
      ((f.refresh (f.pastedFront text ++ f.valueBehind)).caretAt
        (placeholderAt (f.engine.mask.unmask ⟨some f.engine.config.prompt, false, false⟩
          (f.engine.focusText (f.pastedFront text))).length f.engine.mask.slots), .accepted) := by
  simp only [pasteResync, hm, Bool.false_eq_true, if_false]
  rfl

/-- Whatever the text, the caret goes to a placeholder or to the end. -/
theorem pasteResync_masked (hm : f.engine.mask.isEmpty = false) (text : Text) :
    ∃ raw n, (f.pasteResync text).1 =
      (f.refresh raw).caretAt (placeholderAt n f.engine.mask.slots) := by
  rw [f.pasteResync_eq hm]
  exact ⟨_, _, rfl⟩

/-- Where prompts are shown the value is formatted as it is. -/
theorem pasteResync_of_shows (hm : f.engine.mask.isEmpty = false) (h : f.ShowsPrompts)
    (text : Text) :
    f.pasteResync text =
      ((f.withDisplay (f.engine.focusText (f.pastedFront text ++ f.valueBehind))).caretAt
        (placeholderAt (f.engine.mask.unmask ⟨some f.engine.config.prompt, false, false⟩
          (f.engine.focusText (f.pastedFront text))).length f.engine.mask.slots), .accepted) := by
  rw [f.pasteResync_eq hm, refresh_eq, f.render_of_shows _ h]
  rfl

end Edits

/-! ## 3. Properties of all states -/

/-- **A property that new fields have and every operation keeps.** -/
structure Invariant (P : Field → Prop) : Prop where
  new : ∀ c, P (ofConfig c)
  focus : ∀ f, P f → P f.focus
  blur : ∀ f, P f → P f.blur
  setValue : ∀ f raw, P f → P (f.setValue raw)
  setMask : ∀ f mask, P f → P (f.setMask mask)
  select : ∀ f first stop, P f → P (f.select first stop)
  typeChar : ∀ f c, P f → P (f.typeChar c).1
  delete : ∀ f side, P f → P (f.delete side).1
  moveLeft : ∀ f, P f → P f.moveLeft
  moveRight : ∀ f, P f → P f.moveRight
  moveHome : ∀ f, P f → P f.moveHome
  moveEnd : ∀ f, P f → P f.moveEnd
  pasteResync : ∀ f text, P f → P (f.pasteResync text).1

namespace Invariant

variable {P : Field → Prop} {f : Field}

theorem typeAll (h : Invariant P) (hf : P f) (status : Status) (text : Text) :
    P (f.typeAll status text).1 := by
  induction text generalizing f status with
  | nil => exact hf
  | cons c text ih => exact ih (h.typeChar f c hf) _

theorem cut (h : Invariant P) (hf : P f) : P f.cut.1 := by
  unfold Field.cut
  split
  · exact hf
  · exact h.delete f .forward hf

theorem pasteReplay (h : Invariant P) (hf : P f) (text : Text) : P (f.pasteReplay text).1 := by
  unfold Field.pasteReplay
  split
  · exact h.typeAll hf _ text
  · exact h.typeAll (h.delete f .forward hf) _ text

/-- **Every action keeps the property.** -/
theorem step (h : Invariant P) (hf : P f) (a : Action) : P (f.step a).1 := by
  cases a with
  | focus => exact h.focus f hf
  | blur => exact h.blur f hf
  | setValue raw => exact h.setValue f raw hf
  | setMask mask => exact h.setMask f mask hf
  | select first stop => exact h.select f first stop hf
  | typeChar c => exact h.typeChar f c hf
  | backspace => exact h.delete f .backward hf
  | deleteForward => exact h.delete f .forward hf
  | moveLeft => exact h.moveLeft f hf
  | moveRight => exact h.moveRight f hf
  | moveHome => exact h.moveHome f hf
  | moveEnd => exact h.moveEnd f hf
  | cut => exact h.cut hf
  | paste text mode =>
    cases mode with
    | replay => exact h.pasteReplay hf text
    | resync => exact h.pasteResync f text hf

theorem run (h : Invariant P) (hf : P f) (actions : List Action) : P (f.run actions) := by
  induction actions generalizing f with
  | nil => exact hf
  | cons a rest ih => exact ih (h.step hf a)

/-- **Every state that a new field comes to has the property.** -/
theorem reachable (h : Invariant P) (hf : f.Reachable) : P f := by
  obtain ⟨c, actions, rfl⟩ := hf
  exact h.run (h.new c) actions

end Invariant

/-- One more action is a step from where the others lead. -/
theorem run_concat (f : Field) (actions : List Action) (a : Action) :
    f.run (actions ++ [a]) = ((f.run actions).step a).1 := by
  unfold run
  rw [List.foldl_append]
  rfl

/-- An action leads from a state that a new field comes to to another one. -/
theorem Reachable.step {f : Field} (hf : f.Reachable) (a : Action) : (f.step a).1.Reachable := by
  obtain ⟨c, actions, rfl⟩ := hf
  exact ⟨c, actions ++ [a], (run_concat _ actions a).symm⟩

end Field

end InputMask
