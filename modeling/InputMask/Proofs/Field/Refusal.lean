/-
  File:      InputMask/Proofs/Field/Refusal.lean
  Subject:   What a refused edit leaves behind in a field with focus.

  A refused edit keeps display, value, focus and mask, but not always the
  caret: a refused character leaves it where it was tried, which is the
  start of the selection or the place behind the literals at the caret.
  Nothing moves where nothing is selected and the caret is on no literal
  (`AtRest`).

  * `Refuses`, `afterRefusal` -- the refusal and the state it leaves;
  * **`step_of_refuses`** -- that this is the state, for every edit of
    every state with focus;
  * `caret_moved_by_refused` -- the caret that moves, and the next key
    with it.
-/
import InputMask.Proofs.Field.Bounds
import InputMask.Proofs.Field.FocusChange
namespace InputMask

namespace Field

/-! ## 1. Fields with focus -/

/-- **A field that shows its prompts hides no value.** -/
theorem hidden_refresh (f : Field) (raw : Text) (h : (f.refresh raw).ShowsPrompts) :
    (f.refresh raw).hidden = none := by
  rw [refresh_eq] at h ⊢
  by_cases hs : f.ShowsPrompts
  · rw [f.render_of_shows raw hs]
    rfl
  · rw [f.render_of_not raw hs] at h
    exact absurd h hs

theorem hidden_apply (f : Field) (out : Outcome) (h : (f.apply out).1.ShowsPrompts) :
    (f.apply out).1.hidden = none := by
  rw [apply_eq] at h ⊢
  by_cases hs : f.ShowsPrompts
  · rw [if_pos hs]
    rfl
  · rw [if_neg hs, f.render_of_not _ hs] at h
    exact absurd h hs

theorem invariant_hidden : Invariant fun f => f.ShowsPrompts → f.hidden = none where
  new c := hidden_refresh _ _
  focus f _ := by
    obtain ⟨k, hk⟩ := f.focus_eq
    rw [hk]
    exact hidden_refresh { f with focused := true } f.value
  blur f _ := hidden_refresh _ _
  setValue f raw _ := hidden_refresh _ _
  setMask f mask _ := hidden_refresh _ _
  select f first stop h := h
  typeChar f c h := by
    rw [typeChar_eq]
    simp only
    split
    · exact h
    · exact hidden_apply _ _
  delete f side _ := by
    rw [delete_eq]
    exact hidden_apply _ _
  moveLeft f h := h
  moveRight f h := h
  moveHome f h := h
  moveEnd f h := h
  pasteResync f text _ := by
    cases hm : f.engine.mask.isEmpty with
    | true =>
      rw [pasteResync_free f hm]
      exact fun _ => rfl
    | false =>
      obtain ⟨raw, n, heq⟩ := pasteResync_masked f hm text
      rw [heq]
      exact hidden_refresh f raw

section Focused

variable {f : Field} (hf : f.Reachable) (hfocus : f.focused = true)

include hf hfocus

theorem hidden_of_focused : f.hidden = none :=
  invariant_hidden.reachable hf (.inl hfocus)

/-- Edits of a field with focus work on what it shows. -/
theorem slotText_of_focused : f.slotText = f.display := by
  unfold slotText
  rw [hidden_of_focused hf hfocus]

end Focused

/-! ## 2. Where a character is tried -/

section EntryPoint

variable {f : Field} (c : Char)

theorem editSpan_of_none (h : f.selStop ≤ f.selStart) : f.editSpan = (f.caret, 0) :=
  if_pos h

theorem editSpan_of_selected (h : f.selStart < f.selStop) :
    f.editSpan = (f.selStart, f.selStop - f.selStart) :=
  if_neg (Nat.not_le_of_lt h)

/-- A selection is replaced from its start on. -/
theorem entryPoint_of_selected (h : f.selStart < f.selStop) : f.entryPoint c = f.selStart := by
  have hcount : f.selStop - f.selStart ≠ 0 := Nat.sub_ne_zero_of_lt h
  simp only [entryPoint, editSpan_of_selected h, hcount, false_and, if_false]

/-- With nothing selected a character is tried at the caret, unless a
    literal stands there that is another character: then behind it. -/
theorem entryPoint_of_none (h : f.selStop ≤ f.selStart) :
    (f.entryPoint c = f.caret ∧
      ∀ s, f.engine.mask.slots[f.caret]? = some s → s.literal? = none ∨ s.literal? = some c) ∨
    (f.entryPoint c = f.engine.mask.nextEditable f.caret ∧
      ∃ s l, f.engine.mask.slots[f.caret]? = some s ∧ s.literal? = some l ∧ l ≠ c) := by
  cases hs : f.engine.mask.slots[f.caret]? with
  | none =>
    refine .inl ⟨?_, fun s hs => nomatch hs⟩
    simp [entryPoint, editSpan_of_none h, hs]
  | some s =>
    cases hl : s.literal? with
    | none =>
      refine .inl ⟨?_, fun s' hs' => .inl (Option.some.inj hs' ▸ hl)⟩
      simp [entryPoint, editSpan_of_none h, hs, hl]
    | some l =>
      by_cases hc : l = c
      · refine .inl ⟨?_, fun s' hs' => .inr (Option.some.inj hs' ▸ hc ▸ hl)⟩
        simp [entryPoint, editSpan_of_none h, hs, hl, hc]
      · refine .inr ⟨?_, s, l, rfl, hl, hc⟩
        simp [entryPoint, editSpan_of_none h, hs, hl, hc]

theorem entryPoint_le (hb : f.InBounds) (hm : f.engine.mask.isEmpty = false) :
    f.entryPoint c ≤ f.engine.mask.length := by
  have hmax := f.maxPosition_of_not hm
  have hcaret := hb.caret
  have hstop := hb.selection
  by_cases h : f.selStart < f.selStop
  · rw [entryPoint_of_selected c h]
    omega
  · rcases entryPoint_of_none c (Nat.le_of_not_lt h) with ⟨heq, -⟩ | ⟨heq, -⟩
    · omega
    · rw [heq]
      exact f.engine.mask.nextEditable_le _

end EntryPoint

/-- **The caret is on no literal.** -/
def OffLiterals (f : Field) : Prop :=
  ∀ s, f.engine.mask.slots[f.caret]? = some s → s.isPlaceholder = true

theorem offLiterals_of_isEmpty {f : Field} (hm : f.engine.mask.isEmpty = true) :
    f.OffLiterals := by
  intro s hs
  rw [List.isEmpty_iff.mp hm] at hs
  cases hs

theorem entryPoint_of_offLiterals {f : Field} (h : f.selStop ≤ f.selStart) (ho : f.OffLiterals)
    (c : Char) : f.entryPoint c = f.caret := by
  rcases entryPoint_of_none c h with ⟨heq, -⟩ | ⟨-, s, l, hs, hl, -⟩
  · exact heq
  · rw [Slot.literal?_eq_none_iff.mpr (ho s hs)] at hl
    cases hl

/-- Off the literals a character that is not refused is put in at the caret. -/
theorem typeChar_of_offLiterals {f : Field} (h : f.selStop ≤ f.selStart) (ho : f.OffLiterals)
    {c : Char}
    (hout : (f.engine.mask.insertChar f.engine.options f.slotText f.caret 0 c).status ≠ .rejected) :
    f.typeChar c =
      f.apply (f.engine.mask.insertChar f.engine.options f.slotText f.caret 0 c) := by
  rw [typeChar_eq, entryPoint_of_offLiterals h ho, editSpan_of_none h]
  exact if_neg hout

/-- With nothing selected a delete works beside the caret. -/
theorem delete_of_none {f : Field} (h : f.selStop ≤ f.selStart) (side : Side) :
    f.delete side =
      f.apply (f.engine.mask.deleteRange f.engine.options f.slotText f.caret 0 side) := by
  rw [delete_eq, editSpan_of_none h]

/-! ## 3. Refused edits -/

section Refused

variable {f : Field}

theorem status_apply (f : Field) (out : Outcome) : (f.apply out).2 = out.status := by
  rw [apply_eq]

/-- A refused character leaves the caret where it was tried. -/
theorem typeChar_refused (hb : f.InBounds) {c : Char} (h : (f.typeChar c).2 = .rejected) :
    (f.typeChar c).1 = { f with caret := f.entryPoint c } ∧
      (f.engine.mask.insertChar f.engine.options f.slotText (f.entryPoint c)
        f.editSpan.2 c).status = .rejected := by
  rw [typeChar_eq] at h ⊢
  simp only at h ⊢
  split at h
  · rename_i hout
    obtain ⟨hm, heq, -⟩ := Mask.insertChar_rejected hout
    rw [if_pos hout]
    refine ⟨?_, hout⟩
    rw [heq, Nat.min_eq_left (entryPoint_le c hb hm)]
  · rename_i hout
    exact absurd ((status_apply f _).symm.trans h) hout

/-- With nothing selected it leaves the caret off the literals. -/
theorem offLiterals_typeChar_refused (hb : f.InBounds) (hnone : f.selStop ≤ f.selStart) {c : Char}
    (h : (f.typeChar c).2 = .rejected) : (f.typeChar c).1.OffLiterals := by
  obtain ⟨heq, hout⟩ := typeChar_refused hb h
  rw [heq]
  intro s hs
  have hs : f.engine.mask.slots[f.entryPoint c]? = some s := hs
  rcases entryPoint_of_none c hnone with ⟨hentry, hliteral⟩ | ⟨hentry, -⟩
  · have hne := (Mask.insertChar_rejected hout).2.2 s hs
    rw [hentry] at hs
    exact Slot.literal?_eq_none_iff.mp ((hliteral s hs).resolve_right hne)
  · rw [hentry] at hs
    exact f.engine.mask.isPlaceholder_nextEditable hs

/-- Off the literals, and with nothing selected, it leaves all as it was. -/
theorem typeChar_refused_of_offLiterals (hb : f.InBounds) (hnone : f.selStop ≤ f.selStart)
    (ho : f.OffLiterals) {c : Char} (h : (f.typeChar c).2 = .rejected) : (f.typeChar c).1 = f := by
  rw [(typeChar_refused hb h).1, entryPoint_of_offLiterals hnone ho]

theorem withDisplay_display (h : f.hidden = none) : f.withDisplay f.display = f := by
  obtain ⟨e, display, caret, first, stop, focused, hidden⟩ := f
  obtain rfl : hidden = none := h
  rfl

/-- **A refused delete** had nothing to delete, and leaves the caret. -/
theorem delete_refused (hf : f.Reachable) (hfocus : f.focused = true) {side : Side}
    (h : (f.delete side).2 = .rejected) :
    f.selStop ≤ f.selStart ∧ (f.delete side).1 = f.caretAt f.caret := by
  have hb : f.InBounds := invariant_inBounds.reachable hf
  have hcaret := hb.caret
  have hstop := hb.selection
  rw [delete_eq, status_apply] at h
  obtain ⟨hout, hcount⟩ := Mask.deleteRange_rejected h
  have hlast : f.engine.mask.lastPosition f.slotText = f.maxPosition := rfl
  rw [hlast] at hout hcount
  by_cases hsel : f.selStart < f.selStop
  · -- a selection is within the text, so it is something to delete
    rw [editSpan_of_selected hsel] at hcount
    simp only at hcount
    omega
  · have hnone := Nat.le_of_not_lt hsel
    refine ⟨hnone, ?_⟩
    have hshows : f.ShowsPrompts := .inl hfocus
    rw [editSpan_of_none hnone, Nat.min_eq_left hcaret, slotText_of_focused hf hfocus] at hout
    rw [delete_of_none hnone, slotText_of_focused hf hfocus, hout, apply_of_shows f hshows,
      withDisplay_display (hidden_of_focused hf hfocus)]

end Refused

/-! ## 4. Refused pastes -/

section Pastes

variable {f : Field} {status : Status} {text : Text}

theorem typeAll_cons (f : Field) (status : Status) (c : Char) (text : Text) :
    f.typeAll status (c :: text) =
      (f.typeChar c).1.typeAll (if (f.typeChar c).2 = .rejected then status else .accepted) text :=
  rfl

/-- Typing is refused as a whole only if it was so far. -/
theorem status_of_typeAll (h : (f.typeAll status text).2 = .rejected) : status = .rejected := by
  induction text generalizing f status with
  | nil => exact h
  | cons c text ih =>
    rw [typeAll_cons] at h
    by_cases hc : (f.typeChar c).2 = .rejected
    · rw [if_pos hc] at h
      exact ih h
    · rw [if_neg hc] at h
      exact nomatch ih h

theorem typeAll_cons_refused {c : Char} (h : (f.typeAll status (c :: text)).2 = .rejected) :
    (f.typeChar c).2 = .rejected ∧ ((f.typeChar c).1.typeAll status text).2 = .rejected ∧
      (f.typeAll status (c :: text)).1 = ((f.typeChar c).1.typeAll status text).1 := by
  rw [typeAll_cons] at h ⊢
  by_cases hc : (f.typeChar c).2 = .rejected
  · rw [if_pos hc] at h ⊢
    exact ⟨hc, h, rfl⟩
  · rw [if_neg hc] at h
    exact nomatch status_of_typeAll h

/-- Off the literals refused characters leave all as it was. -/
theorem typeAll_refused_of_offLiterals (hb : f.InBounds) (hnone : f.selStop ≤ f.selStart)
    (ho : f.OffLiterals) (h : (f.typeAll status text).2 = .rejected) :
    (f.typeAll status text).1 = f := by
  induction text with
  | nil => rfl
  | cons c text ih =>
    obtain ⟨hc, htext, heq⟩ := typeAll_cons_refused h
    rw [typeChar_refused_of_offLiterals hb hnone ho hc] at htext heq
    rw [heq]
    exact ih htext

/-- **A refused paste** leaves the caret where its first character was
    tried: from there on the caret is off the literals. -/
theorem typeAll_refused (hb : f.InBounds) (hnone : f.selStop ≤ f.selStart) {c : Char}
    (h : (f.typeAll status (c :: text)).2 = .rejected) :
    (f.typeAll status (c :: text)).1 = { f with caret := f.entryPoint c } := by
  obtain ⟨hc, htext, heq⟩ := typeAll_cons_refused h
  have hfirst := (typeChar_refused hb hc).1
  have hb' : (f.typeChar c).1.InBounds := invariant_inBounds.typeChar f c hb
  have hnone' : (f.typeChar c).1.selStop ≤ (f.typeChar c).1.selStart := by
    rw [hfirst]
    exact hnone
  rw [heq, ← hfirst]
  exact typeAll_refused_of_offLiterals hb' hnone' (offLiterals_typeChar_refused hb hnone hc) htext

/-- Text put into the value is not refused. -/
theorem status_pasteResync (f : Field) (text : Text) : (f.pasteResync text).2 = .accepted := by
  simp only [pasteResync]
  split <;> rfl

/-- With nothing selected a replayed paste only types. -/
theorem pasteReplay_of_none (h : f.selStop ≤ f.selStart) :
    f.pasteReplay text = f.typeAll .rejected text :=
  if_pos h

theorem pasteReplay_refused (hf : f.Reachable) (hfocus : f.focused = true)
    (h : (f.pasteReplay text).2 = .rejected) : f.selStop ≤ f.selStart := by
  by_contra hsel
  have hreplay : f.pasteReplay text =
      (f.delete .forward).1.typeAll (f.delete .forward).2 text := if_neg hsel
  rw [hreplay] at h
  exact hsel (delete_refused hf hfocus (status_of_typeAll h)).1

end Pastes

/-! ## 5. Refused keys -/

/-- **The field refuses an action.** -/
def Refuses (f : Field) (a : Action) : Prop := (f.step a).2 = .status .rejected

instance (f : Field) (a : Action) : Decidable (f.Refuses a) :=
  inferInstanceAs (Decidable (_ = Answer.status .rejected))

/-- The state after a refused action: a character leaves the caret where
    it was tried and does not touch the selection, a delete selects the
    caret, and nothing else has an effect. -/
def afterRefusal (f : Field) : Action → Field
  | .typeChar c => { f with caret := f.entryPoint c }
  | .paste (c :: _) _ => { f with caret := f.entryPoint c }
  | .backspace => f.caretAt f.caret
  | .deleteForward => f.caretAt f.caret
  | _ => f

/-- **The field is at rest**: nothing is selected but the caret, and the
    caret is on no literal. -/
structure AtRest (f : Field) : Prop where
  start : f.selStart = f.caret
  stop : f.selStop = f.caret
  off : f.OffLiterals

section Keys

variable {f : Field} {a : Action}

theorem AtRest.nothing_selected (h : f.AtRest) : f.selStop ≤ f.selStart :=
  Nat.le_of_eq (h.stop.trans h.start.symm)

theorem AtRest.caretAt_caret (h : f.AtRest) : f.caretAt f.caret = f := by
  obtain ⟨e, display, caret, first, stop, focused, hidden⟩ := f
  obtain rfl : first = caret := h.start
  obtain rfl : stop = first := h.stop
  rfl

theorem step_eq_afterRefusal (hf : f.Reachable) (hfocus : f.focused = true) (h : f.Refuses a) :
    (f.step a).1 = f.afterRefusal a := by
  have hb : f.InBounds := invariant_inBounds.reachable hf
  unfold Refuses at h
  cases a with
  | focus => cases h
  | blur => cases h
  | setValue raw => cases h
  | setMask mask => cases h
  | select first stop => cases h
  | typeChar c => exact (typeChar_refused hb (Answer.status.inj h)).1
  | backspace => exact (delete_refused hf hfocus (Answer.status.inj h)).2
  | deleteForward => exact (delete_refused hf hfocus (Answer.status.inj h)).2
  | moveLeft => cases h
  | moveRight => cases h
  | moveHome => cases h
  | moveEnd => cases h
  | cut => cases h
  | paste text mode =>
    cases mode with
    | resync =>
      have h := (status_pasteResync f text).symm.trans (Answer.status.inj h)
      cases h
    | replay =>
      have h : (f.pasteReplay text).2 = .rejected := Answer.status.inj h
      have hnone := pasteReplay_refused hf hfocus h
      show (f.pasteReplay text).1 = _
      rw [pasteReplay_of_none hnone] at h ⊢
      cases text with
      | nil => rfl
      | cons c text => exact typeAll_refused hb hnone h

/-- At rest a refused action changes nothing. -/
theorem AtRest.afterRefusal (h : f.AtRest) (a : Action) : f.afterRefusal a = f := by
  have hentry : ∀ c, { f with caret := f.entryPoint c } = f := fun c => by
    rw [entryPoint_of_offLiterals h.nothing_selected h.off]
  cases a with
  | typeChar c => exact hentry c
  | backspace => exact h.caretAt_caret
  | deleteForward => exact h.caretAt_caret
  | paste text mode =>
    cases text with
    | nil => rfl
    | cons c text => exact hentry c
  | _ => rfl

/-- **A refused edit.** In every state with focus it keeps display, value,
    focus, mask and configuration. All that it may move is the caret, to
    where the character was tried, or the empty selection, to the caret;
    at rest it changes nothing at all. -/
theorem step_of_refuses (hf : f.Reachable) (hfocus : f.focused = true) (h : f.Refuses a) :
    let g := (f.step a).1
    (g.display = f.display ∧ g.value = f.value ∧ g.focused = f.focused ∧ g.engine = f.engine) ∧
    g = f.afterRefusal a ∧ (f.AtRest → g = f) := by
  intro g
  have hg : g = f.afterRefusal a := step_eq_afterRefusal hf hfocus h
  refine ⟨?_, hg, fun hrest => hg.trans (hrest.afterRefusal a)⟩
  rw [hg]
  cases a with
  | paste text mode => cases text <;> exact ⟨rfl, rfl, rfl, rfl⟩
  | _ => exact ⟨rfl, rfl, rfl, rfl⟩

end Keys

/-- A character refused behind a deleted literal, with the caret on that
    literal, and the same character refused before, at rest. -/
theorem step_of_refuses_date :
    let f := (ofConfig (Config.ofMask "00/00".toList)).run [.focus, .typeChar '1', .typeChar '2']
    let g := f.run [.backspace]
    (f.Reachable ∧ f.focused = true ∧ f.Refuses (.typeChar 'x') ∧ f.AtRest) ∧
    (g.Reachable ∧ g.focused = true ∧ g.Refuses (.typeChar 'x') ∧ g.entryPoint 'x' = 3) ∧
    (f.step (.typeChar 'x')).1 = f ∧ (g.step (.typeChar 'x')).1 = { g with caret := 3 } := by
  intro f g
  have hf : f.Reachable := ⟨_, _, rfl⟩
  have hg : g.Reachable := hf.step .backspace
  have hfocus : f.focused = true ∧ g.focused = true := by decide +kernel
  have hrefuses : f.Refuses (.typeChar 'x') ∧ g.Refuses (.typeChar 'x') := by decide +kernel
  have hentry : g.entryPoint 'x' = 3 := by decide +kernel
  have hrest : f.AtRest := by
    have hslot : f.engine.mask.slots[f.caret]? =
        some ⟨.placeholder .digitRequired, .plain, false⟩ := by
      decide +kernel
    exact ⟨by decide +kernel, by decide +kernel, fun s hs => by rw [hslot] at hs; cases hs; rfl⟩
  obtain ⟨-, -, hsame⟩ := step_of_refuses hf hfocus.1 hrefuses.1
  obtain ⟨-, hmoved, -⟩ := step_of_refuses hg hfocus.2 hrefuses.2
  refine ⟨⟨hf, hfocus.1, hrefuses.1, hrest⟩, ⟨hg, hfocus.2, hrefuses.2, hentry⟩, hsame hrest, ?_⟩
  exact hmoved.trans (congrArg (fun p => { g with caret := p }) hentry)

/-- **A refused key can move the caret**, and change what the next key
    does: a letter typed over two selected digits is refused, but takes the
    caret from the end of the selection to its start; a step to the left
    then ends on the first digit and not on the second. -/
theorem caret_moved_by_refused :
    let f := (ofConfig (Config.ofMask "00".toList)).run
      [.focus, .setValue "12".toList, .select 0 2]
    let g := (f.step (.typeChar 'x')).1
    (f.Reachable ∧ f.focused = true ∧ f.Refuses (.typeChar 'x')) ∧
    (f.caret = 2 ∧ g.caret = 0 ∧ g.selStart = 0 ∧ g.selStop = 2) ∧
    (f.run [.moveLeft]).caret = 1 ∧ (g.run [.moveLeft]).caret = 0 := by
  intro f g
  exact ⟨⟨⟨_, _, rfl⟩, by decide +kernel⟩, by decide +kernel⟩

end Field

end InputMask
