/-
  File:      InputMask/Proofs/Field/FocusChange.lean
  Subject:   When the value of a field outlives a focus change.

  A focus change forgets the display and shows the value as raw text
  again. So it keeps exactly the values that are read back from their
  own display: a gap in front of a character closes, and the character
  must fit where it comes to stand.

  * `value_focus`, `value_blur` -- the value after a focus change;
  * **`value_focusChange`** -- which values outlive a focus change, in
    every state.
-/
import InputMask.Proofs.Field.Display
import InputMask.Proofs.Format.ReadBack
namespace InputMask

namespace Field

/-! ## 1. The value shown again -/

section FocusChange

variable (f : Field)

theorem value_blur : f.blur.value = f.engine.value (f.engine.focusText f.value) :=
  value_refresh _ _

/-- Giving focus puts the caret elsewhere, but not the value. -/
theorem focus_eq : ∃ k, f.focus = ({ f with focused := true }.refresh f.value).caretAt k := by
  unfold focus
  simp only
  split
  · exact ⟨({ f with focused := true }.refresh f.value).caret, by rw [refresh_eq]; rfl⟩
  · exact ⟨_, rfl⟩

theorem value_focus : f.focus.value = f.engine.value (f.engine.focusText f.value) := by
  obtain ⟨k, hk⟩ := f.focus_eq
  rw [hk]
  exact value_refresh { f with focused := true } f.value

end FocusChange

/-! ## 2. Values that stay -/

section Reachable

variable {f : Field}

/-- The value of a paired field under a mask has no prompt. -/
theorem Paired.prompt_not_mem_value (h : f.Paired) (hm : f.engine.mask.isEmpty = false) :
    f.engine.config.prompt ∉ f.value := by
  obtain ⟨t, ht⟩ := h.exists_value hm
  rw [ht]
  exact f.engine.prompt_not_mem_value hm t

/-- The value of a paired field under a mask ends in no blank. -/
theorem Paired.trimEnd_value (h : f.Paired) (hm : f.engine.mask.isEmpty = false) :
    Text.trimEnd f.value = f.value := by
  obtain ⟨t, ht⟩ := h.exists_value hm
  rw [ht]
  exact f.engine.trimEnd_value hm t

/-- **Which values outlive a focus change**, in every state. Without a mask
    all do. Where literals are dropped, just the values that fill the mask
    from the left with their own characters. Where literals are kept, the
    values that can be traced along the mask again; and no others, unless
    a placeholder makes the prompt of one of their characters. -/
theorem value_focusChange {g : Field} (hf : f.Reachable) (hg : g = f.blur ∨ g = f.focus) :
    let p := f.engine.config.prompt
    let slots := f.engine.mask.slots
    (f.engine.mask.isEmpty = true → g.value = f.value) ∧
    (f.engine.mask.isEmpty = false → f.engine.config.keepLiterals = false →
      (g.value = f.value ↔ LeftFilled slots f.value f.value)) ∧
    (f.engine.mask.isEmpty = false → f.engine.config.keepLiterals = true →
      (Retraced p slots f.value → g.value = f.value) ∧
      (NoneToPrompt p slots f.value → g.value = f.value → Retraced p slots f.value)) := by
  intro p slots
  have h : f.Paired := invariant_paired.reachable hf
  have hvalue : g.value = f.engine.value (f.engine.focusText f.value) := by
    rcases hg with rfl | rfl
    · exact f.value_blur
    · exact f.value_focus
  refine ⟨fun hm => ?_, fun hm hk => ?_, fun hm hk => ?_⟩
  · rw [hvalue, f.engine.focusText_of_isEmpty hm, f.engine.value_of_isEmpty hm]
  · rw [hvalue, f.engine.value_focusText hk]
    exact unmask_format_eq_self_iff f.engine.mask hm false (h.prompt_not_mem_value hm)
      (h.trimEnd_value hm)
  · have hp := h.prompt_not_mem_value hm
    rw [hvalue, f.engine.value_focusText hk]
    exact ⟨unmask_format_of_retraced f.engine.mask hm true hp (h.trimEnd_value hm),
      retraced_of_unmask_format f.engine.mask hm true hp⟩

/-- A date whose day has one digit, with and without literals in its value:
    the gap closes in the display of one of the two, and the values of both
    stay. -/
theorem value_focusChange_date :
    let f := fun keep : Bool => (ofConfig ⟨"00/00".toList, '_', false, keep⟩).run
      [.focus, .typeChar '1', .select 3 3, .typeChar '2']
    ((f false).Reachable ∧ (f false).engine.mask.isEmpty = false ∧
      (f false).engine.config.keepLiterals = false ∧
      LeftFilled (f false).engine.mask.slots (f false).value (f false).value) ∧
    ((f true).Reachable ∧ (f true).engine.mask.isEmpty = false ∧
      (f true).engine.config.keepLiterals = true ∧
      Retraced '_' (f true).engine.mask.slots (f true).value) ∧
    (f false).blur.value = "12".toList ∧ (f true).focus.value = "1/2".toList := by
  intro f
  have hr : ∀ keep, (f keep).Reachable := fun _ => ⟨_, _, rfl⟩
  have hm : ∀ keep, (f keep).engine.mask = Mask.compile "00/00".toList := by decide +kernel
  have hp : (f true).engine.config.prompt = '_' := by decide +kernel
  have hk : ∀ keep, (f keep).engine.config.keepLiterals = keep := by decide +kernel
  have hv : (f false).value = "12".toList ∧ (f true).value = "1/2".toList := by decide +kernel
  have he : ∀ keep, (f keep).engine.mask.isEmpty = false := by decide +kernel
  have hfilled : LeftFilled (f false).engine.mask.slots (f false).value (f false).value := by
    rw [hm, hv.1]
    exact ⟨by decide, by decide, by decide⟩
  have hretraced : Retraced '_' (f true).engine.mask.slots (f true).value := by
    rw [hm, hv.2]
    have hrest : ∀ s ∈ (Mask.compile "0".toList).slots, s.literal? = none := by decide
    refine .taken rfl rfl (.jump rfl rfl rfl (List.forall_mem_nil _) (.taken rfl rfl (.done ?_)))
    exact fun s hs l hl => nomatch (hrest s hs).symm.trans hl
  obtain ⟨-, hdropped, -⟩ := value_focusChange (hr false) (.inl rfl)
  obtain ⟨-, -, hkept⟩ := value_focusChange (hr true) (.inr rfl)
  have hblur := (hdropped (he false) (hk false)).mpr hfilled
  have hfocus := (hkept (he true) (hk true)).1 (hp ▸ hretraced)
  exact ⟨⟨hr false, he false, hk false, hfilled⟩, ⟨hr true, he true, hk true, hretraced⟩,
    hblur.trans hv.1, hfocus.trans hv.2⟩

/-- **Not every value outlives a focus change**: a digit typed behind an
    empty placeholder for a letter comes to stand in that placeholder,
    which refuses it, and is gone. -/
theorem value_lost_of_gap :
    let f := (ofConfig (Config.ofMask "L0".toList)).run [.focus, .select 1 1, .typeChar '5']
    f.Reachable ∧ f.display = "_5".toList ∧ f.value = "5".toList ∧
      f.blur.value = [] ∧ f.focus.value = [] := by
  intro f
  exact ⟨⟨_, _, rfl⟩, by decide +kernel⟩

end Reachable

end Field

end InputMask
