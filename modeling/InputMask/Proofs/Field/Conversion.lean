/-
  File:      InputMask/Proofs/Field/Conversion.lean
  Subject:   A raw text converted in one step, and shown by a field that
             was given it.

  Where prompts show, or there is no mask, the two are the same. Where
  prompts are hidden a field shows its value, which is read back from
  the full display of the raw text; the conversion lays out the raw text
  itself. So what the value does not keep tells them apart: characters
  that no slot takes, and gaps that close.

  * `Engine.blurText_eq_withoutPrompts` -- without focus a display is the
    one with focus, its unfilled placeholders taken out;
  * **`display_setValue`** -- what the field shows, and where the
    conversion gives the same.
-/
import InputMask.Proofs.Field.Operation
import InputMask.Proofs.Field.Value
import InputMask.Proofs.Format.Prompt
namespace InputMask

/-! ## 1. Displays without focus -/

namespace Engine

variable {e : Engine} {raw raw' : Text}

theorem blurText_of_shown (h : e.config.hidePrompt = false) (raw : Text) :
    e.blurText raw = e.focusText raw := by
  unfold blurText
  rw [h]
  rfl

theorem blurText_of_hidden (h : e.config.hidePrompt = true) (hraw : raw ≠ []) :
    e.blurText raw = e.mask.format ⟨none, false, e.config.keepLiterals⟩ raw := by
  unfold blurText
  rw [h, List.isEmpty_eq_false_iff.mpr hraw]
  rfl

/-- Without focus a display shows that with focus, its unfilled
    placeholders taken out. -/
theorem blurText_eq_withoutPrompts (hm : e.mask.isEmpty = false)
    (h : e.config.hidePrompt = true) (hraw : raw ≠ []) (hp : e.config.prompt ∉ raw)
    (hn : NoneToPrompt e.config.prompt e.mask.slots raw) :
    e.blurText raw =
      Text.trimEnd (withoutPrompts e.config.prompt e.mask.slots (e.focusText raw)) := by
  rw [blurText_of_hidden h hraw, focusText, e.mask.format_eq hm, e.mask.format_eq hm,
    trimEnd_withoutPrompts_trimEnd, fill_hidden e.config.keepLiterals _ _ hp hn]
  rfl

/-- **Raw texts with one display with focus have one without it**, if both
    of them or none is empty. -/
theorem blurText_congr (hempty : raw = [] ↔ raw' = []) (hp : e.config.prompt ∉ raw)
    (hn : NoneToPrompt e.config.prompt e.mask.slots raw) (hp' : e.config.prompt ∉ raw')
    (hn' : NoneToPrompt e.config.prompt e.mask.slots raw')
    (h : e.focusText raw = e.focusText raw') : e.blurText raw = e.blurText raw' := by
  cases hm : e.mask.isEmpty with
  | true =>
    rw [e.focusText_of_isEmpty hm, e.focusText_of_isEmpty hm] at h
    rw [h]
  | false =>
    cases hh : e.config.hidePrompt with
    | false => rw [blurText_of_shown hh, blurText_of_shown hh, h]
    | true =>
      by_cases hraw : raw = []
      · rw [hraw, hempty.mp hraw]
      · rw [blurText_eq_withoutPrompts hm hh hraw hp hn,
          blurText_eq_withoutPrompts hm hh (mt hempty.mpr hraw) hp' hn', h]

end Engine

/-! ## 2. A new field -/

/-- The configuration with prompts on show. -/
def Config.shown (c : Config) : Config := { c with hidePrompt := false }

namespace Field

section Conversion

variable (c : Config) (raw : Text)

theorem engine_ofConfig : (ofConfig c).engine = Engine.ofConfig c :=
  engine_refresh _ _

theorem focused_ofConfig : (ofConfig c).focused = false :=
  focused_refresh _ _

theorem showsPrompts_ofConfig : (ofConfig c).ShowsPrompts ↔ c.hidePrompt = false := by
  unfold ShowsPrompts
  rw [focused_ofConfig, engine_ofConfig]
  simp [Engine.ofConfig]

/-- The value is read back from the raw text converted with its prompts. -/
theorem value_setValue :
    ((ofConfig c).setValue raw).value = convert c .unmask (convert c.shown .mask raw) := by
  have hvalue : ((ofConfig c).setValue raw).value = _ := value_refresh _ raw
  rw [hvalue, engine_ofConfig]
  rfl

theorem display_setValue_of_shown (h : c.hidePrompt = false) :
    ((ofConfig c).setValue raw).display = convert c .mask raw := by
  show ((ofConfig c).refresh raw).display = (Engine.ofConfig c).blurText raw
  rw [refresh_eq, render_of_shows _ _ ((showsPrompts_ofConfig c).mpr h), engine_ofConfig,
    Engine.blurText_of_shown (e := Engine.ofConfig c) h]
  rfl

/-- A field that hides its prompts shows the conversion of its value. -/
theorem display_setValue_of_hidden (h : c.hidePrompt = true) :
    ((ofConfig c).setValue raw).display = convert c .mask ((ofConfig c).setValue raw).value := by
  have hs : ¬(ofConfig c).ShowsPrompts := by
    rw [showsPrompts_ofConfig, h]
    exact Bool.noConfusion
  rw [value_setValue]
  show ((ofConfig c).refresh raw).display = _
  rw [refresh_eq, render_of_not _ _ hs, engine_ofConfig]
  rfl

end Conversion

/-- **Field and conversion.** A new field given a raw text has the
    value that is read back from the raw text's display. Where prompts
    show, or there is no mask, its display is the conversion of the raw
    text. Where they are hidden it is the conversion of that value; this
    is the conversion of the raw text too, if the value shows the same
    with its prompts, if value and raw text are both empty or none of
    them is, and if the prompt is not in the raw text nor made of one of
    their characters. -/
theorem display_setValue (c : Config) (raw : Text) :
    let f := (ofConfig c).setValue raw
    let m := Mask.compile c.mask
    f.value = convert c .unmask (convert c.shown .mask raw) ∧
    (c.hidePrompt = false ∨ m.isEmpty = true → f.display = convert c .mask raw) ∧
    (c.hidePrompt = true → f.display = convert c .mask f.value) ∧
    (convert c.shown .mask f.value = convert c.shown .mask raw → (f.value = [] ↔ raw = []) →
      c.prompt ∉ raw → NoneToPrompt c.prompt m.slots raw → NoneToPrompt c.prompt m.slots f.value →
      f.display = convert c .mask raw) := by
  intro f m
  have hfree : m.isEmpty = true → f.display = convert c .mask raw := by
    intro hm
    have hvalue : f.value = raw := by
      rw [show f.value = (Engine.ofConfig c).value ((Engine.ofConfig c).focusText raw) from
        value_setValue c raw, Engine.value_of_isEmpty _ hm, Engine.focusText_of_isEmpty _ hm]
    cases hh : c.hidePrompt with
    | false => exact display_setValue_of_shown c raw hh
    | true => rw [← hvalue, ← display_setValue_of_hidden c raw hh]
  refine ⟨value_setValue c raw, ?_, display_setValue_of_hidden c raw, ?_⟩
  · rintro (h | hm)
    · exact display_setValue_of_shown c raw h
    · exact hfree hm
  · intro hsame hempty hp hn hn'
    cases hm : m.isEmpty with
    | true => exact hfree hm
    | false =>
      cases hh : c.hidePrompt with
      | false => exact display_setValue_of_shown c raw hh
      | true =>
        have hp' : c.prompt ∉ f.value := by
          rw [show f.value = (Engine.ofConfig c).value _ from value_setValue c raw]
          exact (Engine.ofConfig c).prompt_not_mem_value hm _
        exact (display_setValue_of_hidden c raw hh).trans
          (Engine.blurText_congr (e := Engine.ofConfig c) hempty hp' hn' hp hn hsame)

/-- A telephone number entered with blanks between its parts, with prompts
    on show and hidden. -/
theorem display_setValue_phone :
    let c := fun hide => (⟨"(000) 000-0000".toList, '_', hide, false⟩ : Config)
    let raw := "555 123 4567".toList
    let f := fun hide => (ofConfig (c hide)).setValue raw
    let slots := (Mask.compile (c true).mask).slots
    ((c false).hidePrompt = false ∧ (c true).hidePrompt = true) ∧
    (convert (c true).shown .mask (f true).value = convert (c true).shown .mask raw ∧
      ((f true).value = [] ↔ raw = []) ∧ '_' ∉ raw ∧ NoneToPrompt '_' slots raw ∧
      NoneToPrompt '_' slots (f true).value) ∧
    (f true).value = "5551234567".toList ∧ (f false).display = "(555) 123-4567".toList ∧
    (f true).display = "(555) 123-4567".toList ∧
    (f true).display = convert (c true) .mask (f true).value := by
  intro c raw f slots
  have hvalue : (f true).value = "5551234567".toList := by decide +kernel
  have hshown : convert (c false) .mask raw = "(555) 123-4567".toList ∧
      convert (c true) .mask raw = "(555) 123-4567".toList := by decide +kernel
  have hsame : convert (c true).shown .mask (f true).value = convert (c true).shown .mask raw := by
    decide +kernel
  have hempty : (f true).value = [] ↔ raw = [] := by decide +kernel
  have hn : ∀ v, NoneToPrompt '_' slots v := noneToPrompt_of_not_fits (by decide +kernel)
  obtain ⟨-, hdisplay, -, -⟩ := display_setValue (c false) raw
  obtain ⟨-, -, hhidden, hagree⟩ := display_setValue (c true) raw
  exact ⟨⟨rfl, rfl⟩, ⟨hsame, hempty, by decide, hn _, hn _⟩, hvalue,
    (hdisplay (.inl rfl)).trans hshown.1,
    (hagree hsame hempty (by decide) (hn _) (hn _)).trans hshown.2, hhidden rfl⟩

/-- **The two are not always the same**: a text of which no slot takes
    anything leaves the field empty, but the conversion shows the literals;
    and a gap that the conversion leaves open closes in the field. -/
theorem display_setValue_ne_convert :
    (let c : Config := ⟨"(00)".toList, '_', true, false⟩
      let f := (ofConfig c).setValue "x".toList
      f.value = [] ∧ f.display = [] ∧ convert c .mask "x".toList = "()".toList) ∧
    (let c : Config := ⟨"00-00".toList, '_', true, false⟩
      let f := (ofConfig c).setValue "1-2".toList
      f.value = "12".toList ∧ f.display = "12-".toList ∧
        convert c .mask "1-2".toList = "1-2".toList) := by
  decide +kernel

end Field

end InputMask
