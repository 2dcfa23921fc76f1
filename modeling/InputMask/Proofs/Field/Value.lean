/-
  File:      InputMask/Proofs/Field/Value.lean
  Subject:   The texts an engine makes: displays with and without focus,
             and the values of displays.

  * under a mask a value has no prompt, ends in no blank and, where
    literals are dropped, is no longer than there are placeholders; no
    display is longer than the mask;
  * without a mask all of them are the text itself.
-/
import InputMask.Engine
import InputMask.Proofs.Format.Layout
namespace InputMask

/-! ## 1. What is kept of a display -/

section Kept

/-- No prompt is kept. -/
theorem prompt_not_mem_kept (p : Char) (keep : Bool) (display : Text) (slots : List Slot) :
    p ∉ Options.kept ⟨some p, false, keep⟩ display slots := by
  intro hp
  unfold Options.kept at hp
  obtain ⟨x, hx, hxp⟩ := List.mem_map.mp hp
  have hkeep := (List.mem_filter.mp hx).2
  rw [hxp, Options.keeps_prompt] at hkeep
  cases hkeep

/-- Where literals are dropped, no more is kept than there are
    placeholders. -/
theorem length_kept_le (o : Options) (ho : o.keepLiterals = false) (display : Text)
    (slots : List Slot) :
    (o.kept display slots).length ≤ (slots.filter Slot.isPlaceholder).length := by
  induction slots generalizing display with
  | nil =>
    rw [Options.kept_no_slots]
    exact Nat.le_refl 0
  | cons s rest ih =>
    cases display with
    | nil => exact Nat.zero_le _
    | cons c display =>
      cases hk : o.keeps c s with
      | true =>
        have hs : s.isPlaceholder = true := by
          simp only [Options.keeps, ho, Bool.or_false, Bool.and_eq_true] at hk
          exact hk.2.1
        rw [Options.kept_cons_of_keeps hk, List.filter_cons_of_pos hs]
        exact Nat.succ_le_succ (ih display)
      | false =>
        rw [Options.kept_cons_of_not hk]
        exact Nat.le_trans (ih display)
          ((List.sublist_cons_self s rest).filter _).length_le

end Kept

/-! ## 2. The texts of an engine -/

namespace Engine

variable (e : Engine)

/-- Showing a raw text and reading the display, with the options spelt out. -/
theorem value_focusText {keep : Bool} (hk : e.config.keepLiterals = keep) (raw : Text) :
    e.value (e.focusText raw) =
      e.mask.unmask ⟨some e.config.prompt, false, keep⟩
        (e.mask.format ⟨some e.config.prompt, true, keep⟩ raw) := by
  subst hk
  rfl

section Masked

variable (hm : e.mask.isEmpty = false)

include hm

theorem prompt_not_mem_value (display : Text) : e.config.prompt ∉ e.value display := by
  unfold value
  rw [e.mask.unmask_eq hm]
  intro hp
  exact prompt_not_mem_kept _ _ _ _ ((Text.trimEnd_isPrefix _).subset hp)

/-- The value of a display ends in no blank. -/
theorem trimEnd_value (display : Text) : Text.trimEnd (e.value display) = e.value display := by
  unfold value
  rw [e.mask.unmask_eq hm, Text.trimEnd_trimEnd]

theorem length_value_le (hk : e.config.keepLiterals = false) (display : Text) :
    (e.value display).length ≤ e.mask.placeholderCount := by
  unfold value
  rw [e.mask.unmask_eq hm]
  exact Nat.le_trans (Text.length_trimEnd_le _) (length_kept_le _ hk display _)

theorem length_format_le (o : Options) (raw : Text) :
    (e.mask.format o raw).length ≤ e.mask.length := by
  rw [e.mask.format_eq hm]
  exact Nat.le_trans (Text.length_trimEnd_le _) (length_fill_le o e.mask.slots raw)

theorem length_blurText_le (raw : Text) : (e.blurText raw).length ≤ e.mask.length := by
  unfold blurText
  split
  · exact e.length_format_le hm _ raw
  · split
    · exact Nat.zero_le _
    · exact e.length_format_le hm _ raw

end Masked

section Free

variable (hm : e.mask.isEmpty = true)

include hm

theorem format_of_isEmpty (o : Options) (raw : Text) : e.mask.format o raw = raw := by
  unfold Mask.format
  rw [if_pos hm]

theorem focusText_of_isEmpty (raw : Text) : e.focusText raw = raw :=
  e.format_of_isEmpty hm _ raw

theorem value_of_isEmpty (display : Text) : e.value display = display := by
  unfold value Mask.unmask
  rw [if_pos hm]

theorem blurText_of_isEmpty (raw : Text) : e.blurText raw = raw := by
  unfold blurText
  split
  · exact e.focusText_of_isEmpty hm raw
  · split
    · rename_i hraw
      exact (List.isEmpty_iff.mp hraw).symm
    · exact e.format_of_isEmpty hm _ raw

end Free

end Engine

end InputMask
