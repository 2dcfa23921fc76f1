/-
  File:      InputMask/Proofs/Format/Stability.lean
  Subject:   Displays of a raw text with more text behind it.

  The search for a literal looks at all input that is left, so what stands
  at its end can have a say in what is shown at the front. It has none if it
  has no literal of the mask: the slots that the raw text fills are filled
  from it as before, and the text behind it goes to those left blank.

  * `Refines` -- two rows of characters that differ only in placeholders
    where the first one shows the prompt;
  * `refines_fill_append` -- a row filled from a text refines to the row
    filled from the text with more behind it;
  * **`format_append`** -- what a filled placeholder of a display shows, it
    shows with more text behind too, if it is not blank.
-/
import InputMask.Proofs.Format.Filled
namespace InputMask

/-! ## 1. Displays refined -/

/-- **A row of characters refined by another**: slot for slot they are the
    `same`, or a placeholder that shows the prompt in the first one is
    `entered` in the second. -/
inductive Refines (p : Char) : List Slot → Text → Text → Prop where
  | nil : Refines p [] [] []
  | same {s : Slot} {rest : List Slot} {c : Char} {t u : Text} (h : Refines p rest t u) :
      Refines p (s :: rest) (c :: t) (c :: u)
  | entered {s : Slot} {rest : List Slot} {d : Char} {t u : Text} (hs : s.literal? = none)
      (h : Refines p rest t u) : Refines p (s :: rest) (p :: t) (d :: u)

section Refines

variable {p : Char} {slots : List Slot} {t u : Text}

/-- Blank slots are refined by whatever the slots may show. -/
theorem FullDisplay.refines_blanks (h : FullDisplay p slots u) :
    Refines p slots (blanks (some p) slots) u := by
  induction h with
  | nil => exact .nil
  | @cons s c rest u hs _ ih =>
    cases hl : s.literal? with
    | some l =>
      obtain rfl := (shows_literal hl).mp hs
      rw [blanks_literal hl]
      exact .same ih
    | none =>
      rw [blanks_placeholder hl]
      exact .entered hl ih

/-- The same blank slots in front do not matter. -/
theorem Refines.blanks_append (front : List Slot) (h : Refines p slots t u) :
    Refines p (front ++ slots) (blanks (some p) front ++ t) (blanks (some p) front ++ u) := by
  induction front with
  | nil => exact h
  | cons s front ih =>
    obtain ⟨c, hc⟩ := exists_blanks_cons p s front
    rw [hc]
    exact .same ih

/-- **What is shown other than the prompt is shown in both.** -/
theorem Refines.getElem? (h : Refines p slots t u) {k : Nat} {c : Char} (hc : t[k]? = some c)
    (hp : c ≠ p) : u[k]? = some c := by
  induction h generalizing k with
  | nil => exact hc
  | same _ ih =>
    cases k with
    | zero => exact hc
    | succ k => exact ih hc
  | entered _ _ ih =>
    cases k with
    | zero => exact absurd (Option.some.inj hc).symm hp
    | succ k => exact ih hc

end Refines

/-! ## 2. More text behind -/

/-- A text without the literals of a row is without those of its parts. -/
private theorem noLiteral_of_subset {slots rest : List Slot} {extra : Text}
    (h : ∀ c ∈ extra, hasLiteral slots c = false) (hsub : rest ⊆ slots) :
    ∀ c ∈ extra, hasLiteral rest c = false := fun c hc =>
  hasLiteral_eq_false_iff.mpr fun s hs => hasLiteral_eq_false_iff.mp (h c hc) s (hsub hs)

/-- **More text behind a text refines what is filled from it**, if none of
    its characters is a literal of the row. -/
theorem refines_fill_append (p : Char) (keep : Bool) (slots : List Slot) (raw : Text) {extra : Text}
    (h : ∀ c ∈ extra, hasLiteral slots c = false) :
    Refines p slots (fill ⟨some p, true, keep⟩ slots raw)
      (fill ⟨some p, true, keep⟩ slots (raw ++ extra)) := by
  fun_induction fill ⟨some p, true, keep⟩ slots raw with
  | case1 raw =>
    rw [fill_no_slots]
    exact .nil
  | case2 s rest => exact (laid_fill p keep (s :: rest) extra).fullDisplay.refines_blanks
  | case3 s rest c input l hl ih =>
    have hextra : l ∉ extra := fun hmem =>
      hasLiteral_eq_false_iff.mp (h l hmem) s List.mem_cons_self hl
    rw [fill_literal hl, pastFirst_append hextra]
    exact .same (ih (noLiteral_of_subset h (List.subset_cons_self s rest)))
  | case4 s rest c input hs d hc ih =>
    rw [List.cons_append, fill_taken hs hc]
    exact .same (ih (noLiteral_of_subset h (List.subset_cons_self s rest)))
  | case5 s rest c input hs hc hp _ ih =>
    rw [List.cons_append, fill_prompt hs hc hp.symm rfl]
    exact .same (ih (noLiteral_of_subset h (List.subset_cons_self s rest)))
  | case6 s rest c input hs _ _ hk => exact absurd rfl hk
  | case7 s rest c input hs hc hp skipped rest' hj ih =>
    rw [List.cons_append, fill_jump hs hc (Ne.symm hp) hj]
    obtain ⟨s', hs', rfl⟩ := eq_of_splitAtLiteral hj
    have hsub := List.subset_cons_of_subset s (subset_of_splitAtLiteral hj)
    exact (Refines.same (ih (noLiteral_of_subset h hsub))).blanks_append (s :: skipped)
  | case8 s rest c input hs hc hp hj ih =>
    rw [List.cons_append, fill_passed hs hc (Ne.symm hp) hj]
    exact ih h

/-- **A filled placeholder keeps what it shows** when more text follows that
    has no literal of the mask, unless it shows a blank. -/
theorem format_append (m : Mask) (hm : m.isEmpty = false) (p : Char) (keep : Bool) (raw : Text)
    {extra : Text} (h : ∀ c ∈ extra, hasLiteral m.slots c = false) {k : Nat} {c : Char}
    (hk : FilledAt p m.slots (m.format ⟨some p, true, keep⟩ raw) k)
    (hc : (m.format ⟨some p, true, keep⟩ raw)[k]? = some c) (hb : Text.isBlank c = false) :
    (m.format ⟨some p, true, keep⟩ (raw ++ extra))[k]? = some c := by
  have hp : c ≠ p := by
    have hany := hk.2
    rw [hc] at hany
    exact bne_iff_ne.mp hany
  rw [m.format_eq hm] at hc ⊢
  exact Text.getElem?_trimEnd
    ((refines_fill_append p keep m.slots raw h).getElem? (Text.getElem?_of_trimEnd hc) hp) hb

/-- A date whose day is passed over and whose year is short: all that is
    entered stays when the year goes on. -/
theorem format_append_date :
    let m := Mask.compile "00/00/0000".toList
    let o : Options := ⟨some '_', true, true⟩
    m.isEmpty = false ∧ (∀ c ∈ "9x5".toList, hasLiteral m.slots c = false) ∧
      m.format o "3/12/20".toList = "3_/12/20__".toList ∧
      (m.format o ("3/12/20".toList ++ "9x5".toList))[6]? = some '2' := by
  intro m o
  have hm : m.isEmpty = false := by decide
  have hall : ("9x5".toList.all fun c => !hasLiteral m.slots c) = true := by decide
  have hextra : ∀ c ∈ "9x5".toList, hasLiteral m.slots c = false := fun c hc =>
    (Bool.not_eq_true' _).mp (List.all_eq_true.mp hall c hc)
  have hfilled : FilledAt '_' m.slots (m.format o "3/12/20".toList) 6 := by decide +kernel
  have hshown : (m.format o "3/12/20".toList)[6]? = some '2' := by decide +kernel
  exact ⟨hm, hextra, by decide +kernel,
    format_append m hm '_' true _ hextra hfilled hshown (by decide)⟩

/-- With a literal of the mask behind it, an entered text may be read anew:
    the third digit stood behind the slash for as long as there was none. -/
example :
    let m := Mask.compile "00/00".toList
    let o : Options := ⟨some '_', true, false⟩
    m.format o "123".toList = "12/3_".toList ∧ m.format o "123/".toList = "12/__".toList := by
  decide +kernel

end InputMask
