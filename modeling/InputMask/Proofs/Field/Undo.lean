/-
  File:      InputMask/Proofs/Field/Undo.lean
  Subject:   A keystroke taken back by backspaces.

  A character typed behind the values of a field is shown in the next
  placeholder, and the caret goes on over the literals behind it. As many
  backspaces as it went on take the character back. Those over the literals
  delete nothing, but they format anew what the display holds, and where
  the character is blank and nothing but blanks follows it is no longer
  there: it went with the end of the display.

  * `HoldsWith` -- the values, with or without that one character;
  * `run_backspaces`, `run_backspaces_last` -- each backspace over a literal
    keeps them, and the last one takes the character back;
  * **`backspaces_typeChar`** -- the field after typing and all backspaces
    is the field before.
-/
import InputMask.Proofs.Caret.Deletion
import InputMask.Proofs.Caret.Typing
import InputMask.Proofs.Field.Refusal
namespace InputMask

open InputMask.Field (placeholderAt)

/-! ## 1. Values with one more character -/

/-- A display that holds values, or those values and one more character. -/
def HoldsWith (p : Char) (slots : List Slot) (display values : Text) (d : Char) : Prop :=
  Holds p slots display values ∨ Holds p slots display (values ++ [d])

section HoldsWith

variable {p d : Char} {slots : List Slot} {m : Mask} {keep : Bool} {display values : Text}

/-- **Trimming takes no more than the last character**, if the one in front
    of it is not blank. -/
theorem holdsWith_trimEnd (p d : Char)
    (hfree : values.length < (slots.filter Slot.isPlaceholder).length)
    (hlast : values.getLast?.any Text.isBlank = false) :
    HoldsWith p slots (Text.trimEnd (seat p slots (values ++ [d]))) values d := by
  have htrim := Text.trimEnd_isPrefix (seat p slots (values ++ [d]))
  have hall := length_le_placeholdersBefore_trimEnd p [d] (Nat.le_of_lt hfree) hlast
  have hlength := htrim.length_le
  generalize Text.trimEnd (seat p slots (values ++ [d])) = t at htrim hall hlength
  rw [length_seat] at hlength
  by_cases hlt : placeholderAt values.length slots < t.length
  · -- the place of the character is still there
    right
    refine ⟨htrim, ?_⟩
    rw [List.length_append]
    exact (placeholderAt_lt_iff hlength).mp hlt
  · left
    have hfront : t = (seat p slots values).take t.length := by
      have heq := List.prefix_iff_eq_take.mp htrim
      have hle := placeholderAt_le_length values.length slots
      rw [seat_concat p hfree, List.take_append_of_le_length, List.take_take,
        Nat.min_eq_left (Nat.le_of_not_lt hlt)] at heq
      · exact heq
      · rw [List.length_take, length_seat]
        omega
    exact ⟨hfront ▸ List.take_prefix _ _, hall⟩

/-- The first placeholder of a row takes a character that is none of the
    literals. -/
theorem takes_singleton {s : Slot} {c : Char} (hs : (slots.filter Slot.isPlaceholder)[0]? = some s)
    (hc : s.accept c = some d) (hl : ∀ s' ∈ slots, s'.literal? ≠ some c) :
    Takes slots [c] [d] := by
  induction slots with
  | nil => cases hs
  | cons s' rest ih =>
    cases hl' : s'.literal? with
    | some l =>
      rw [List.filter_cons_of_neg (by simp [Slot.isPlaceholder_of_literal? hl'])] at hs
      refine .literal hl' ?_ (ih hs fun s'' hs'' => hl s'' (List.mem_cons_of_mem _ hs''))
      rw [List.mem_singleton]
      exact fun e => hl s' List.mem_cons_self (e ▸ hl')
    | none =>
      rw [List.filter_cons_of_pos (Slot.literal?_eq_none_iff.mp hl')] at hs
      cases hs
      exact .taken hl' hc (.done rest)

/-- **What the next placeholder takes comes behind what the row has taken.** -/
theorem Takes.concat {raw : Text} {s : Slot} {c : Char} (h : Takes slots raw values)
    (hs : (slots.filter Slot.isPlaceholder)[raw.length]? = some s) (hc : s.accept c = some d)
    (hl : ∀ s' ∈ slots, s'.literal? ≠ some c) : Takes slots (raw ++ [c]) (values ++ [d]) := by
  induction h with
  | done slots => exact takes_singleton hs hc hl
  | @literal s' rest l raw values hl' hr _ ih =>
    rw [List.filter_cons_of_neg (by simp [Slot.isPlaceholder_of_literal? hl'])] at hs
    refine .literal hl' ?_ (ih hs fun s'' hs'' => hl s'' (List.mem_cons_of_mem _ hs''))
    rw [List.mem_append, List.mem_singleton, not_or]
    exact ⟨hr, fun e => hl s' List.mem_cons_self (e ▸ hl')⟩
  | taken hs' hc' _ ih =>
    rw [List.filter_cons_of_pos (Slot.literal?_eq_none_iff.mp hs'), List.length_cons,
      List.getElem?_cons_succ] at hs
    exact .taken hs' hc' (ih hs fun s'' hs'' => hl s'' (List.mem_cons_of_mem _ hs''))

/-- A backspace covers the slot in front of the caret. -/
theorem deleteSpan_backspace {width i : Nat} (hi : i < width) :
    deleteSpan width (i + 1) 0 .backward = .ok (i, 1) := by
  rw [deleteSpan_eq, Nat.min_eq_left hi, Nat.zero_min, if_neg (fun h => nomatch h.2),
    if_pos ⟨rfl, rfl⟩]
  rfl

section Backspace

variable (hm : m.isEmpty = false) (hv : Takes m.slots values values)
  (hvd : Takes m.slots (values ++ [d]) (values ++ [d])) (hp : p ∉ values ++ [d])
  (h : HoldsWith p m.slots display values d)

include hm hv hvd hp h

/-- **A backspace over a slot without a value of its own** leaves what the
    display holds. -/
theorem deleteRange_holdsWith {i : Nat} (hlast : values.getLast?.any Text.isBlank = false)
    (hi : i < m.length)
    (hbefore : placeholdersBefore m.slots i = placeholdersBefore m.slots (i + 1))
    (hall : values.length + 1 ≤ placeholdersBefore m.slots i) :
    ∃ t, HoldsWith p m.slots t values d ∧
      m.deleteRange ⟨some p, true, keep⟩ display (i + 1) 0 .backward = ⟨t, i, .accepted⟩ := by
  have hspan := deleteSpan_backspace (i := i) hi
  have hfree : values.length < (m.slots.filter Slot.isPlaceholder).length :=
    Nat.lt_of_lt_of_le hall (placeholdersBefore_le m.slots i)
  rcases h with h | h
  · refine ⟨_, .inl (holds_trimEnd p h.room hlast), ?_⟩
    rw [deleteRange_of_holds hm hv (fun hmem => hp (List.mem_append_left _ hmem)) h hspan,
      hbefore, List.take_append_drop, m.format_eq hm, fill_of_takes p keep hv]
  · refine ⟨_, holdsWith_trimEnd p d hfree hlast, ?_⟩
    rw [deleteRange_of_holds hm hvd hp h hspan, hbefore, List.take_append_drop, m.format_eq hm,
      fill_of_takes p keep hvd]

/-- **A backspace over the character** leaves the values in front of it. -/
theorem deleteRange_holdsWith_last
    (hfree : values.length < (m.slots.filter Slot.isPlaceholder).length) :
    m.deleteRange ⟨some p, true, keep⟩ display (placeholderAt values.length m.slots + 1) 0
        .backward =
      ⟨m.format ⟨some p, true, keep⟩ values, placeholderAt values.length m.slots,
        .accepted⟩ := by
  have hget : m.slots[placeholderAt values.length m.slots]? = some _ :=
    (getElem?_placeholderAt _ m.slots).trans (List.getElem?_eq_getElem hfree)
  obtain ⟨hlt, -⟩ := List.getElem?_eq_some_iff.mp hget
  have hspan := deleteSpan_backspace hlt
  have hbefore := placeholdersBefore_placeholderAt (Nat.le_of_lt hfree)
  have hbehind : values.length + 1 ≤
      placeholdersBefore m.slots (placeholderAt values.length m.slots + 1) :=
    (placeholderAt_lt_iff hlt).mp (Nat.lt_succ_self _)
  rcases h with h | h
  · have hdrop := List.drop_of_length_le (Nat.le_of_succ_le hbehind)
    rw [deleteRange_of_holds hm hv (fun hmem => hp (List.mem_append_left _ hmem)) h hspan,
      hbefore, List.take_of_length_le (Nat.le_refl _), hdrop, List.append_nil]
  · have hlength : (values ++ [d]).length = values.length + 1 := List.length_append
    have hdrop := List.drop_of_length_le (Nat.le_trans (Nat.le_of_eq hlength) hbehind)
    rw [deleteRange_of_holds hm hvd hp h hspan, hbefore, List.take_left, hdrop, List.append_nil]

end Backspace

end HoldsWith

/-! ## 2. Backspaces in a field -/

namespace Field

section Runs

variable {f : Field} {v : Text} {c d : Char}

/-- A delete with nothing selected, where prompts are shown. -/
theorem delete_caretAt (hs : f.ShowsPrompts) (t : Text) (k : Nat) (side : Side) :
    ((f.withDisplay t).caretAt k).delete side =
      let out := f.engine.mask.deleteRange f.engine.options t k 0 side
      ((f.withDisplay out.text).caretAt out.caret, out.status) := by
  rw [delete_of_none (Nat.le_refl k)]
  exact apply_of_shows ((f.withDisplay t).caretAt k) hs _

/-- A character that the next placeholder takes is typed behind the values
    on display. -/
theorem typeChar_of_holds (hs : f.ShowsPrompts) (hm : f.engine.mask.isEmpty = false)
    (hnone : f.selStop ≤ f.selStart)
    (hcaret : f.caret = placeholderAt v.length f.engine.mask.slots)
    (hv : Holds f.engine.config.prompt f.engine.mask.slots f.slotText v) {s : Slot}
    (hget : f.engine.mask.slots[f.caret]? = some s) (hc : s.accept c = some d) :
    f.typeChar c =
      ((f.withDisplay (Text.trimEnd
          (seat f.engine.config.prompt f.engine.mask.slots (v ++ [d])))).caretAt
        (placeholderAt (v.length + 1) f.engine.mask.slots), .accepted) := by
  have hoff : f.OffLiterals := by
    intro s' hs'
    rw [hcaret] at hs'
    exact isPlaceholder_placeholderAt hs'
  have hfree : (f.engine.mask.slots.filter Slot.isPlaceholder)[v.length]? = some s := by
    rw [← getElem?_placeholderAt, ← hcaret, hget]
  have hinsert : f.engine.mask.insertChar f.engine.options f.slotText f.caret 0 c =
      ⟨Text.trimEnd (seat f.engine.config.prompt f.engine.mask.slots (v ++ [d])),
        placeholderAt (v.length + 1) f.engine.mask.slots, .accepted⟩ := by
    rw [hcaret]
    exact insertChar_of_holds hm hv hfree hc
  have hout : (f.engine.mask.insertChar f.engine.options f.slotText f.caret 0 c).status ≠
      .rejected := by
    rw [hinsert]
    exact fun h => nomatch h
  rw [typeChar_of_offLiterals hnone hoff hout, hinsert, apply_of_shows f hs]

section Backspaces

variable (hs : f.ShowsPrompts) (hm : f.engine.mask.isEmpty = false)
  (hv : Takes f.engine.mask.slots v v) (hvd : Takes f.engine.mask.slots (v ++ [d]) (v ++ [d]))
  (hp : f.engine.config.prompt ∉ v ++ [d]) (hlast : v.getLast?.any Text.isBlank = false)
  {t : Text} (h : HoldsWith f.engine.config.prompt f.engine.mask.slots t v d)

include hs hm hv hvd hp hlast h

/-- **Backspaces over the literals behind a character** move the caret and
    leave what the display holds. -/
theorem run_backspaces {n : Nat}
    (hn : placeholderAt v.length f.engine.mask.slots + n <
      placeholderAt (v.length + 1) f.engine.mask.slots) :
    let k := placeholderAt (v.length + 1) f.engine.mask.slots
    ∃ t', HoldsWith f.engine.config.prompt f.engine.mask.slots t' v d ∧
      ((f.withDisplay t).caretAt k).run (List.replicate n .backspace) =
        (f.withDisplay t').caretAt (k - n) := by
  intro k
  induction n with
  | zero => exact ⟨t, h, rfl⟩
  | succ n ih =>
    obtain ⟨t', ht', hrun⟩ := ih (by omega)
    -- the slot in front of the caret stands between two neighbouring placeholders
    obtain ⟨i, hi⟩ : ∃ i, k - n = i + 1 := ⟨k - n - 1, by omega⟩
    have hk : k ≤ f.engine.mask.slots.length := placeholderAt_le_length _ _
    have hlt : i < f.engine.mask.slots.length := by omega
    have hall : v.length < placeholdersBefore f.engine.mask.slots i :=
      (placeholderAt_lt_iff (Nat.le_of_lt hlt)).mp (by omega)
    have hbehind : ¬v.length + 1 < placeholdersBefore f.engine.mask.slots (i + 1) := by
      rw [← placeholderAt_lt_iff hlt]
      omega
    have hbefore : placeholdersBefore f.engine.mask.slots i =
        placeholdersBefore f.engine.mask.slots (i + 1) := by
      have hmono := placeholdersBefore_mono f.engine.mask.slots (Nat.le_add_right i 1)
      omega
    obtain ⟨t'', ht'', hdelete⟩ :=
      deleteRange_holdsWith hm hv hvd hp ht' hlast hlt hbefore hall
    refine ⟨t'', ht'', ?_⟩
    rw [List.replicate_succ', run_concat, hrun, hi]
    show (((f.withDisplay t').caretAt (i + 1)).delete .backward).1 = _
    have hout : f.engine.mask.deleteRange f.engine.options t' (i + 1) 0 .backward =
        ⟨t'', i, .accepted⟩ := hdelete
    have hcaret : k - (n + 1) = i := by omega
    rw [delete_caretAt hs, hout, hcaret]

/-- **As many backspaces as the character moved the caret on** leave the
    values in front of it. -/
theorem run_backspaces_last
    (hroom : v.length < (f.engine.mask.slots.filter Slot.isPlaceholder).length) :
    let first := placeholderAt v.length f.engine.mask.slots
    let k := placeholderAt (v.length + 1) f.engine.mask.slots
    ((f.withDisplay t).caretAt k).run (List.replicate (k - first) .backspace) =
      (f.withDisplay (f.engine.focusText v)).caretAt first := by
  intro first k
  have hlt : first < k := by
    have hnext := placeholderAt_add_one v.length f.engine.mask.slots hroom
    omega
  obtain ⟨n, hn⟩ : ∃ n, k - first = n + 1 := ⟨k - first - 1, by omega⟩
  -- over the literals first, then over the character
  obtain ⟨t', ht', hrun⟩ := run_backspaces hs hm hv hvd hp hlast h (n := n) (by omega)
  have hcaret : k - n = first + 1 := by omega
  have hdelete : f.engine.mask.deleteRange f.engine.options t' (first + 1) 0 .backward =
      ⟨f.engine.focusText v, first, .accepted⟩ := deleteRange_holdsWith_last hm hv hvd hp ht' hroom
  rw [hn, List.replicate_succ', run_concat, hrun, hcaret]
  show (((f.withDisplay t').caretAt (first + 1)).delete .backward).1 = _
  rw [delete_caretAt hs, hdelete]

end Backspaces

/-- **Backspaces undo a keystroke.** Let a field with focus show a text that
    fills the mask from the left with its own characters, none of them the
    prompt and the last not blank; let nothing be selected and the caret
    stand on the placeholder behind them; and let that placeholder make of
    a key a character that is neither the prompt nor a literal. The key is
    taken and moves the caret on; each backspace moves it back by one slot;
    and with as many of them as it went on the display, the value and the
    caret are what they were. -/
theorem backspaces_typeChar (hf : f.Reachable) (hfocus : f.focused = true)
    (hm : f.engine.mask.isEmpty = false) (hv : LeftFilled f.engine.mask.slots v v)
    (hp : f.engine.config.prompt ∉ v) (hlast : v.getLast?.any Text.isBlank = false)
    (hdisplay : f.display = f.engine.focusText v) (hnone : f.selStop ≤ f.selStart)
    (hcaret : f.caret = placeholderAt v.length f.engine.mask.slots) {s : Slot}
    (hget : f.engine.mask.slots[f.caret]? = some s) (hc : s.accept c = some d)
    (hdp : d ≠ f.engine.config.prompt)
    (hdl : ∀ s' ∈ f.engine.mask.slots, s'.literal? ≠ some d) :
    let g := (f.typeChar c).1
    let back := fun n => g.run (List.replicate n .backspace)
    let u := back (g.caret - f.caret)
    ((f.typeChar c).2 = .accepted ∧ f.caret < g.caret) ∧
    (∀ n ≤ g.caret - f.caret, (back n).caret = g.caret - n) ∧
    u.display = f.display ∧ u.value = f.value ∧ u.caret = f.caret := by
  intro g back u
  have hs : f.ShowsPrompts := .inl hfocus
  have hfree : (f.engine.mask.slots.filter Slot.isPlaceholder)[v.length]? = some s := by
    rw [← getElem?_placeholderAt, ← hcaret, hget]
  have hroom := (List.getElem?_eq_some_iff.mp hfree).1
  have hvd : Takes f.engine.mask.slots (v ++ [d]) (v ++ [d]) :=
    hv.takes.concat hfree (Slot.accept_of_accept hc) hdl
  have hpd : f.engine.config.prompt ∉ v ++ [d] := by
    rw [List.mem_append, List.mem_singleton, not_or]
    exact ⟨hp, fun e => hdp e.symm⟩
  have hholds : Holds f.engine.config.prompt f.engine.mask.slots f.slotText v := by
    rw [slotText_of_focused hf hfocus, hdisplay]
    exact f.engine.holds_focusText hm hv.takes hv.room hlast
  have htyped := typeChar_of_holds hs hm hnone hcaret hholds hget hc
  have hg : g = (f.withDisplay _).caretAt _ := congrArg Prod.fst htyped
  have hgcaret : g.caret = placeholderAt (v.length + 1) f.engine.mask.slots :=
    congrArg Field.caret hg
  have hlt : f.caret < g.caret := by
    rw [hgcaret, hcaret, placeholderAt_add_one _ _ hroom]
    omega
  have hwith := holdsWith_trimEnd f.engine.config.prompt d hroom hlast
  have hall : u = f.caretAt f.caret := by
    show g.run (List.replicate (g.caret - f.caret) .backspace) = _
    rw [hgcaret, hg, hcaret, run_backspaces_last hs hm hv.takes hvd hpd hlast hwith hroom,
      ← hdisplay, withDisplay_display (hidden_of_focused hf hfocus)]
  refine ⟨⟨congrArg Prod.snd htyped, hlt⟩, fun n hn => ?_, ?_⟩
  · rcases Nat.lt_or_eq_of_le hn with hn | rfl
    · have hn' : placeholderAt v.length f.engine.mask.slots + n <
          placeholderAt (v.length + 1) f.engine.mask.slots := by omega
      obtain ⟨t, -, hrun⟩ := run_backspaces hs hm hv.takes hvd hpd hlast hwith hn'
      show (g.run (List.replicate n .backspace)).caret = _
      rw [hgcaret, hg, hrun]
      rfl
    · show u.caret = _
      rw [hall, Nat.sub_sub_self (Nat.le_of_lt hlt)]
      rfl
  · rw [hall]
    exact ⟨rfl, rfl, rfl⟩

/-- A blank typed in front of blank literals: it is trimmed off with them,
    and three backspaces give the field back. -/
theorem backspaces_typeChar_blank :
    let f := (ofConfig (Config.ofMask "99\\ \\ ".toList)).run
      [.focus, .setValue "1".toList, .select 1 1]
    let g := (f.typeChar '\u00a0').1
    let u := g.run [.backspace, .backspace, .backspace]
    (f.Reachable ∧ f.focused = true ∧ f.engine.mask.isEmpty = false ∧
      LeftFilled f.engine.mask.slots "1".toList "1".toList ∧
      f.display = f.engine.focusText "1".toList ∧ f.display = "1_".toList ∧ f.caret = 1) ∧
    (g.display = "1".toList ∧ g.caret = 4) ∧
    u.display = f.display ∧ u.value = f.value ∧ u.caret = f.caret := by
  intro f g u
  have hf : f.Reachable := ⟨_, _, rfl⟩
  have hfocus : f.focused = true := by decide +kernel
  have hmask : f.engine.mask = Mask.compile "99\\ \\ ".toList := by decide +kernel
  have hp : f.engine.config.prompt = '_' := by decide +kernel
  have hm : f.engine.mask.isEmpty = false := by rw [hmask]; decide
  have hv : LeftFilled f.engine.mask.slots "1".toList "1".toList := by
    rw [hmask]
    exact ⟨by decide, by decide, by decide⟩
  have hdisplay : f.display = f.engine.focusText "1".toList ∧ f.display = "1_".toList := by
    decide +kernel
  have hcaret : f.caret = 1 := by decide +kernel
  have hnone : f.selStop ≤ f.selStart := by decide +kernel
  have hget : f.engine.mask.slots[f.caret]? = some ⟨.placeholder .digitOrSpace, .plain, false⟩ := by
    rw [hmask, hcaret]
    decide
  have hplace : f.caret = placeholderAt "1".toList.length f.engine.mask.slots := by
    rw [hmask, hcaret]
    decide
  have hliteral : ∀ s' ∈ f.engine.mask.slots, s'.literal? ≠ some '\u00a0' := by
    rw [hmask]
    decide
  have hg : g.display = "1".toList ∧ g.caret = 4 := by decide +kernel
  obtain ⟨-, -, hback⟩ := backspaces_typeChar hf hfocus hm hv (by rw [hp]; decide) (by decide)
    hdisplay.1 hnone hplace hget (c := '\u00a0') (d := '\u00a0') (by decide) (by rw [hp]; decide)
    hliteral
  have hu : g.run (List.replicate (g.caret - f.caret) .backspace) = u := by
    rw [hg.2, hcaret]
    rfl
  refine ⟨⟨hf, hfocus, hm, hv, hdisplay.1, hdisplay.2, hcaret⟩, hg, ?_⟩
  rw [← hu]
  exact hback

end Runs

end Field

end InputMask
