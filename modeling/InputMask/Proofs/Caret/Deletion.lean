/-
  File:      InputMask/Proofs/Caret/Deletion.lean
  Subject:   What a delete takes out of a display, and what moves up.

  A delete reads the value on both sides of the slots it covers and formats
  it anew, so nothing but the characters of those slots is lost, and what
  stands behind moves into the places that are free.

  * `deleteSpan_eq` -- the slots that a delete covers, and when there are
    none to cover;
  * `deleteRange_of_holds` -- what is left of the values that a display
    holds;
  * `Takes.of_sublist` -- where all placeholders are of one kind, what is
    left of a text fills the row from the left again;
  * **`deleteRange_format`** -- a delete from the display of a text gives
    the display of the text without the characters of the deleted slots.
-/
import InputMask.Proofs.Caret.Edit
import InputMask.Proofs.Format.Held
import InputMask.Proofs.Mask.Spelling
namespace InputMask

open InputMask.Field (placeholderAt)

/-! ## 1. The slots of a delete -/

/-- Nothing stands on the side of a position that a delete reaches for. -/
def AtEdge (width p : Nat) : Side → Prop
  | .backward => p = 0
  | .forward => width ≤ p

instance (width p : Nat) (side : Side) : Decidable (AtEdge width p side) :=
  match side with
  | .backward => inferInstanceAs (Decidable (p = 0))
  | .forward => inferInstanceAs (Decidable (width ≤ p))

/-- **What a delete covers**: the positions asked for as far as they exist,
    else the one beside the caret, unless the caret is at the edge. -/
theorem deleteSpan_eq (width p count : Nat) (side : Side) :
    let caret := min p width
    let covered := min count (width - caret)
    deleteSpan width p count side =
      if covered = 0 ∧ AtEdge width caret side then .error caret
      else .ok (if covered = 0 ∧ side = .backward then caret - 1 else caret, max covered 1) := by
  intro caret covered
  by_cases hc : covered = 0
  · cases side with
    | backward =>
      have hbeside : deleteSpan width p count .backward =
          if caret = 0 then .error 0 else .ok (caret - 1, 1) := if_neg (fun h => h hc)
      rw [hbeside]
      by_cases hp : caret = 0
      · rw [if_pos hp, if_pos ⟨hc, hp⟩, hp]
      · rw [if_neg hp, if_neg (fun h => hp h.2), if_pos ⟨hc, rfl⟩, hc, Nat.zero_max]
    | forward =>
      have hbeside : deleteSpan width p count .forward =
          if width ≤ caret then .error caret else .ok (caret, 1) := if_neg (fun h => h hc)
      rw [hbeside]
      by_cases hp : width ≤ caret
      · rw [if_pos hp, if_pos ⟨hc, hp⟩]
      · rw [if_neg hp, if_neg (fun h => hp h.2), if_neg (fun h => nomatch h.2), hc, Nat.zero_max]
  · have hasked : deleteSpan width p count side = .ok (caret, covered) := if_pos hc
    have hmax : max covered 1 = covered := Nat.max_eq_left (Nat.pos_of_ne_zero hc)
    rw [hasked, if_neg (fun h => hc h.1), if_neg (fun h => hc h.1), hmax]

/-- Positions that exist are covered as they are asked for. -/
theorem deleteSpan_range {width first stop : Nat} (hlt : first < stop) (hstop : stop ≤ width)
    (side : Side) : deleteSpan width first (stop - first) side = .ok (first, stop - first) := by
  have hcaret : min first width = first := by omega
  have hcovered : min (stop - first) (width - first) = stop - first := by omega
  have hsome : stop - first ≠ 0 := by omega
  rw [deleteSpan_eq, hcaret, hcovered, if_neg (fun h => hsome h.1), if_neg (fun h => hsome h.1),
    Nat.max_eq_left (Nat.pos_of_ne_zero hsome)]

section Spans

variable {m : Mask} {o : Options} {display : Text} {p count : Nat} {side : Side}

/-- With nothing to cover the display stays. -/
theorem Mask.deleteRange_of_error {caret : Nat} (hm : m.isEmpty = false)
    (h : deleteSpan m.length p count side = .error caret) :
    m.deleteRange o display p count side = ⟨display, caret, .rejected⟩ := by
  simp only [deleteRange, hm, h]
  rfl

/-- Else the value in front of the covered slots and behind them is
    formatted anew. -/
theorem Mask.deleteRange_of_ok {first n : Nat} (hm : m.isEmpty = false)
    (h : deleteSpan m.length p count side = .ok (first, n)) :
    m.deleteRange o display p count side =
      ⟨m.format o (m.unmaskRange ⟨o.prompt, false, false⟩ display 0 first ++
        m.unmaskRange ⟨o.prompt, false, false⟩ display (first + n) m.length), first,
        .accepted⟩ := by
  simp only [deleteRange, hm, h]
  rfl

end Spans

/-! ## 2. What is left -/

section Left

variable {m : Mask} {p : Char} {keep : Bool} {display raw values w : Text} {slots : List Slot}

/-- **A delete leaves the other values** of those that a display holds. -/
theorem deleteRange_of_holds {start count first n : Nat} {side : Side} (hm : m.isEmpty = false)
    (ht : Takes m.slots raw values) (hp : p ∉ values) (h : Holds p m.slots display values)
    (hspan : deleteSpan m.length start count side = .ok (first, n)) :
    m.deleteRange ⟨some p, true, keep⟩ display start count side =
      ⟨m.format ⟨some p, true, keep⟩ (values.take (placeholdersBefore m.slots first) ++
        values.drop (placeholdersBefore m.slots (first + n))), first, .accepted⟩ := by
  rw [Mask.deleteRange_of_ok hm hspan, unmaskRange_front ht hp h,
    unmaskRange_back ht hp h (deleteSpan_ok hspan)]

/-- **What is left of a text fills the row again**, where every placeholder
    takes every character of the text as it is. -/
theorem Takes.of_sublist (h : Takes slots raw values)
    (haccept : ∀ s ∈ slots, s.isPlaceholder = true → ∀ c ∈ raw, s.accept c = some c)
    (hw : w.Sublist raw) : Takes slots w w := by
  induction h generalizing w with
  | done slots =>
    obtain rfl : w = [] := List.eq_nil_of_sublist_nil hw
    exact .done slots
  | literal hl hr _ ih =>
    exact .literal hl (fun hmem => hr (hw.subset hmem))
      (ih (fun s hs => haccept s (List.mem_cons_of_mem _ hs)) hw)
  | @taken s rest c d raw values hs _ _ ih =>
    have hrest : ∀ {u : Text}, u.Sublist raw → Takes rest u u :=
      ih fun s' hs' hph e he =>
        haccept s' (List.mem_cons_of_mem _ hs') hph e (List.mem_cons_of_mem _ he)
    cases w with
    | nil => exact .done _
    | cons e w =>
      -- whichever character comes first now, the placeholder takes it
      have he := haccept s List.mem_cons_self (Slot.literal?_eq_none_iff.mp hs) e
        (hw.subset List.mem_cons_self)
      exact .taken hs he (hrest (List.Sublist.of_cons_cons hw))

end Left

/-! ## 3. Masks of one kind -/

/-- All placeholders of a row have one category and one case mode. -/
def OneKind (slots : List Slot) : Prop :=
  ∀ s ∈ slots, ∀ s' ∈ slots, s.isPlaceholder = true → s'.isPlaceholder = true →
    s.kind = s'.kind ∧ s.caseMode = s'.caseMode

instance (slots : List Slot) : Decidable (OneKind slots) :=
  inferInstanceAs (Decidable (∀ s ∈ slots, ∀ s' ∈ slots, _ → _ → _))

section OneKind

variable {source v : Text}

/-- No placeholder of a mask is escaped. -/
theorem escaped_of_mem_compile {s : Slot} (h : s ∈ (Mask.compile source).slots)
    (hs : s.isPlaceholder = true) : s.escaped = false := by
  rw [← Bool.not_eq_true]
  intro he
  obtain ⟨c, hc⟩ := (spellable_of_mem_compile h).escaped he
  unfold Slot.isPlaceholder at hs
  rw [hc] at hs
  cases hs

/-- Each character of a text that fills a row is taken as it is somewhere. -/
theorem LeftFilled.exists_accept {slots : List Slot} (h : LeftFilled slots v v) {c : Char}
    (hc : c ∈ v) : ∃ s ∈ slots, s.isPlaceholder = true ∧ s.accept c = some c := by
  obtain ⟨i, hi, rfl⟩ := List.getElem_of_mem hc
  have hlt : i < (slots.filter Slot.isPlaceholder).length := Nat.lt_of_lt_of_le hi h.room
  obtain ⟨hmem, hs⟩ := List.mem_filter.mp (List.getElem_mem hlt)
  have htaken := congrArg (fun l => l[i]?) h.taken
  simp only [List.getElem?_zipWith, List.getElem?_map, List.getElem?_eq_getElem hi,
    List.getElem?_eq_getElem hlt] at htaken
  exact ⟨_, hmem, hs, Option.some.inj htaken⟩

/-- **Under a mask of one kind** every placeholder takes every character of
    such a text. -/
theorem accept_of_oneKind (hk : OneKind (Mask.compile source).slots)
    (hv : LeftFilled (Mask.compile source).slots v v) :
    ∀ s ∈ (Mask.compile source).slots, s.isPlaceholder = true → ∀ c ∈ v,
      s.accept c = some c := by
  intro s hmem hs c hc
  obtain ⟨s', hmem', hs', haccept⟩ := hv.exists_accept hc
  obtain ⟨hkind, hmode⟩ := hk s hmem s' hmem' hs hs'
  have hescaped := (escaped_of_mem_compile hmem hs).trans (escaped_of_mem_compile hmem' hs').symm
  have hsame : s = s' := by
    cases s
    cases s'
    cases hkind
    cases hmode
    cases hescaped
    rfl
  rw [hsame, haccept]

end OneKind

/-! ## 4. Deletes from the display of a text -/

/-- **A delete removes just the characters of the deleted slots.** Let a
    text fill the mask from the left with its own characters, none of them
    the prompt and the last not blank. A delete from its display is refused,
    and changes nothing, exactly where it covers no slot and the caret is at
    the edge. Else the caret goes to the first deleted slot, and the display
    is that of the text without the characters of the deleted slots; where
    all placeholders are of one kind, these characters fill the mask from
    the left. -/
theorem deleteRange_format (source : Text) (hm : (Mask.compile source).isEmpty = false) (p : Char)
    (keep : Bool) {v : Text} (hv : LeftFilled (Mask.compile source).slots v v) (hp : p ∉ v)
    (hlast : v.getLast?.any Text.isBlank = false) (start count : Nat) (side : Side) :
    let m := Mask.compile source
    let o : Options := ⟨some p, true, keep⟩
    let out := m.deleteRange o (m.format o v) start count side
    let caret := min start m.length
    let covered := min count (m.length - caret)
    let first := if covered = 0 ∧ side = .backward then caret - 1 else caret
    let stop := first + max covered 1
    let left := valuesOutside m.slots first stop v
    (out.status = .rejected ↔ covered = 0 ∧ AtEdge m.length caret side) ∧
    (out.status = .rejected → out.text = m.format o v) ∧
    (out.status ≠ .rejected →
      out.caret = first ∧ out.text = m.format o left ∧
        (OneKind m.slots → out.text = Text.trimEnd (seat p m.slots left))) := by
  intro m o out caret covered first stop left
  have hdisplay : m.format o v = Text.trimEnd (seat p m.slots v) := by
    rw [m.format_eq hm, fill_of_takes p keep hv.takes]
  have hholds : Holds p m.slots (m.format o v) v := hdisplay ▸ holds_trimEnd p hv.room hlast
  have hspan := deleteSpan_eq m.length start count side
  by_cases hedge : covered = 0 ∧ AtEdge m.length caret side
  · have hout : out = ⟨m.format o v, caret, .rejected⟩ :=
      Mask.deleteRange_of_error hm (hspan.trans (if_pos hedge))
    rw [hout]
    exact ⟨iff_of_true rfl hedge, fun _ => rfl, fun h => absurd rfl h⟩
  · have hok : deleteSpan m.length start count side = .ok (first, max covered 1) :=
      hspan.trans (if_neg hedge)
    have hstop : stop ≤ m.slots.length := deleteSpan_ok hok
    have hleft : left = v.take (placeholdersBefore m.slots first) ++
        v.drop (placeholdersBefore m.slots stop) :=
      valuesOutside_eq (Nat.le_add_right _ _) hstop v
    have hout : out = ⟨m.format o left, first, .accepted⟩ := by
      rw [hleft]
      exact deleteRange_of_holds hm hv.takes hp hholds hok
    rw [hout]
    refine ⟨iff_of_false (fun h => nomatch h) hedge, fun h => (nomatch h), fun _ => ⟨rfl, rfl, ?_⟩⟩
    intro hk
    have hsub : left.Sublist v := by
      have hmap : left.Sublist (v.zipIdx.map Prod.fst) := List.filter_sublist.map Prod.fst
      rwa [List.zipIdx_map_fst] at hmap
    rw [m.format_eq hm, fill_of_takes p keep (hv.takes.of_sublist (accept_of_oneKind hk hv) hsub)]

/-- A date, the second digit of its day deleted together with the separator
    behind it; and nothing left to delete in front of it. -/
theorem deleteRange_format_date :
    let m := Mask.compile "00/00".toList
    let o : Options := ⟨some '_', true, false⟩
    let display := m.format o "1234".toList
    let out := m.deleteRange o display 1 2 .forward
    (m.isEmpty = false ∧ LeftFilled m.slots "1234".toList "1234".toList ∧
      '_' ∉ "1234".toList ∧ "1234".toList.getLast?.any Text.isBlank = false ∧
      OneKind m.slots) ∧
    (out.status ≠ .rejected ∧ out.caret = 1 ∧ out.text = m.format o "134".toList ∧
      out.text = "13/4_".toList) ∧
    (m.deleteRange o display 0 0 .backward).status = .rejected := by
  intro m o display out
  have hm : m.isEmpty = false := by decide
  have hv : LeftFilled m.slots "1234".toList "1234".toList := ⟨by decide, by decide, by decide⟩
  have hp : '_' ∉ "1234".toList := by decide
  have hlast : "1234".toList.getLast?.any Text.isBlank = false := by decide
  have hk : OneKind m.slots := by decide
  obtain ⟨hrefused, -, hdeleted⟩ :=
    deleteRange_format "00/00".toList hm '_' false hv hp hlast 1 2 .forward
  obtain ⟨hedge, -, -⟩ :=
    deleteRange_format "00/00".toList hm '_' false hv hp hlast 0 0 .backward
  have hout : out.status ≠ .rejected := fun h => absurd (hrefused.mp h) (by decide)
  obtain ⟨hcaret, htext, hseat⟩ := hdeleted hout
  have hleft : valuesOutside m.slots 1 3 "1234".toList = "134".toList := by decide
  have hshown : Text.trimEnd (seat '_' m.slots "134".toList) = "13/4_".toList := by decide
  refine ⟨⟨hm, hv, hp, hlast, hk⟩, ⟨hout, hcaret, ?_, ?_⟩, hedge.mpr (by decide)⟩
  · rw [← hleft]
    exact htext
  · rw [← hshown, ← hleft]
    exact hseat hk

end InputMask
