/-
  File:      InputMask/Proofs/Caret/Edit.lean
  Subject:   What an edit leaves: the text and the caret after an insert
             or a delete.

  * `Mask.insertChar_cases` -- under a mask an insert leaves the text as
    it is, or a placeholder takes the character and the replaced slots
    behind it are blank (`Mask.overwritten`);
  * `related_insertChar` -- an insert keeps whatever relates a display to
    its slots, if blank slots and accepted characters are so related;
  * `TrimmedDisplay` -- a full display without its blank end, which is
    what formatting gives and what every edit keeps
    (`trimmedDisplay_insertChar`, `trimmedDisplay_deleteRange`);
  * `caret_insertChar_le`, `caret_deleteRange_le` -- the caret after an
    edit is a position of the mask, or of the new text where there is
    no mask;
  * `Mask.insertChar_rejected`, `Mask.deleteRange_rejected` -- a refused
    edit leaves the text and says where it was tried.
-/
import InputMask.Proofs.Caret.Position
import InputMask.Proofs.Format.FixedPoint
namespace InputMask

/-! ## 1. Inserts -/

namespace Mask

/-- The display at full width with a character at `p` and blank slots
    behind it up to `stop`. -/
def overwritten (m : Mask) (prompt : Option Char) (display : Text) (p stop : Nat) (d : Char) :
    Text :=
  (m.padded prompt display).take p ++ d :: cells prompt ((m.slots.take stop).drop (p + 1)) ++
    (m.padded prompt display).drop stop

/-- One place of a padded display overwritten. -/
theorem overwritten_one (m : Mask) (prompt : Option Char) (display : Text) (p : Nat) (d : Char) :
    m.overwritten prompt display p (p + 1) d =
      (m.padded prompt display).take p ++ d :: (m.padded prompt display).drop (p + 1) := by
  have hnone : (m.slots.take (p + 1)).drop (p + 1) = [] :=
    List.drop_of_length_le (List.length_take_le _ _)
  unfold overwritten
  rw [hnone]
  exact List.append_assoc _ _ _

section Insert

variable {m : Mask} (o : Options) (display : Text) (p count : Nat) (c : Char) {s : Slot}

/-- Behind the last slot nothing is inserted. -/
theorem insertChar_behind (hm : m.isEmpty = false) (hp : m.length ≤ p) :
    m.insertChar o display p count c = ⟨display, m.length, .rejected⟩ := by
  have hget : m.slots[m.length]? = none := List.getElem?_eq_none (Nat.le_refl _)
  simp only [insertChar, hm, Nat.min_eq_right hp, hget]
  rfl

/-- A character that its placeholder refuses changes nothing. -/
theorem insertChar_refused (hm : m.isEmpty = false) (hs : m.slots[p]? = some s)
    (hl : s.literal? = none) (hc : s.accept c = none) :
    m.insertChar o display p count c = ⟨display, p, .rejected⟩ := by
  have hlt : p < m.length := (List.getElem?_eq_some_iff.mp hs).1
  simp only [insertChar, hm, Nat.min_eq_left (Nat.le_of_lt hlt), hs, hl, hc]
  rfl

/-- A placeholder that takes the character shows what it makes of it. -/
theorem insertChar_taken {d : Char} (hm : m.isEmpty = false) (hs : m.slots[p]? = some s)
    (hl : s.literal? = none) (hc : s.accept c = some d) :
    m.insertChar o display p count c =
      ⟨Text.trimEnd (m.overwritten o.prompt display p (m.insertStop p count) d),
        m.nextEditable (p + 1), .accepted⟩ := by
  have hlt : p < m.length := (List.getElem?_eq_some_iff.mp hs).1
  simp only [insertChar, hm, Nat.min_eq_left (Nat.le_of_lt hlt), hs, hl, hc]
  rfl

/-- On a literal slot the text stays, whether the caret goes on or not. -/
theorem insertChar_literal {l : Char} (hm : m.isEmpty = false) (hs : m.slots[p]? = some s)
    (hl : s.literal? = some l) :
    m.insertChar o display p count c =
      if c = l ∨ (s.accept c).isSome then ⟨display, m.nextEditable (p + 1), .skippedLiteral⟩
      else ⟨display, p, .rejected⟩ := by
  have hlt : p < m.length := (List.getElem?_eq_some_iff.mp hs).1
  simp only [insertChar, hm, Nat.min_eq_left (Nat.le_of_lt hlt), hs, hl]
  rfl

/-- **An insert under a mask** leaves the text as it is, where no
    placeholder takes the character, or a placeholder takes it. -/
theorem insertChar_cases (hm : m.isEmpty = false) :
    ((∃ caret ≤ m.length, ∃ status, m.insertChar o display p count c = ⟨display, caret, status⟩ ∧
        status ≠ .accepted) ∧
      ∀ s, m.slots[p]? = some s → s.literal? = none → s.accept c = none) ∨
    ∃ s d, m.slots[p]? = some s ∧ s.literal? = none ∧ s.accept c = some d ∧
      m.insertChar o display p count c =
        ⟨Text.trimEnd (m.overwritten o.prompt display p (m.insertStop p count) d),
          m.nextEditable (p + 1), .accepted⟩ := by
  cases hs : m.slots[p]? with
  | none =>
    have hp : m.length ≤ p := List.getElem?_eq_none_iff.mp hs
    exact .inl ⟨⟨_, Nat.le_refl _, _, insertChar_behind o display p count c hm hp, nofun⟩, nofun⟩
  | some s =>
    have hlt : p < m.length := (List.getElem?_eq_some_iff.mp hs).1
    cases hl : s.literal? with
    | some l =>
      have heq := insertChar_literal o display p count c hm hs hl
      left
      constructor
      · split at heq
        · exact ⟨_, m.nextEditable_le _, _, heq, nofun⟩
        · exact ⟨_, Nat.le_of_lt hlt, _, heq, nofun⟩
      · rintro s' ⟨⟩ hnone
        exact nomatch hl.symm.trans hnone
    | none =>
      cases hc : s.accept c with
      | none =>
        have heq := insertChar_refused o display p count c hm hs hl hc
        refine .inl ⟨⟨_, Nat.le_of_lt hlt, _, heq, nofun⟩, ?_⟩
        rintro s' ⟨⟩ -
        exact hc
      | some d =>
        exact .inr ⟨s, d, rfl, hl, hc, insertChar_taken o display p count c hm hs hl hc⟩

end Insert

section Kept

variable {m : Mask} {o : Options} {display : Text} {p count : Nat} {c : Char}

/-- An insert under a mask that is not accepted leaves the text as it is. -/
theorem text_of_not_accepted (hm : m.isEmpty = false)
    (h : (m.insertChar o display p count c).status ≠ .accepted) :
    (m.insertChar o display p count c).text = display := by
  rcases insertChar_cases o display p count c hm with
    ⟨⟨caret, -, status, heq, -⟩, -⟩ | ⟨s, d, -, -, -, heq⟩
  · rw [heq]
  · rw [heq] at h
    exact absurd rfl h

/-- A refused insert leaves the text as it is. -/
theorem text_of_rejected (h : (m.insertChar o display p count c).status = .rejected) :
    (m.insertChar o display p count c).text = display := by
  cases hm : m.isEmpty with
  | true =>
    simp only [insertChar, hm, if_true, insertFree] at h
    cases h
  | false =>
    refine text_of_not_accepted hm fun haccepted => ?_
    rw [h] at haccepted
    cases haccepted

end Kept

end Mask

/-! ## 2. Edits of trimmed displays -/

/-- **A full display without its blank end.** -/
def TrimmedDisplay (p : Char) (slots : List Slot) (t : Text) : Prop :=
  ∃ display, FullDisplay p slots display ∧ t = Text.trimEnd display

section Trimmed

variable {m : Mask} {p : Char} {keep : Bool} {t : Text}

theorem TrimmedDisplay.length_le (h : TrimmedDisplay p m.slots t) : t.length ≤ m.length := by
  obtain ⟨display, hd, rfl⟩ := h
  exact hd.length_trimEnd_le

/-- Formatting gives a trimmed display. -/
theorem trimmedDisplay_format (hm : m.isEmpty = false) (raw : Text) :
    TrimmedDisplay p m.slots (m.format ⟨some p, true, keep⟩ raw) :=
  ⟨_, (laid_fill p keep m.slots raw).fullDisplay, m.format_eq hm _ raw⟩

/-- A trimmed display is padded to a full one. -/
theorem TrimmedDisplay.fullDisplay_padded (h : TrimmedDisplay p m.slots t) :
    FullDisplay p m.slots (m.padded (some p) t) := by
  obtain ⟨display, hd, rfl⟩ := h
  exact forall₂_padded (fun _ _ => shows_blank) hd

section Related

variable {R : Slot → Char → Prop}

/-- Overwriting keeps a row of characters related to its slots, where the
    slot is related to the new character. -/
theorem forall₂_overwritten {s : Slot} {i stop : Nat} {d : Char}
    (hR : ∀ s c, s.blank (some p) = some c → R s c)
    (h : List.Forall₂ R m.slots (m.padded (some p) t)) (hs : m.slots[i]? = some s)
    (hstop : i < stop) (hd : R s d) :
    List.Forall₂ R m.slots (m.overwritten (some p) t i stop d) := by
  have hsplit : m.slots.take i ++ s :: (m.slots.take stop).drop (i + 1) ++ m.slots.drop stop =
      m.slots := by
    have hget : (m.slots.take stop)[i]? = some s := by rw [List.getElem?_take_of_lt hstop, hs]
    obtain ⟨hlt, rfl⟩ := List.getElem?_eq_some_iff.mp hget
    have htake : m.slots.take i = (m.slots.take stop).take i := by
      rw [List.take_take, Nat.min_eq_left (Nat.le_of_lt hstop)]
    rw [← List.drop_eq_getElem_cons hlt, htake, List.take_append_drop, List.take_append_drop]
  have hblank := forall₂_blanks hR ((m.slots.take stop).drop (i + 1))
  rw [← Mask.cells_some] at hblank
  have hall : List.Forall₂ R
      (m.slots.take i ++ s :: (m.slots.take stop).drop (i + 1) ++ m.slots.drop stop)
      (m.overwritten (some p) t i stop d) :=
    List.rel_append (List.rel_append (List.forall₂_take i h) (.cons hd hblank))
      (List.forall₂_drop stop h)
  rwa [hsplit] at hall

/-- **An insert keeps what relates a display to its slots**, if that holds
    of blank forms and of what a placeholder makes of a character. -/
theorem related_insertChar (hm : m.isEmpty = false)
    (hR : ∀ s c, s.blank (some p) = some c → R s c)
    (haccept : ∀ s c d, s.literal? = none → s.accept c = some d → R s d)
    (h : ∃ display, List.Forall₂ R m.slots display ∧ t = Text.trimEnd display)
    (keepPrompt : Bool) (i count : Nat) (c : Char) :
    ∃ display, List.Forall₂ R m.slots display ∧
      (m.insertChar ⟨some p, keepPrompt, keep⟩ t i count c).text = Text.trimEnd display := by
  rcases Mask.insertChar_cases ⟨some p, keepPrompt, keep⟩ t i count c hm with
    ⟨⟨caret, -, status, heq, -⟩, -⟩ | ⟨s, d, hs, hl, hc, heq⟩
  · rw [heq]
    exact h
  · have hlt : i < m.length := (List.getElem?_eq_some_iff.mp hs).1
    obtain ⟨display, hd, rfl⟩ := h
    have hpadded := forall₂_padded hR hd
    rw [heq]
    exact ⟨_, forall₂_overwritten hR hpadded hs (m.lt_insertStop i count) (haccept s c d hl hc),
      rfl⟩

end Related

/-- **An insert keeps a trimmed display.** -/
theorem trimmedDisplay_insertChar (hm : m.isEmpty = false) (h : TrimmedDisplay p m.slots t)
    (keepPrompt : Bool) (i count : Nat) (c : Char) :
    TrimmedDisplay p m.slots (m.insertChar ⟨some p, keepPrompt, keep⟩ t i count c).text :=
  related_insertChar hm (fun _ _ => shows_blank)
    (fun _ _ _ hl hc => (shows_placeholder hl).mpr (.inr (Slot.accept_of_accept hc)))
    h keepPrompt i count c

/-- **A delete keeps a trimmed display**: it is left alone or formatted anew. -/
theorem trimmedDisplay_deleteRange (hm : m.isEmpty = false) (h : TrimmedDisplay p m.slots t)
    (i count : Nat) (side : Side) :
    TrimmedDisplay p m.slots (m.deleteRange ⟨some p, true, keep⟩ t i count side).text := by
  unfold Mask.deleteRange
  rw [hm, if_neg Bool.false_ne_true]
  split
  · exact h
  · exact trimmedDisplay_format hm _

end Trimmed

/-! ## 3. The caret after an edit -/

/-- The last position of the caret on a display: the width of the mask,
    or of the text where there is no mask. -/
def Mask.lastPosition (m : Mask) (t : Text) : Nat :=
  if m.isEmpty then t.length else m.length

section Carets

variable (m : Mask) (o : Options) (t : Text) (p count : Nat)

theorem Mask.lastPosition_of_isEmpty {m : Mask} (hm : m.isEmpty = true) (t : Text) :
    m.lastPosition t = t.length :=
  if_pos hm

theorem Mask.lastPosition_of_not {m : Mask} (hm : m.isEmpty = false) (t : Text) :
    m.lastPosition t = m.length :=
  if_neg (by simp [hm])

theorem length_splice (new : Text) (hp : p ≤ t.length) :
    p + new.length ≤ (splice t p count new).length := by
  unfold splice
  rw [List.length_append, List.length_append, List.length_take, Nat.min_eq_left hp]
  exact Nat.le_add_right _ _

/-- Where a delete covers nothing, the caret stays at a position. -/
theorem deleteSpan_error {width p count caret : Nat} {side : Side}
    (h : deleteSpan width p count side = .error caret) : caret ≤ width := by
  simp only [deleteSpan] at h
  split at h
  · cases h
  · split at h
    · split at h
      · cases h
        exact Nat.zero_le _
      · cases h
    · split at h
      · cases h
        exact Nat.min_le_right p width
      · cases h

/-- What a delete covers are positions. -/
theorem deleteSpan_ok {width p count first n : Nat} {side : Side}
    (h : deleteSpan width p count side = .ok (first, n)) : first + n ≤ width := by
  simp only [deleteSpan] at h
  split at h
  · cases h
    omega
  · split at h
    · split at h
      · cases h
      · cases h
        omega
    · split at h
      · cases h
      · cases h
        omega

theorem caret_insertChar_le (c : Char) :
    (m.insertChar o t p count c).caret ≤
      m.lastPosition (m.insertChar o t p count c).text := by
  cases hm : m.isEmpty with
  | true =>
    rw [m.lastPosition_of_isEmpty hm]
    simp only [Mask.insertChar, hm, if_true, insertFree]
    exact length_splice t _ count [c] (Nat.min_le_right p t.length)
  | false =>
    rw [m.lastPosition_of_not hm]
    rcases Mask.insertChar_cases o t p count c hm with
      ⟨⟨caret, hle, status, heq, -⟩, -⟩ | ⟨s, d, -, -, -, heq⟩
    · rw [heq]
      exact hle
    · rw [heq]
      exact m.nextEditable_le _

theorem caret_deleteRange_le (side : Side) :
    (m.deleteRange o t p count side).caret ≤
      m.lastPosition (m.deleteRange o t p count side).text := by
  cases hm : m.isEmpty with
  | true =>
    rw [m.lastPosition_of_isEmpty hm]
    simp only [Mask.deleteRange, hm, if_true, deleteFree]
    cases hspan : deleteSpan t.length p count side with
    | error caret => exact deleteSpan_error hspan
    | ok span =>
      have hle := deleteSpan_ok hspan
      exact length_splice t span.1 span.2 [] (by omega)
  | false =>
    rw [m.lastPosition_of_not hm]
    simp only [Mask.deleteRange, hm, Bool.false_eq_true, if_false]
    cases hspan : deleteSpan m.length p count side with
    | error caret => exact deleteSpan_error hspan
    | ok span =>
      have hle := deleteSpan_ok hspan
      exact Nat.le_of_add_right_le hle

end Carets

/-! ## 4. Refused edits -/

section Refused

variable {m : Mask} {o : Options} {t : Text} {p count : Nat}

/-- **An insert under a mask is refused, or moves the caret on.** Refused
    it leaves the text, and the caret where it was tried; and there no
    literal is the character. -/
theorem Mask.insertChar_status_cases (hm : m.isEmpty = false) (c : Char) :
    (m.insertChar o t p count c = ⟨t, min p m.length, .rejected⟩ ∧
      ∀ s, m.slots[p]? = some s → s.literal? ≠ some c) ∨
    ((m.insertChar o t p count c).status ≠ .rejected ∧
      (m.insertChar o t p count c).caret = m.nextEditable (p + 1)) := by
  cases hs : m.slots[p]? with
  | none =>
    have hp : m.length ≤ p := List.getElem?_eq_none_iff.mp hs
    rw [Mask.insertChar_behind o t p count c hm hp, Nat.min_eq_right hp]
    exact .inl ⟨rfl, fun s hs => nomatch hs⟩
  | some s =>
    have hlt : p < m.length := (List.getElem?_eq_some_iff.mp hs).1
    rw [Nat.min_eq_left (Nat.le_of_lt hlt)]
    cases hl : s.literal? with
    | some l =>
      rw [Mask.insertChar_literal o t p count c hm hs hl]
      split
      · exact .inr ⟨fun h => (nomatch h), rfl⟩
      · rename_i hc
        refine .inl ⟨rfl, fun s' hs' hl' => hc (.inl ?_)⟩
        cases hs'
        exact Option.some.inj (hl'.symm.trans hl)
    | none =>
      cases hc : s.accept c with
      | none =>
        refine .inl ⟨Mask.insertChar_refused o t p count c hm hs hl hc, fun s' hs' hl' => ?_⟩
        cases hs'
        exact nomatch hl'.symm.trans hl
      | some d =>
        rw [Mask.insertChar_taken o t p count c hm hs hl hc]
        exact .inr ⟨fun h => (nomatch h), rfl⟩

/-- A refused insert was tried under a mask. -/
theorem Mask.insertChar_rejected {c : Char} (h : (m.insertChar o t p count c).status = .rejected) :
    m.isEmpty = false ∧ m.insertChar o t p count c = ⟨t, min p m.length, .rejected⟩ ∧
      ∀ s, m.slots[p]? = some s → s.literal? ≠ some c := by
  cases hm : m.isEmpty with
  | true =>
    simp only [Mask.insertChar, hm, if_true, insertFree] at h
    cases h
  | false =>
    rcases Mask.insertChar_status_cases (p := p) hm c with hrefused | ⟨hs, -⟩
    · exact ⟨rfl, hrefused⟩
    · exact absurd h hs

/-- A delete covers nothing only where its span is empty. -/
theorem deleteSpan_error_eq {width caret : Nat} {side : Side}
    (h : deleteSpan width p count side = .error caret) :
    caret = min p width ∧ min count (width - min p width) = 0 := by
  simp only [deleteSpan] at h
  split at h
  · cases h
  · rename_i hcount
    refine ⟨?_, by omega⟩
    cases side with
    | backward =>
      simp only at h
      split at h
      · rename_i hp
        cases h
        exact hp.symm
      · cases h
    | forward =>
      simp only at h
      split at h
      · cases h
        rfl
      · cases h

/-- A refused delete leaves the text and the caret; its span is empty. -/
theorem Mask.deleteRange_rejected {side : Side}
    (h : (m.deleteRange o t p count side).status = .rejected) :
    m.deleteRange o t p count side = ⟨t, min p (m.lastPosition t), .rejected⟩ ∧
      min count (m.lastPosition t - min p (m.lastPosition t)) = 0 := by
  unfold Mask.deleteRange at h ⊢
  cases hm : m.isEmpty with
  | true =>
    rw [hm, if_pos rfl] at h
    rw [if_pos rfl, m.lastPosition_of_isEmpty hm]
    unfold deleteFree at h ⊢
    cases hspan : deleteSpan t.length p count side with
    | ok span =>
      rw [hspan] at h
      cases h
    | error caret =>
      obtain ⟨rfl, hcount⟩ := deleteSpan_error_eq hspan
      exact ⟨rfl, hcount⟩
  | false =>
    rw [hm, if_neg Bool.false_ne_true] at h
    rw [if_neg Bool.false_ne_true, m.lastPosition_of_not hm]
    cases hspan : deleteSpan m.length p count side with
    | ok span =>
      rw [hspan] at h
      cases h
    | error caret =>
      obtain ⟨rfl, hcount⟩ := deleteSpan_error_eq hspan
      exact ⟨rfl, hcount⟩

end Refused

end InputMask
