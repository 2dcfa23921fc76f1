/-
  File:      InputMask/Proofs/Field/Append.lean
  Subject:   Characters typed at the end of what a field holds.

  The end is looked for on a display that may be cut short, by comparing its
  characters with the prompt. What a field holds there is told by its full
  display: gaps stay gaps, and a placeholder that shows the prompt is free,
  whether the prompt was typed or not.

  * `contents`, `content` -- the characters in the placeholders of a full
    display that are not the prompt, and those of a field;
  * `BehindFilled` -- the first placeholder behind all filled ones, or the
    end, where the search of `behindFilled` leads
    (`behindFilled_nextEditable`);
  * `kept_append_cons` -- a character put into that placeholder is the last
    of them;
  * `insertChar_off_literals` -- an insert where no literal stands is taken
    in one place, or refused;
  * **`content_typeChar_moveEnd`** -- in every state with focus a character
    typed at the end is appended to what the field holds, or nothing changes.
-/
import InputMask.Proofs.Caret.Insert
import InputMask.Proofs.Field.LiteralKey
import InputMask.Proofs.Format.ValueRoundTrip
namespace InputMask

open InputMask.Field (behindFilled)

/-! ## 1. What a display holds -/

/-- **The characters in the placeholders of a full display**, in order, but
    for prompts. -/
def contents (p : Char) (slots : List Slot) (full : Text) : Text :=
  ((full.zip slots).filter fun x => x.2.isPlaceholder && x.1 != p).map Prod.fst

section Contents

variable {p : Char} {slots : List Slot} {full t : Text}

/-- They are what is read from it without prompts and literals. -/
theorem contents_eq_kept (h : FullDisplay p slots full) :
    contents p slots full = Options.kept ⟨some p, false, false⟩ full slots := by
  induction h with
  | nil => rfl
  | @cons s c slots full hs _ ih =>
    have hkeep := keeps_iff_of_shows hs
    unfold contents at ih ⊢
    rw [List.zip_cons_cons]
    by_cases hc : s.isPlaceholder = true ∧ c ≠ p
    · rw [Options.kept_cons_of_keeps (hkeep.mpr hc), List.filter_cons_of_pos (by simpa using hc),
        List.map_cons, ih]
    · rw [Options.kept_cons_of_not (Bool.eq_false_iff.mpr (mt hkeep.mp hc)),
        List.filter_cons_of_neg (by simpa using hc), ih]

/-- Blank slots at the end of a display hold nothing. -/
theorem contents_padded {m : Mask} (h : TrimmedDisplay p m.slots t) :
    contents p m.slots (m.padded (some p) t) =
      Options.kept ⟨some p, false, false⟩ t m.slots := by
  rw [contents_eq_kept h.fullDisplay_padded, m.padded_some p h.length_le, Options.kept_append,
    kept_blanks, List.append_nil]

/-- A display without filled placeholders holds nothing. -/
theorem kept_of_none_filled (h : FullDisplay p slots full)
    (hfree : ∀ i, ¬FilledAt p slots full i) :
    Options.kept ⟨some p, false, false⟩ full slots = [] := by
  induction h with
  | nil => rfl
  | @cons s c slots full hs _ ih =>
    have hskip : ¬(s.isPlaceholder = true ∧ c ≠ p) := fun hc =>
      hfree 0 ⟨hc.1, by simpa using hc.2⟩
    rw [Options.kept_cons_of_not (Bool.eq_false_iff.mpr (mt (keeps_iff_of_shows hs).mp hskip))]
    exact ih fun i hi => hfree (i + 1) hi

theorem PlaceholderSlot.exists_slot {i : Nat} (h : PlaceholderSlot slots i) :
    ∃ s, slots[i]? = some s ∧ s.isPlaceholder = true := by
  unfold PlaceholderSlot at h
  cases hs : slots[i]? with
  | none =>
    rw [hs] at h
    cases h
  | some s =>
    rw [hs] at h
    exact ⟨s, rfl, h⟩

/-- Blank slots at the end of a display are not filled. -/
theorem filledAt_padded_iff {m : Mask} (h : t.length ≤ m.length) {i : Nat} :
    FilledAt p m.slots (m.padded (some p) t) i ↔ FilledAt p m.slots t i := by
  rw [m.padded_some p h]
  unfold FilledAt
  refine and_congr_right fun hs => ?_
  rcases Nat.lt_or_ge i t.length with hi | hi
  · rw [List.getElem?_append_left hi]
  · obtain ⟨s, hget, hph⟩ := hs.exists_slot
    rw [List.getElem?_append_right hi, getElem?_blanks, List.getElem?_drop,
      Nat.add_sub_cancel' hi, hget, Option.bind_some,
      Slot.blank_of_placeholder (Slot.literal?_eq_none_iff.mpr hph), List.getElem?_eq_none hi]
    simp

end Contents

/-! ## 2. Behind the filled placeholders -/

/-- **The first placeholder of a row behind all filled ones**, or the end of
    the row. -/
structure BehindFilled (p : Char) (slots : List Slot) (full : Text) (k : Nat) : Prop where
  stands : PlaceholderSlot slots k ∨ k = slots.length
  behind : ∀ i, FilledAt p slots full i → i < k
  least : ∀ j, PlaceholderSlot slots j → (∀ i, FilledAt p slots full i → i < j) → k ≤ j

section Behind

variable {p : Char} {slots : List Slot} {full t : Text} {k : Nat}

/-- No literal stands there. -/
theorem BehindFilled.isPlaceholder (h : BehindFilled p slots t k) {s : Slot}
    (hs : slots[k]? = some s) : s.isPlaceholder = true := by
  rcases h.stands with hk | rfl
  · unfold PlaceholderSlot at hk
    rw [hs] at hk
    exact hk
  · rw [List.getElem?_eq_none (Nat.le_refl _)] at hs
    cases hs

theorem behindFilled_cons (p c : Char) (t : Text) (s : Slot) (slots : List Slot) :
    behindFilled p (c :: t) (s :: slots) =
      if behindFilled p t slots = 0 then if s.isPlaceholder && c != p then 1 else 0
      else behindFilled p t slots + 1 := by
  rw [behindFilled]
  cases behindFilled p t slots <;> rfl

/-- The position that is looked for is the first one behind all filled
    placeholders. -/
theorem behindFilled_le_iff (p : Char) (t : Text) (slots : List Slot) (n : Nat) :
    behindFilled p t slots ≤ n ↔ ∀ i, FilledAt p slots t i → i < n := by
  induction slots generalizing t n with
  | nil =>
    have hzero : behindFilled p t [] = 0 := by cases t <;> rfl
    rw [hzero]
    exact iff_of_true (Nat.zero_le n) fun i hi => absurd hi.1.lt_length (Nat.not_lt_zero i)
  | cons s slots ih =>
    cases t with
    | nil =>
      refine iff_of_true (Nat.zero_le n) fun i hi => ?_
      exact absurd hi.2 (by simp)
    | cons c t =>
      have hhead : FilledAt p (s :: slots) (c :: t) 0 ↔ (s.isPlaceholder && c != p) = true := by
        simp [FilledAt, PlaceholderSlot]
      have hall : (∀ i, FilledAt p (s :: slots) (c :: t) i → i < n) ↔
          (FilledAt p (s :: slots) (c :: t) 0 → 0 < n) ∧
            ∀ i, FilledAt p slots t i → i + 1 < n :=
        ⟨fun h => ⟨h 0, fun i => h (i + 1)⟩, fun h i hi => by
          cases i with
          | zero => exact h.1 hi
          | succ i => exact h.2 i hi⟩
      have htail : (∀ i, FilledAt p slots t i → i + 1 < n) ↔
          behindFilled p t slots = 0 ∨ behindFilled p t slots + 1 ≤ n := by
        cases n with
        | zero => simpa using (ih t 0).symm
        | succ n =>
          have hn := ih t n
          simp only [Nat.add_lt_add_iff_right, ← hn]
          omega
      rw [hall, htail, hhead, behindFilled_cons]
      cases s.isPlaceholder && c != p <;> simp <;> split <;> omega

/-- From there the search for a placeholder ends behind them too. -/
theorem behindFilled_nextEditable (m : Mask) (p : Char) (t : Text) :
    BehindFilled p m.slots t (m.nextEditable (behindFilled p t m.slots)) := by
  obtain ⟨hstands, hleast⟩ := firstPlaceholder_nextEditable m (behindFilled p t m.slots)
  refine ⟨hstands.imp_left And.right, fun i hi => ?_, fun j hj hbehind => ?_⟩
  · rcases hstands with ⟨hle, -⟩ | heq
    · exact (behindFilled_le_iff p t m.slots _).mp hle i hi
    · rw [heq]
      exact hi.1.lt_length
  · exact hleast j ((behindFilled_le_iff p t m.slots j).mpr hbehind) hj

/-- Behind the filled placeholders a display holds nothing. -/
theorem kept_drop (h : FullDisplay p slots full) (hk : ∀ i, FilledAt p slots full i → i < k) :
    Options.kept ⟨some p, false, false⟩ (full.drop k) (slots.drop k) = [] := by
  refine kept_of_none_filled (List.forall₂_drop k h) fun i hi => ?_
  unfold FilledAt PlaceholderSlot at hi
  rw [List.getElem?_drop, List.getElem?_drop] at hi
  exact absurd (hk (k + i) hi) (Nat.not_lt.mpr (Nat.le_add_right k i))

/-- **A character put behind the filled placeholders** is the last one the
    display holds, unless it is the prompt. -/
theorem kept_append_cons {s : Slot} {c d : Char} (h : FullDisplay p slots full)
    (hk : ∀ i, FilledAt p slots full i → i < k) (hs : slots[k]? = some s) (hl : s.literal? = none)
    (hd : s.accept c = some d) :
    Options.kept ⟨some p, false, false⟩ (full.take k ++ d :: full.drop (k + 1)) slots =
      Options.kept ⟨some p, false, false⟩ full slots ++ if d = p then [] else [d] := by
  obtain ⟨hlt, hget⟩ := List.getElem?_eq_some_iff.mp hs
  have hlen : (full.take k).length = k :=
    List.length_take_of_le (h.length_eq ▸ Nat.le_of_lt hlt)
  have hfront := Options.kept_append ⟨some p, false, false⟩ (full.take k) (full.drop k) slots
  rw [List.take_append_drop, hlen, kept_drop h hk, List.append_nil] at hfront
  have hbehind := kept_drop h (k := k + 1) fun i hi => Nat.lt_succ_of_lt (hk i hi)
  rw [Options.kept_append, hlen, List.drop_eq_getElem_cons hlt, hget, hfront]
  congr 1
  by_cases hp : d = p
  · rw [if_pos hp, hp, Options.kept_cons_of_not (Options.keeps_prompt p false s), hbehind]
  · rw [if_neg hp, Options.kept_cons_of_keeps
      (Options.keeps_taken hl (Slot.accept_of_accept hd) hp false false), hbehind]

end Behind

/-! ## 3. Inserts off the literals -/

namespace Mask

variable {m : Mask} {k : Nat}

/-- Where no literal stands, a character is refused, or a placeholder takes it
    in the place of the one that is shown there. -/
theorem insertChar_off_literals (o : Options) (t : Text) (c : Char) (hm : m.isEmpty = false)
    (ho : ∀ s, m.slots[k]? = some s → s.isPlaceholder = true) :
    (∃ caret, m.insertChar o t k 0 c = ⟨t, caret, .rejected⟩ ∧
      ∀ s, m.slots[k]? = some s → s.accept c = none) ∨
    ∃ s d, m.slots[k]? = some s ∧ s.literal? = none ∧ s.accept c = some d ∧
      m.insertChar o t k 0 c =
        ⟨Text.trimEnd ((m.padded o.prompt t).take k ++ d :: (m.padded o.prompt t).drop (k + 1)),
          m.nextEditable (k + 1), .accepted⟩ := by
  have hnone : ∀ s, m.slots[k]? = some s → s.literal? = none :=
    fun s hs => Slot.literal?_eq_none_iff.mpr (ho s hs)
  rcases insertChar_cases o t k 0 c hm with
    ⟨⟨caret, -, status, heq, hstatus⟩, hall⟩ | ⟨s, d, hs, hl, hc, heq⟩
  · left
    cases status with
    | accepted => exact absurd rfl hstatus
    | rejected => exact ⟨caret, heq, fun s hs => hall s hs (hnone s hs)⟩
    | skippedLiteral =>
      obtain ⟨s, l, hs, hl⟩ := exists_literal_of_skipped (congrArg Outcome.status heq)
      rw [hnone s hs] at hl
      cases hl
  · rw [insertStop_zero (List.getElem?_eq_some_iff.mp hs).1, overwritten_one] at heq
    exact .inr ⟨s, d, hs, hl, hc, heq⟩

end Mask

namespace Field

/-! ## 4. Typing at the end -/

/-- What a field shows, with the blank forms of the slots behind it. -/
def fullText (f : Field) : Text :=
  f.display ++ blanks (some f.engine.config.prompt) (f.engine.mask.slots.drop f.display.length)

/-- **What a field holds**: the characters in the placeholders of what it
    shows, but for prompts. -/
def content (f : Field) : Text :=
  contents f.engine.config.prompt f.engine.mask.slots f.fullText

section Full

variable {f : Field} (h : TrimmedDisplay f.engine.config.prompt f.engine.mask.slots f.display)

include h

theorem fullText_eq :
    f.fullText = f.engine.mask.padded (some f.engine.config.prompt) f.display :=
  (f.engine.mask.padded_some _ h.length_le).symm

theorem fullDisplay_fullText :
    FullDisplay f.engine.config.prompt f.engine.mask.slots f.fullText := by
  rw [fullText_eq h]
  exact h.fullDisplay_padded

theorem content_eq_kept :
    f.content = Options.kept ⟨some f.engine.config.prompt, false, false⟩ f.fullText
      f.engine.mask.slots :=
  contents_eq_kept (fullDisplay_fullText h)

/-- But for blanks at its end a field holds what is read from any full display
    that it shows cut short. -/
theorem trimEnd_content {full : Text} (htext : f.display = Text.trimEnd full) :
    Text.trimEnd f.content = Text.trimEnd
      (Options.kept ⟨some f.engine.config.prompt, false, false⟩ full f.engine.mask.slots) := by
  unfold content
  rw [fullText_eq h, contents_padded h, htext, Options.trimEnd_kept_trimEnd]

end Full

section Typing

variable {f : Field} (hf : f.Reachable) (hfocus : f.focused = true)
  (hm : f.engine.mask.isEmpty = false)

include hf hfocus hm

theorem trimmedDisplay_of_focused :
    TrimmedDisplay f.engine.config.prompt f.engine.mask.slots f.display :=
  (display_of_reachable hf hm).1 (.inl hfocus)

/-- The caret is moved behind what the full display holds. -/
theorem behindFilled_moveEnd :
    BehindFilled f.engine.config.prompt f.engine.mask.slots f.fullText f.moveEnd.caret := by
  have htrim := trimmedDisplay_of_focused hf hfocus hm
  have hcaret : f.moveEnd.caret = f.engine.mask.nextEditable
      (behindFilled f.engine.config.prompt f.display f.engine.mask.slots) := by
    unfold moveEnd
    rw [hm, if_neg Bool.false_ne_true, slotText_of_focused hf hfocus]
    rfl
  have hfilled : ∀ i, FilledAt f.engine.config.prompt f.engine.mask.slots f.fullText i ↔
      FilledAt f.engine.config.prompt f.engine.mask.slots f.display i := fun i => by
    rw [fullText_eq htrim, filledAt_padded_iff htrim.length_le]
  obtain ⟨hstands, hbehind, hleast⟩ := behindFilled_nextEditable f.engine.mask
    f.engine.config.prompt f.display
  rw [hcaret]
  exact ⟨hstands, fun i hi => hbehind i ((hfilled i).mp hi),
    fun j hj hall => hleast j hj fun i hi => hall i ((hfilled i).mpr hi)⟩

/-- **A key off the literals** is taken by the placeholder at the caret, and
    leaves the display overwritten there and without its blank end, or it is
    refused. -/
theorem typeChar_cases (hnone : f.selStop ≤ f.selStart) (ho : f.OffLiterals) (c : Char) :
    (∃ s d, f.engine.mask.slots[f.caret]? = some s ∧ s.literal? = none ∧ s.accept c = some d ∧
      f.typeChar c = ((f.withDisplay (Text.trimEnd
        (f.fullText.take f.caret ++ d :: f.fullText.drop (f.caret + 1)))).caretAt
          (f.engine.mask.nextEditable (f.caret + 1)), .accepted)) ∨
    ((f.typeChar c).2 = .rejected ∧ (f.typeChar c).1.display = f.display ∧
      ∀ s, f.engine.mask.slots[f.caret]? = some s → s.accept c = none) := by
  have hslot := slotText_of_focused hf hfocus
  rcases Mask.insertChar_off_literals f.engine.options f.slotText c hm ho with
    ⟨k, heq, hall⟩ | ⟨s, d, hs, hl, hc, heq⟩
  · right
    have hkey : f.typeChar c = ({ f with caret := k }, .rejected) := by
      rw [typeChar_eq, entryPoint_of_offLiterals hnone ho, editSpan_of_none hnone, heq]
      rfl
    rw [hkey]
    exact ⟨rfl, rfl, hall⟩
  · left
    have hnot : (f.engine.mask.insertChar f.engine.options f.slotText f.caret 0 c).status ≠
        .rejected := by
      rw [heq]
      exact nofun
    have hfull : f.engine.mask.padded f.engine.options.prompt f.slotText = f.fullText := by
      rw [fullText_eq (trimmedDisplay_of_focused hf hfocus hm), hslot]
      rfl
    refine ⟨s, d, hs, hl, hc, ?_⟩
    rw [typeChar_of_offLiterals hnone ho hnot, heq, apply_of_shows f (.inl hfocus), hfull]

/-- **A character typed behind the filled placeholders** is appended to what
    the field holds, or it is refused and the display stays. -/
theorem content_typeChar (hnone : f.selStop ≤ f.selStart)
    (hk : BehindFilled f.engine.config.prompt f.engine.mask.slots f.fullText f.caret) (c : Char) :
    ((f.typeChar c).2 = .accepted ∧
      ∃ s, f.engine.mask.slots[f.caret]? = some s ∧ (s.accept c).isSome = true ∧
        Text.trimEnd (f.typeChar c).1.content = Text.trimEnd (f.content ++
          if s.caseMode.shift c = f.engine.config.prompt then [] else [s.caseMode.shift c])) ∨
    ((f.typeChar c).2 = .rejected ∧ (f.typeChar c).1.display = f.display ∧
      ∀ s, f.engine.mask.slots[f.caret]? = some s → s.accept c = none) := by
  have htrim := trimmedDisplay_of_focused hf hfocus hm
  have ho : f.OffLiterals := fun s hs => hk.isPlaceholder hs
  rcases typeChar_cases hf hfocus hm hnone ho c with ⟨s, d, hs, hl, hc, hkey⟩ | hrefused
  · left
    have hshift : d = s.caseMode.shift c := Slot.eq_shift_of_accept hl hc
    -- the field is in a reachable state again, so its display is in layout
    have htyped := hf.step (.typeChar c)
    have hg : (f.step (.typeChar c)).1 = (f.typeChar c).1 := rfl
    rw [hg, hkey] at htyped
    have hcontent := trimEnd_content (trimmedDisplay_of_focused htyped hfocus hm) rfl
    refine ⟨by rw [hkey], s, hs, Option.isSome_of_eq_some hc, ?_⟩
    rw [hkey, hcontent, content_eq_kept htrim, ← hshift]
    exact congrArg Text.trimEnd
      (kept_append_cons (fullDisplay_fullText htrim) hk.behind hs hl hc)
  · exact .inr hrefused

end Typing

/-- **Typing at the end appends.** In every state with focus, under a mask with
    slots, the caret is moved to the first placeholder behind all filled ones of
    the full display, or to the end where there is none. A character typed there
    is accepted exactly if that placeholder accepts it. Then the field holds what
    it held and behind that the character in the case of the slot, or only what
    it held if that is the prompt, both but for blanks at the end. Else it is
    refused, and the display stays. -/
theorem content_typeChar_moveEnd {f : Field} (hf : f.Reachable) (hfocus : f.focused = true)
    (hm : f.engine.mask.isEmpty = false) :
    let p := f.engine.config.prompt
    let slots := f.engine.mask.slots
    let k := f.moveEnd.caret
    BehindFilled p slots f.fullText k ∧
    ∀ c, let out := f.moveEnd.typeChar c
      (out.2 = .accepted ∧
        ∃ s, slots[k]? = some s ∧ (s.accept c).isSome = true ∧
          Text.trimEnd out.1.content = Text.trimEnd
            (f.content ++ if s.caseMode.shift c = p then [] else [s.caseMode.shift c])) ∨
      (out.2 = .rejected ∧ out.1.display = f.display ∧
        ∀ s, slots[k]? = some s → s.accept c = none) := by
  intro p slots k
  have hbehind : BehindFilled p slots f.fullText k := behindFilled_moveEnd hf hfocus hm
  have hend : f.moveEnd.Reachable := hf.step .moveEnd
  -- the move changes the caret and the selection only
  exact ⟨hbehind, fun c => content_typeChar (f := f.moveEnd) hend hfocus hm (Nat.le_refl _)
    hbehind c⟩

/-- A capital behind a gap and a free place behind a literal. A letter typed at
    the end goes there in capitals, a blank is cut off the display, and a prompt
    typed is not held. At the end of a full number a digit is refused. -/
theorem content_typeChar_moveEnd_gap :
    let f := (ofConfig (Config.ofMask ">&&-&".toList)).run [.focus, .select 1 1, .typeChar 'b']
    let g := (ofConfig (Config.ofMask "00-".toList)).run [.setValue "12".toList, .focus]
    (f.Reachable ∧ f.focused = true ∧ f.engine.mask.isEmpty = false) ∧
    (g.Reachable ∧ g.focused = true ∧ g.engine.mask.isEmpty = false) ∧
    f.fullText = "_B-_".toList ∧ f.content = "B".toList ∧
    BehindFilled '_' f.engine.mask.slots "_B-_".toList 3 ∧
    Text.trimEnd (f.moveEnd.typeChar 'x').1.content = "BX".toList ∧
    (f.moveEnd.typeChar ' ').1.display = "_B-".toList ∧
    Text.trimEnd (f.moveEnd.typeChar ' ').1.content = "B".toList ∧
    Text.trimEnd (f.moveEnd.typeChar '_').1.content = "B".toList ∧
    (g.moveEnd.typeChar '3').2 = .rejected ∧
    (g.moveEnd.typeChar '3').1.display = g.display := by
  intro f g
  have hf : f.Reachable ∧ f.focused = true ∧ f.engine.mask.isEmpty = false :=
    ⟨⟨_, _, rfl⟩, by decide +kernel⟩
  have hg : g.Reachable ∧ g.focused = true ∧ g.engine.mask.isEmpty = false :=
    ⟨⟨_, _, rfl⟩, by decide +kernel⟩
  have hfull : f.fullText = "_B-_".toList := by decide +kernel
  have hcontent : f.content = "B".toList := by decide +kernel
  have hcaret : f.moveEnd.caret = 3 := by decide +kernel
  have hslot : f.engine.mask.slots[f.moveEnd.caret]? =
      some ⟨.placeholder .charRequired, .upper, false⟩ := by decide +kernel
  obtain ⟨hbehind, htyped⟩ := content_typeChar_moveEnd hf.1 hf.2.1 hf.2.2
  obtain ⟨-, htyped'⟩ := content_typeChar_moveEnd hg.1 hg.2.1 hg.2.2
  have happend : ∀ c, (f.moveEnd.typeChar c).2 = .accepted →
      Text.trimEnd (f.moveEnd.typeChar c).1.content = Text.trimEnd ("B".toList ++
        if CaseMode.upper.shift c = '_' then [] else [CaseMode.upper.shift c]) := by
    intro c hc
    rcases htyped c with ⟨-, s, hs, -, happend⟩ | ⟨hrefused, -⟩
    · cases hslot.symm.trans hs
      rw [← hcontent]
      exact happend
    · rw [hc] at hrefused
      cases hrefused
  rw [hfull, hcaret] at hbehind
  have hrefused : (g.moveEnd.typeChar '3').2 = .rejected := by decide +kernel
  refine ⟨hf, hg, hfull, hcontent, hbehind, happend 'x' (by decide +kernel), by decide +kernel,
    happend ' ' (by decide +kernel), happend '_' (by decide +kernel), hrefused, ?_⟩
  rcases htyped' '3' with ⟨haccepted, -⟩ | ⟨-, hdisplay, -⟩
  · rw [hrefused] at haccepted
    cases haccepted
  · exact hdisplay

end Field

end InputMask
