/-
  File:      InputMask/Proofs/Field/LiteralKey.lean
  Subject:   A key typed on a literal: the field and the planned insert.

  With nothing selected a field tries a key at the caret; only from a
  literal that is another character it goes on to the next placeholder
  first. The insert planned at the caret steps over the literal also where
  the key becomes that literal under the case mode of the slot.

  * `planned`, `Follows` -- the insert planned at a position, and that a
    key does to the field what it says;
  * `follows_entryPoint` -- every key does what is planned where the field
    tries it;
  * **`follows_caret_iff`** -- for a key that is not refused at the caret,
    that is the caret exactly where no literal stands there that is
    another character; such a literal is the key in another case;
  * `typed_behind_literal` -- a key that is the literal in another case is
    typed behind it.
-/
import InputMask.Proofs.Field.Refusal
namespace InputMask

/-! ## 1. Literals and keys -/

/-- What a literal slot accepts: escaped its own character, else what its
    case mode makes that character. -/
theorem Slot.isSome_accept_literal {s : Slot} {l : Char} (hl : s.literal? = some l) (c : Char) :
    (s.accept c).isSome = true ↔ if s.escaped then c = l else s.caseMode.shift c = l := by
  unfold accept
  cases he : s.escaped with
  | true =>
    rw [if_pos rfl, if_pos rfl, hl]
    by_cases hc : c = l
    · simp [hc]
    · simp [hc, Ne.symm hc]
  | false =>
    rw [if_neg Bool.false_ne_true, if_neg Bool.false_ne_true, Slot.kind_of_literal? hl]
    by_cases hc : s.caseMode.shift c = l
    · simp [SlotKind.fits, hc]
    · simp [SlotKind.fits, hc]

namespace Mask

variable {m : Mask} {o : Options} {t : Text} {p count : Nat} {c : Char}

/-- Only a literal is stepped over. -/
theorem exists_literal_of_skipped (h : (m.insertChar o t p count c).status = .skippedLiteral) :
    ∃ s l, m.slots[p]? = some s ∧ s.literal? = some l := by
  cases hm : m.isEmpty with
  | true =>
    simp only [insertChar, hm, if_true, insertFree] at h
    cases h
  | false =>
    cases hs : m.slots[p]? with
    | none =>
      rw [insertChar_behind o t p count c hm (List.getElem?_eq_none_iff.mp hs)] at h
      cases h
    | some s =>
      cases hl : s.literal? with
      | some l => exact ⟨s, l, rfl, hl⟩
      | none =>
        cases hc : s.accept c with
        | none =>
          rw [insertChar_refused o t p count c hm hs hl hc] at h
          cases h
        | some d =>
          rw [insertChar_taken o t p count c hm hs hl hc] at h
          cases h

/-- A key that is not refused on a literal is that literal, or becomes it
    under the case mode of the slot. -/
theorem insertChar_on_literal {s : Slot} {l : Char} (hs : m.slots[p]? = some s)
    (hl : s.literal? = some l) (h : (m.insertChar o t p count c).status ≠ .rejected) :
    m.insertChar o t p count c = ⟨t, m.nextEditable p, .skippedLiteral⟩ ∧
      (c = l ∨ s.escaped = false ∧ s.caseMode.shift c = l) := by
  have hm : m.isEmpty = false := by
    cases hm : m.isEmpty with
    | false => rfl
    | true =>
      rw [List.isEmpty_iff.mp hm] at hs
      cases hs
  rw [insertChar_literal o t p count c hm hs hl] at h ⊢
  rw [m.nextEditable_of_literal hs (Slot.isPlaceholder_of_literal? hl)]
  split at h
  · rename_i hc
    rw [if_pos hc]
    refine ⟨rfl, ?_⟩
    by_cases hsame : c = l
    · exact .inl hsame
    · have haccept := (Slot.isSome_accept_literal hl c).mp (hc.resolve_left hsame)
      split at haccept
      · exact .inl haccept
      · rename_i he
        exact .inr ⟨Bool.eq_false_iff.mpr he, haccept⟩
  · exact absurd rfl h

end Mask

namespace Field

/-! ## 2. Planned inserts -/

/-- The insert planned for a key at a position of what the field shows. -/
def planned (f : Field) (p : Nat) (c : Char) : Outcome :=
  f.engine.mask.insertChar f.engine.options f.display p 0 c

/-- **A key does what is planned at a position**: it answers so, and leaves
    the field with that text and caret. -/
structure Follows (f : Field) (c : Char) (p : Nat) : Prop where
  status : (f.typeChar c).2 = (f.planned p c).status
  text : (f.typeChar c).1.display = (f.planned p c).text
  caret : (f.typeChar c).1.caret = (f.planned p c).caret

instance (f : Field) (c : Char) (p : Nat) : Decidable (f.Follows c p) :=
  decidable_of_iff
    ((f.typeChar c).2 = (f.planned p c).status ∧ (f.typeChar c).1.display = (f.planned p c).text ∧
      (f.typeChar c).1.caret = (f.planned p c).caret)
    ⟨fun ⟨hs, ht, hc⟩ => ⟨hs, ht, hc⟩, fun h => ⟨h.status, h.text, h.caret⟩⟩

section Keys

variable {f : Field} (hf : f.Reachable) (hfocus : f.focused = true)
  (hnone : f.selStop ≤ f.selStart)

include hf hfocus hnone

/-- **Every key does what is planned where the field tries it.** -/
theorem follows_entryPoint (c : Char) : f.Follows c (f.entryPoint c) := by
  have hkey : f.typeChar c =
      if (f.planned (f.entryPoint c) c).status = .rejected then
        ({ f with caret := (f.planned (f.entryPoint c) c).caret }, .rejected)
      else f.apply (f.planned (f.entryPoint c) c) := by
    rw [typeChar_eq, editSpan_of_none hnone, slotText_of_focused hf hfocus]
    rfl
  by_cases hout : (f.planned (f.entryPoint c) c).status = .rejected
  · rw [if_pos hout] at hkey
    have htext : (f.planned (f.entryPoint c) c).text = f.display := Mask.text_of_rejected hout
    constructor
    · rw [hkey, hout]
    · rw [hkey, htext]
    · rw [hkey]
  · have hshows : f.ShowsPrompts := .inl hfocus
    rw [if_neg hout, apply_of_shows f hshows] at hkey
    constructor <;> rw [hkey] <;> rfl

/-- **Keys not refused at the caret.** Such a key does what is planned there
    exactly if no literal stands there that is another character. If one
    does, it is the key in another case: the planned insert steps over it,
    but the field tries the key where that would have led. -/
theorem follows_caret_iff (c : Char) (hplan : (f.planned f.caret c).status ≠ .rejected) :
    (f.Follows c f.caret ↔
      ∀ s l, f.engine.mask.slots[f.caret]? = some s → s.literal? = some l → l = c) ∧
    ∀ s l, f.engine.mask.slots[f.caret]? = some s → s.literal? = some l → l ≠ c →
      s.escaped = false ∧ s.caseMode.shift c = l ∧
        (f.planned f.caret c).status = .skippedLiteral ∧
        f.Follows c (f.planned f.caret c).caret := by
  have htried := follows_entryPoint hf hfocus hnone c
  have hother : ∀ s l, f.engine.mask.slots[f.caret]? = some s → s.literal? = some l → l ≠ c →
      s.escaped = false ∧ s.caseMode.shift c = l ∧
        (f.planned f.caret c).status = .skippedLiteral ∧
        f.Follows c (f.planned f.caret c).caret := by
    intro s l hs hl hne
    obtain ⟨hskip, hcase⟩ := Mask.insertChar_on_literal hs hl hplan
    have hskip : f.planned f.caret c = ⟨_, _, .skippedLiteral⟩ := hskip
    rw [hskip]
    obtain ⟨hescaped, hshift⟩ := hcase.resolve_left (Ne.symm hne)
    refine ⟨hescaped, hshift, rfl, ?_⟩
    rcases entryPoint_of_none c hnone with ⟨-, hsame⟩ | ⟨hentry, -⟩
    · rcases hsame s hs with hnot | hsame
      · exact nomatch hl.symm.trans hnot
      · exact absurd (Option.some.inj (hl.symm.trans hsame)) hne
    · rwa [hentry] at htried
  refine ⟨⟨fun h s l hs hl => ?_, fun h => ?_⟩, hother⟩
  · by_contra hne
    -- the field tries the key where no literal stands, so it cannot step over one
    obtain ⟨-, -, hskip, hbehind⟩ := hother s l hs hl hne
    have hstatus := hbehind.status.symm.trans (h.status.trans hskip)
    obtain ⟨s', l', hs', hl'⟩ := Mask.exists_literal_of_skipped hstatus
    have hskip := (Mask.insertChar_on_literal hs hl hplan).1
    have hcaret : (f.planned f.caret c).caret = f.engine.mask.nextEditable f.caret :=
      congrArg Outcome.caret hskip
    rw [hcaret] at hs'
    have hph := f.engine.mask.isPlaceholder_nextEditable hs'
    rw [Slot.isPlaceholder_of_literal? hl'] at hph
    cases hph
  · rcases entryPoint_of_none c hnone with ⟨hentry, -⟩ | ⟨-, s, l, hs, hl, hne⟩
    · rwa [hentry] at htried
    · exact absurd (h s l hs hl) hne

end Keys

/-- A dash typed on the dash of a date is stepped over, as planned. A small
    letter typed on that letter in a row of capitals is not: it is tried
    behind the literal. -/
theorem follows_caret_iff_dash :
    let f := (ofConfig (Config.ofMask "00-00".toList)).run [.focus, .select 2 2]
    let g := (ofConfig (Config.ofMask ">X-LL".toList)).run [.focus, .select 0 0]
    (f.Reachable ∧ f.focused = true ∧ f.selStop ≤ f.selStart ∧
      (f.planned f.caret '-').status ≠ .rejected) ∧
    (g.Reachable ∧ g.focused = true ∧ g.selStop ≤ g.selStart ∧
      (g.planned g.caret 'x').status ≠ .rejected) ∧
    f.Follows '-' 2 ∧ (g.planned 0 'x').status = .skippedLiteral ∧ g.Follows 'x' 2 := by
  intro f g
  have hf : f.Reachable ∧ f.focused = true ∧ f.selStop ≤ f.selStart ∧
      (f.planned f.caret '-').status ≠ .rejected := ⟨⟨_, _, rfl⟩, by decide +kernel⟩
  have hg : g.Reachable ∧ g.focused = true ∧ g.selStop ≤ g.selStart ∧
      (g.planned g.caret 'x').status ≠ .rejected := ⟨⟨_, _, rfl⟩, by decide +kernel⟩
  have hdash : f.engine.mask.slots[f.caret]? = some ⟨.literal '-', .plain, false⟩ := by
    decide +kernel
  have hletter : g.engine.mask.slots[g.caret]? = some ⟨.literal 'X', .upper, false⟩ := by
    decide +kernel
  have hcaret : (g.planned g.caret 'x').caret = 2 := by decide +kernel
  obtain ⟨hsame, -⟩ := follows_caret_iff hf.1 hf.2.1 hf.2.2.1 '-' hf.2.2.2
  obtain ⟨-, hother⟩ := follows_caret_iff hg.1 hg.2.1 hg.2.2.1 'x' hg.2.2.2
  obtain ⟨-, -, hskip, hbehind⟩ := hother _ 'X' hletter rfl (by decide)
  refine ⟨hf, hg, hsame.mpr fun s l hs hl => ?_, hskip, ?_⟩
  · rw [hdash] at hs
    cases hs
    cases hl
    rfl
  · rwa [hcaret] at hbehind

/-- **A key that is the literal in another case is typed behind it**: over
    the capital X the planned insert of a small one moves the caret to the
    first letter place and leaves the text, but the field enters it there. -/
theorem typed_behind_literal :
    let f := (ofConfig (Config.ofMask ">X-LL".toList)).run [.focus, .select 0 0]
    (f.Reachable ∧ f.focused = true ∧ f.engine.mask.isEmpty = false ∧ f.selStop ≤ f.selStart) ∧
    f.planned f.caret 'x' = ⟨"X-__".toList, 2, .skippedLiteral⟩ ∧
    (f.typeChar 'x').2 = .accepted ∧ (f.typeChar 'x').1.display = "X-X_".toList ∧
    (f.typeChar 'x').1.caret = 3 ∧ ¬f.Follows 'x' f.caret := by
  intro f
  exact ⟨⟨⟨_, _, rfl⟩, by decide +kernel⟩, by decide +kernel⟩

end Field

end InputMask
