/-
  File:      InputMask/Proofs/Field/Navigation.lean
  Subject:   The caret's walk over the placeholders of a mask.

  Two searches move the caret: the one to the right takes the position it
  starts from, the one to the left does not. Each is pinned down by what it
  finds, and so they are inverse to each other at placeholders and at the end.

  * `placeholders` -- the positions of the placeholders of a row, and the one
    with a number among them (`placeholderAt_eq_getD`);
  * `LastPlaceholder` -- the last placeholder of a row before a position,
    where the search to the left ends (`lastPlaceholder_prevEditable`);
  * `prevEditable_nextEditable`, `nextEditable_prevEditable` -- a step and
    the step back;
  * `run_moveRight` -- steps to the right number the placeholders;
  * **`caret_navigation`** -- the searches, the walk from the first
    placeholder on, and the steps back and forth.
-/
import InputMask.Proofs.Caret.Insert
import InputMask.Proofs.Field.Operation
namespace InputMask

open InputMask.Field (placeholderAt placeholderAt_literal placeholderAt_zero placeholderAt_succ)

/-! ## 1. The positions of the placeholders -/

/-- The positions of the placeholders of a row, from the left. -/
def placeholders (slots : List Slot) : List Nat := slots.findIdxs Slot.isPlaceholder

section Positions

variable {s : Slot} {slots rest : List Slot} {i j k n : Nat}

theorem placeholders_literal (hs : s.isPlaceholder = false) :
    placeholders (s :: rest) = (placeholders rest).map (· + 1) := by
  unfold placeholders
  rw [List.findIdxs_cons, List.findIdxs_start, hs, if_neg Bool.false_ne_true]

theorem placeholders_placeholder (hs : s.isPlaceholder = true) :
    placeholders (s :: rest) = 0 :: (placeholders rest).map (· + 1) := by
  unfold placeholders
  rw [List.findIdxs_cons, List.findIdxs_start, if_pos hs]

/-- The placeholder with a number is the one that the list of positions has
    there; behind the last one there is only the end of the row. -/
theorem placeholderAt_eq_getD (n : Nat) (slots : List Slot) :
    placeholderAt n slots = (placeholders slots)[n]?.getD slots.length := by
  induction slots generalizing n with
  | nil => cases n <;> rfl
  | cons s rest ih =>
    have hmap : ∀ k, ((placeholders rest).map (· + 1))[k]?.getD (rest.length + 1) =
        placeholderAt k rest + 1 := by
      intro k
      rw [ih, List.getElem?_map]
      cases (placeholders rest)[k]? <;> rfl
    cases hs : s.isPlaceholder with
    | false => rw [placeholders_literal hs, placeholderAt_literal hs, List.length_cons, hmap]
    | true =>
      rw [placeholders_placeholder hs]
      cases n with
      | zero =>
        rw [placeholderAt_zero hs]
        rfl
      | succ n => rw [placeholderAt_succ hs, List.getElem?_cons_succ, List.length_cons, hmap]

theorem mem_placeholders_iff : i ∈ placeholders slots ↔ PlaceholderSlot slots i := by
  unfold placeholders PlaceholderSlot
  rw [List.mem_findIdxs_iff_exists_getElem_pos]
  constructor
  · rintro ⟨hi, hs⟩
    rw [List.getElem?_eq_getElem hi, Option.any_some, hs]
  · intro hs
    have hi : i < slots.length := PlaceholderSlot.lt_length hs
    rw [List.getElem?_eq_getElem hi, Option.any_some] at hs
    exact ⟨hi, hs⟩

theorem pairwise_placeholders (slots : List Slot) : (placeholders slots).Pairwise (· < ·) :=
  List.pairwise_findIdxs

/-! ## 2. The last placeholder before a position -/

/-- **The last placeholder of a row before `k`**, if there is one. -/
def LastPlaceholder (slots : List Slot) (k : Nat) : Option Nat → Prop
  | some i => (i < k ∧ PlaceholderSlot slots i) ∧ ∀ j < k, PlaceholderSlot slots j → j ≤ i
  | none => ∀ j < k, ¬PlaceholderSlot slots j

theorem FirstPlaceholder.eq (hi : FirstPlaceholder slots k i) (hj : FirstPlaceholder slots k j) :
    i = j := by
  have hle : ∀ {a b : Nat}, FirstPlaceholder slots k a → FirstPlaceholder slots k b → a ≤ b := by
    intro a b ha hb
    rcases hb.stands with ⟨hk, hs⟩ | rfl
    · exact ha.least b hk hs
    · rcases ha.stands with ⟨-, hs⟩ | rfl
      · exact Nat.le_of_lt hs.lt_length
      · exact Nat.le_refl _
  exact Nat.le_antisymm (hle hi hj) (hle hj hi)

theorem LastPlaceholder.eq_some {r : Option Nat} (hr : LastPlaceholder slots k r)
    (hi : LastPlaceholder slots k (some i)) : r = some i := by
  obtain ⟨⟨hik, hs⟩, hmost⟩ := hi
  cases r with
  | none => exact absurd hs (hr i hik)
  | some j =>
    obtain ⟨⟨hjk, hs'⟩, hmost'⟩ := hr
    rw [Nat.le_antisymm (hmost j hjk hs') (hmost' i hik hs)]

theorem lastPlaceholder_lastEditable (slots : List Slot) :
    LastPlaceholder slots slots.length (lastEditable slots) := by
  induction slots with
  | nil => exact fun j hj => absurd hj (Nat.not_lt_zero j)
  | cons s rest ih =>
    unfold lastEditable
    cases hrest : lastEditable rest with
    | some i =>
      rw [hrest] at ih
      obtain ⟨⟨hi, hs⟩, hmost⟩ := ih
      refine ⟨⟨Nat.succ_lt_succ hi, hs⟩, fun j hj hsj => ?_⟩
      cases j with
      | zero => exact Nat.zero_le _
      | succ j => exact Nat.succ_le_succ (hmost j (Nat.lt_of_succ_lt_succ hj) hsj)
    | none =>
      rw [hrest] at ih
      have hbehind : ∀ j, j + 1 < (s :: rest).length → ¬PlaceholderSlot (s :: rest) (j + 1) :=
        fun j hj => ih j (Nat.lt_of_succ_lt_succ hj)
      cases hs : s.isPlaceholder with
      | true =>
        refine ⟨⟨Nat.succ_pos _, hs⟩, fun j hj hsj => ?_⟩
        cases j with
        | zero => exact Nat.le_refl 0
        | succ j => exact absurd hsj (hbehind j hj)
      | false =>
        intro j hj hsj
        cases j with
        | zero =>
          have hhead : s.isPlaceholder = true := hsj
          rw [hs] at hhead
          cases hhead
        | succ j => exact hbehind j hj hsj

theorem placeholderSlot_take (hi : i < k) :
    PlaceholderSlot (slots.take k) i ↔ PlaceholderSlot slots i := by
  unfold PlaceholderSlot
  rw [List.getElem?_take_of_lt hi]

end Positions

namespace Mask

variable (m : Mask) {i j : Nat}

/-- The search to the left ends at the last placeholder before. -/
theorem lastPlaceholder_prevEditable (k : Nat) :
    LastPlaceholder m.slots k (m.prevEditable k) := by
  have hlast := lastPlaceholder_lastEditable (m.slots.take (min k m.length))
  have hlen : (m.slots.take (min k m.length)).length = min k m.length :=
    List.length_take_of_le (Nat.min_le_right k m.length)
  have hmin : ∀ {j}, j < k → PlaceholderSlot m.slots j → j < min k m.length := fun hj hs =>
    Nat.lt_min.mpr ⟨hj, hs.lt_length⟩
  rw [hlen] at hlast
  show LastPlaceholder m.slots k (lastEditable (m.slots.take (min k m.length)))
  cases hr : lastEditable (m.slots.take (min k m.length)) with
  | none =>
    rw [hr] at hlast
    exact fun j hj hs => hlast j (hmin hj hs) ((placeholderSlot_take (hmin hj hs)).mpr hs)
  | some i =>
    rw [hr] at hlast
    obtain ⟨⟨hi, hs⟩, hmost⟩ := hlast
    exact ⟨⟨(Nat.lt_min.mp hi).1, (placeholderSlot_take hi).mp hs⟩,
      fun j hj hs => hmost j (hmin hj hs) ((placeholderSlot_take (hmin hj hs)).mpr hs)⟩

/-- A step to the left undoes one to the right from a placeholder. -/
theorem prevEditable_nextEditable (hi : PlaceholderSlot m.slots i) :
    m.prevEditable (m.nextEditable (i + 1)) = some i := by
  obtain ⟨hstands, hleast⟩ := firstPlaceholder_nextEditable m (i + 1)
  refine (m.lastPlaceholder_prevEditable _).eq_some ⟨⟨?_, hi⟩, fun j hj hs => ?_⟩
  · rcases hstands with ⟨hlt, -⟩ | heq
    · exact hlt
    · rw [heq]
      exact hi.lt_length
  · by_contra hij
    exact absurd (hleast j (Nat.not_le.mp hij) hs) (Nat.not_le.mpr hj)

/-- A step to the right undoes one to the left from a placeholder or from
    the end. -/
theorem nextEditable_prevEditable (hi : PlaceholderSlot m.slots i ∨ i = m.length)
    (hj : m.prevEditable i = some j) : m.nextEditable (j + 1) = i := by
  have hlast := m.lastPlaceholder_prevEditable i
  rw [hj] at hlast
  obtain ⟨⟨hji, -⟩, hmost⟩ := hlast
  refine (firstPlaceholder_nextEditable m (j + 1)).eq ⟨hi.imp_left fun hs => ⟨hji, hs⟩, ?_⟩
  intro k hjk hs
  by_contra hik
  exact absurd (hmost k (Nat.not_le.mp hik) hs) (Nat.not_le.mpr hjk)

/-- From the placeholder with a number the search goes on to the next one, and
    from the end it stays there. -/
theorem nextEditable_placeholderAt (n : Nat) :
    m.nextEditable (placeholderAt n m.slots + 1) = placeholderAt (n + 1) m.slots := by
  rcases Nat.lt_or_ge n (m.slots.filter Slot.isPlaceholder).length with hn | hn
  · exact m.nextEditable_succ hn
  · rw [placeholderAt_of_length_le hn, placeholderAt_of_length_le (Nat.le_succ_of_le hn)]
    -- behind the end of the row there is no placeholder
    refine (firstPlaceholder_nextEditable m _).eq ⟨.inr rfl, fun j hj hs => ?_⟩
    exact absurd hs.lt_length (Nat.not_lt.mpr (Nat.le_of_succ_le hj))

end Mask

namespace Field

/-! ## 3. Moves of a field -/

section Moves

variable {f : Field} (hm : f.engine.mask.isEmpty = false)

include hm

theorem moveHome_eq : f.moveHome = f.caretAt (f.engine.mask.nextEditable 0) := by
  unfold moveHome
  rw [hm, if_neg Bool.false_ne_true]

theorem moveRight_eq : f.moveRight = f.caretAt (f.engine.mask.nextEditable (f.caret + 1)) := by
  unfold moveRight
  rw [hm, if_neg Bool.false_ne_true]

theorem moveLeft_eq :
    f.moveLeft = f.caretAt ((f.engine.mask.prevEditable f.caret).getD f.caret) := by
  unfold moveLeft
  rw [hm, if_neg Bool.false_ne_true]

/-- **Steps to the right number the placeholders.** -/
theorem run_moveRight (n k : Nat) :
    (f.caretAt (placeholderAt n f.engine.mask.slots)).run (List.replicate k .moveRight) =
      f.caretAt (placeholderAt (n + k) f.engine.mask.slots) := by
  induction k with
  | zero => rfl
  | succ k ih =>
    rw [List.replicate_succ', run_concat, ih]
    show (f.caretAt (placeholderAt (n + k) f.engine.mask.slots)).moveRight = _
    rw [moveRight_eq (f := f.caretAt _) hm]
    exact congrArg f.caretAt (f.engine.mask.nextEditable_placeholderAt (n + k))

end Moves

/-- **The caret's walk.** Under a mask with slots the search to the right ends
    at the first placeholder from a position on, or at the end; the search to
    the left at the last one before it. So in every state of a field the first
    position and then some steps to the right lead to the placeholder with that
    number, or to the end where there are fewer: each is met once, from left to
    right. From a placeholder a step to the right is undone by one to the left;
    and where a placeholder stands before, a step to the left from a placeholder
    or from the end is undone by one to the right. -/
theorem caret_navigation (m : Mask) (hm : m.isEmpty = false) :
    (∀ k, FirstPlaceholder m.slots k (m.nextEditable k)) ∧
    (∀ k, LastPlaceholder m.slots k (m.prevEditable k)) ∧
    ((placeholders m.slots).Pairwise (· < ·) ∧
      ∀ i, i ∈ placeholders m.slots ↔ PlaceholderSlot m.slots i) ∧
    ∀ f : Field, f.engine.mask = m →
      (∀ k, (f.run (.moveHome :: List.replicate k .moveRight)).caret =
        (placeholders m.slots)[k]?.getD m.length) ∧
      (PlaceholderSlot m.slots f.caret → (f.run [.moveRight, .moveLeft]).caret = f.caret) ∧
      (PlaceholderSlot m.slots f.caret ∨ f.caret = m.length →
        (∃ i < f.caret, PlaceholderSlot m.slots i) →
        (f.run [.moveLeft, .moveRight]).caret = f.caret) := by
  refine ⟨firstPlaceholder_nextEditable m, m.lastPlaceholder_prevEditable,
    ⟨pairwise_placeholders m.slots, fun _ => mem_placeholders_iff⟩, ?_⟩
  rintro f rfl
  refine ⟨fun k => ?_, fun hs => ?_, fun hs hbefore => ?_⟩
  · show (f.moveHome.run (List.replicate k .moveRight)).caret = _
    rw [moveHome_eq hm, f.engine.mask.nextEditable_zero, run_moveRight hm, Nat.zero_add]
    exact placeholderAt_eq_getD k f.engine.mask.slots
  · show f.moveRight.moveLeft.caret = f.caret
    rw [moveRight_eq hm, moveLeft_eq (f := f.caretAt _) hm]
    show (f.engine.mask.prevEditable (f.engine.mask.nextEditable (f.caret + 1))).getD _ = f.caret
    rw [f.engine.mask.prevEditable_nextEditable hs, Option.getD_some]
  · obtain ⟨i, hi, hsi⟩ := hbefore
    show f.moveLeft.moveRight.caret = f.caret
    rw [moveLeft_eq hm, moveRight_eq (f := f.caretAt _) hm]
    cases hj : f.engine.mask.prevEditable f.caret with
    | none =>
      have hlast := f.engine.mask.lastPlaceholder_prevEditable f.caret
      rw [hj] at hlast
      exact absurd hsi (hlast i hi)
    | some j => exact f.engine.mask.nextEditable_prevEditable hs hj

/-- Three placeholders between literals, at the start, in the middle and at the
    end: positions behind the mask, the walk over all of them, and the steps
    back and forth from the last one and from the end. -/
theorem caret_navigation_between :
    let m := Mask.compile "(00)-0)".toList
    let f := (ofConfig (Config.ofMask "(00)-0)".toList)).run [.focus, .select 2 5]
    let g := (ofConfig (Config.ofMask "(00)-0)".toList)).run [.setValue "12".toList, .select 9 9]
    (m.isEmpty = false ∧ f.Reachable ∧ g.Reachable ∧ f.engine.mask = m ∧ g.engine.mask = m ∧
      PlaceholderSlot m.slots f.caret ∧ g.caret = m.length ∧
      ∃ i < g.caret, PlaceholderSlot m.slots i) ∧
    FirstPlaceholder m.slots 3 5 ∧ FirstPlaceholder m.slots 12 7 ∧
    LastPlaceholder m.slots 5 (some 2) ∧ LastPlaceholder m.slots 1 none ∧
    (f.run [.moveHome, .moveRight, .moveRight]).caret = 5 ∧
    (g.run [.moveHome, .moveRight, .moveRight, .moveRight, .moveRight]).caret = 7 ∧
    (f.run [.moveRight, .moveLeft]).caret = f.caret ∧
    (g.run [.moveLeft, .moveRight]).caret = g.caret := by
  intro m f g
  have hm : m.isEmpty = false := by decide
  have hf : f.engine.mask = m := by decide +kernel
  have hg : g.engine.mask = m := by decide +kernel
  have hstands : PlaceholderSlot m.slots f.caret := by decide +kernel
  have hend : g.caret = m.length := by decide +kernel
  have hbefore : ∃ i < g.caret, PlaceholderSlot m.slots i := ⟨5, by decide +kernel, by decide⟩
  obtain ⟨hnext, hprev, -, hfield⟩ := caret_navigation m hm
  obtain ⟨hwalk, hback, -⟩ := hfield f hf
  obtain ⟨hwalk', -, hforth⟩ := hfield g hg
  exact ⟨⟨hm, ⟨_, _, rfl⟩, ⟨_, _, rfl⟩, hf, hg, hstands, hend, hbefore⟩, hnext 3, hnext 12,
    hprev 5, hprev 1, hwalk 2, hwalk' 4, hback hstands, hforth (.inr hend) hbefore⟩

end Field

end InputMask
