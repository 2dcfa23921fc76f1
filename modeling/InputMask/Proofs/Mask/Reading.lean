/-
  File:      InputMask/Proofs/Mask/Reading.lean
  Subject:   A mask text read position by position.

  Compiling runs over the text with a case mode in hand and takes two
  characters at an escape. Read by positions no state is needed: what
  stands before a position says whether it is escaped and which case
  mode is in force there.

  * `Source.Escaped` -- an odd run of backslashes ends right before the
    position;
  * `Source.slots` -- a slot for every escaped position and for every
    other one that holds no directive, and one more where the end of the
    text is escaped;
  * **`slots_compile`** -- these are the slots of the compiled mask.
-/
import Mathlib.Data.List.Basic
import InputMask.Mask
namespace InputMask

/-! ## 1. Characters of a mask text -/

/-- The characters that take no slot unless they are escaped. -/
def directives : Text := "<>|\\".toList

/-- What a slot shows or takes whose character is no directive. -/
def SlotKind.ofChar (c : Char) : SlotKind :=
  match Category.ofSymbol? c with
  | some k => .placeholder k
  | none => .literal c

/-- The case mode that a directive sets, if it is one of those that do. -/
def CaseMode.ofMark? : Char → Option CaseMode
  | '<' => some .lower
  | '>' => some .upper
  | '|' => some .plain
  | _ => none

@[simp] theorem CaseMode.ofMark?_mark (m : CaseMode) : ofMark? m.mark = some m := by
  cases m <;> rfl

/-- A character sets a case mode, escapes the next one, or takes a slot. -/
theorem char_cases (c : Char) :
    (∃ m : CaseMode, c = m.mark) ∨ c = escapeMark ∨ c ∉ directives := by
  by_cases hc : c ∈ directives
  · have hmem : c = '<' ∨ c = '>' ∨ c = '|' ∨ c = '\\' := by simpa [directives] using hc
    rcases hmem with rfl | rfl | rfl | rfl
    · exact .inl ⟨.lower, rfl⟩
    · exact .inl ⟨.upper, rfl⟩
    · exact .inl ⟨.plain, rfl⟩
    · exact .inr (.inl rfl)
  · exact .inr (.inr hc)

theorem CaseMode.ofMark?_of_not_mem {c : Char} (hc : c ∉ directives) : ofMark? c = none := by
  unfold ofMark?
  split
  · exact absurd (by decide) hc
  · exact absurd (by decide) hc
  · exact absurd (by decide) hc
  · rfl

/-! ## 2. Compiling, a character at a time -/

/-- The slots of a mask text whose first character is escaped. Where
    there is none, the backslash in front is the literal. -/
def escapedSlotsFrom (m : CaseMode) : Text → List Slot
  | [] => [⟨.literal escapeMark, m, true⟩]
  | c :: rest => ⟨.literal c, m, true⟩ :: slotsFrom m rest

section Compiling

variable (m : CaseMode) (rest : Text)

theorem slotsFrom_mark (m' : CaseMode) : slotsFrom m (m'.mark :: rest) = slotsFrom m' rest := by
  rw [slotsFrom.eq_def]
  cases m' <;> rfl

theorem slotsFrom_escapeMark :
    slotsFrom m (escapeMark :: rest) = escapedSlotsFrom m rest := by
  rw [slotsFrom.eq_def]
  cases rest <;> rfl

theorem slotsFrom_plain {c : Char} (hc : c ∉ directives) :
    slotsFrom m (c :: rest) = ⟨.ofChar c, m, false⟩ :: slotsFrom m rest := by
  have hne : ∀ d ∈ directives, c ≠ d := fun d hd e => hc (e ▸ hd)
  have htoken : (∃ k, SlotKind.ofChar c = .placeholder k ∧ Token.ofChar c = .placeholder k) ∨
      (SlotKind.ofChar c = .literal c ∧ Token.ofChar c = .literal c) := by
    unfold Token.ofChar SlotKind.ofChar
    rw [if_neg (hne _ (by decide)), if_neg (hne _ (by decide)), if_neg (hne _ (by decide)),
      if_neg (hne _ (by decide))]
    cases Category.ofSymbol? c with
    | some k => exact .inl ⟨k, rfl, rfl⟩
    | none => exact .inr ⟨rfl, rfl⟩
  rw [slotsFrom.eq_def]
  rcases htoken with ⟨k, hk, ht⟩ | ⟨hk, ht⟩
  · simp only [ht, hk]
  · simp only [ht, hk]

end Compiling

/-! ## 3. Positions -/

namespace Source

/-- How many backslashes end a text. -/
def trailingMarks (t : Text) : Nat := (t.reverse.takeWhile (· = escapeMark)).length

/-- **A position is escaped** when the run of backslashes right before it
    has odd length. The end of the text is a position too. -/
def Escaped (t : Text) (i : Nat) : Prop := trailingMarks (t.take i) % 2 = 1

instance (t : Text) (i : Nat) : Decidable (Escaped t i) :=
  inferInstanceAs (Decidable (_ = 1))

/-- The case mode that a position sets: none if it is escaped. -/
def shiftAt (t : Text) (i : Nat) : Option CaseMode :=
  if Escaped t i then none else t[i]?.bind CaseMode.ofMark?

/-- **The case mode in force at a position**: the one set last before it. -/
def caseModeAt (t : Text) (i : Nat) : CaseMode :=
  ((List.range i).filterMap (shiftAt t)).getLast?.getD .plain

/-- The slot of a position, if it has one. -/
def slotAt (t : Text) (i : Nat) : Option Slot :=
  t[i]?.bind fun c =>
    if Escaped t i then some ⟨.literal c, caseModeAt t i, true⟩
    else if c ∈ directives then none
    else some ⟨.ofChar c, caseModeAt t i, false⟩

/-- The slot of a last backslash that escapes nothing. -/
def danglingSlot (t : Text) : List Slot :=
  if trailingMarks t % 2 = 1 then [⟨.literal escapeMark, caseModeAt t t.length, true⟩] else []

/-- **The slots of a mask text, position by position.** -/
def slots (t : Text) : List Slot :=
  (List.range t.length).filterMap (slotAt t) ++ danglingSlot t

/-- The end is escaped when an odd run of backslashes ends the text. -/
theorem escaped_length (t : Text) : Escaped t t.length ↔ trailingMarks t % 2 = 1 := by
  unfold Escaped
  rw [List.take_length]

/-! ## 4. From a position to the next -/

theorem trailingMarks_concat (t : Text) (c : Char) :
    trailingMarks (t ++ [c]) = if c = escapeMark then trailingMarks t + 1 else 0 := by
  unfold trailingMarks
  rw [List.reverse_append, List.reverse_singleton, List.singleton_append, List.takeWhile_cons]
  split <;> simp_all

section Steps

variable {t : Text} {i : Nat} {c : Char}

theorem escaped_succ (hc : t[i]? = some c) :
    Escaped t (i + 1) ↔ c = escapeMark ∧ ¬Escaped t i := by
  unfold Escaped
  rw [List.take_add_one, hc, Option.toList_some, trailingMarks_concat]
  split
  · rename_i h
    simp only [h, true_and]
    omega
  · rename_i h
    simp [h]

theorem caseModeAt_succ (t : Text) (i : Nat) :
    caseModeAt t (i + 1) = (shiftAt t i).getD (caseModeAt t i) := by
  unfold caseModeAt
  rw [List.range_succ, List.filterMap_append, List.getLast?_append]
  cases hs : shiftAt t i <;> simp [hs]

/-- An escaped character takes a slot and sets no case mode. -/
theorem slotAt_of_escaped (hc : t[i]? = some c) (he : Escaped t i) :
    slotAt t i = some ⟨.literal c, caseModeAt t i, true⟩ := by
  unfold slotAt
  rw [hc, Option.bind_some, if_pos he]

theorem slotAt_of_mem (hc : t[i]? = some c) (he : ¬Escaped t i) (hd : c ∈ directives) :
    slotAt t i = none := by
  unfold slotAt
  rw [hc, Option.bind_some, if_neg he, if_pos hd]

theorem slotAt_of_not_mem (hc : t[i]? = some c) (he : ¬Escaped t i) (hd : c ∉ directives) :
    slotAt t i = some ⟨.ofChar c, caseModeAt t i, false⟩ := by
  unfold slotAt
  rw [hc, Option.bind_some, if_neg he, if_neg hd]

theorem shiftAt_of_escaped (he : Escaped t i) : shiftAt t i = none := by
  unfold shiftAt
  rw [if_pos he]

theorem shiftAt_of_not (hc : t[i]? = some c) (he : ¬Escaped t i) :
    shiftAt t i = CaseMode.ofMark? c := by
  unfold shiftAt
  rw [if_neg he, hc, Option.bind_some]

end Steps

/-- **Compiling from a position on** gives the slots from there on. The
    induction is on the characters left, one at a time: the position
    behind an escape is the first of a text whose head is escaped. -/
theorem slotsFrom_drop {t rest : Text} {i : Nat} (hi : i ≤ t.length) (hrest : t.drop i = rest) :
    (if Escaped t i then escapedSlotsFrom (caseModeAt t i) rest
      else slotsFrom (caseModeAt t i) rest) =
      (List.range' i rest.length).filterMap (slotAt t) ++ danglingSlot t := by
  induction rest generalizing i with
  | nil =>
    obtain rfl : i = t.length := Nat.le_antisymm hi (List.drop_eq_nil_iff.mp hrest)
    unfold danglingSlot
    simp only [escaped_length]
    rfl
  | cons c rest ih =>
    have hc : t[i]? = some c := by
      rw [← List.head?_drop, hrest, List.head?_cons]
    have hlt : i < t.length := (List.getElem?_eq_some_iff.mp hc).1
    have hnext : t.drop (i + 1) = rest := by rw [← List.tail_drop, hrest, List.tail_cons]
    have ih := ih hlt hnext
    have hmode := caseModeAt_succ t i
    have hesc := escaped_succ hc
    rw [List.length_cons, List.range'_succ, List.filterMap_cons]
    by_cases he : Escaped t i
    · -- an escaped character is a literal, whatever it is, and escapes nothing
      rw [shiftAt_of_escaped he, Option.getD_none] at hmode
      rw [if_neg (fun h => (hesc.mp h).2 he), hmode] at ih
      rw [if_pos he, slotAt_of_escaped hc he, escapedSlotsFrom, ih, List.cons_append]
    · rw [shiftAt_of_not hc he] at hmode
      rw [if_neg he]
      rcases char_cases c with ⟨m, rfl⟩ | rfl | hd
      · have hm : m.mark ≠ escapeMark := by cases m <;> decide
        have hd : m.mark ∈ directives := by cases m <;> decide
        rw [CaseMode.ofMark?_mark, Option.getD_some] at hmode
        rw [if_neg (fun h => hm (hesc.mp h).1), hmode] at ih
        rw [slotsFrom_mark, slotAt_of_mem hc he hd, ih]
      · rw [show CaseMode.ofMark? escapeMark = none from rfl, Option.getD_none] at hmode
        rw [if_pos (hesc.mpr ⟨rfl, he⟩), hmode] at ih
        rw [slotsFrom_escapeMark, slotAt_of_mem hc he (by decide), ih]
      · have hm : c ≠ escapeMark := fun e => hd (e ▸ by decide)
        rw [CaseMode.ofMark?_of_not_mem hd, Option.getD_none] at hmode
        rw [if_neg (fun h => hm (hesc.mp h).1), hmode] at ih
        rw [slotsFrom_plain _ _ hd, slotAt_of_not_mem hc he hd, ih, List.cons_append]

theorem compile_slots (t : Text) : (Mask.compile t).slots = slots t := by
  have h := slotsFrom_drop (t := t) (Nat.zero_le _) List.drop_zero
  rw [if_neg (fun he : Escaped t 0 => nomatch he), ← List.range_eq_range'] at h
  exact h

/-! ## 5. Texts with more behind them -/

section Append

variable {t : Text} {i : Nat} (u : Text)

theorem escaped_append (hi : i ≤ t.length) : Escaped (t ++ u) i ↔ Escaped t i := by
  unfold Escaped
  rw [List.take_append_of_le_length hi]

theorem caseModeAt_append (hi : i ≤ t.length) : caseModeAt (t ++ u) i = caseModeAt t i := by
  unfold caseModeAt
  rw [List.filterMap_congr fun j hj => ?_]
  have hj : j < t.length := Nat.lt_of_lt_of_le (List.mem_range.mp hj) hi
  simp only [shiftAt, escaped_append u (Nat.le_of_lt hj), List.getElem?_append_left hj]

/-- What a position holds does not depend on what stands behind it. -/
theorem slotAt_append (hi : i < t.length) : slotAt (t ++ u) i = slotAt t i := by
  simp only [slotAt, escaped_append u (Nat.le_of_lt hi), caseModeAt_append u (Nat.le_of_lt hi),
    List.getElem?_append_left hi]

end Append

/-- **A backslash at an escaped end** is the slot that was there without it. -/
theorem slots_concat_escapeMark {t : Text} (ht : trailingMarks t % 2 = 1) :
    slots (t ++ [escapeMark]) = slots t := by
  have he := (escaped_length t).mpr ht
  have hle := Nat.le_refl t.length
  have hlast : (t ++ [escapeMark])[t.length]? = some escapeMark := List.getElem?_concat_length
  have hesc : Escaped (t ++ [escapeMark]) t.length := (escaped_append _ hle).mpr he
  have hend : ¬trailingMarks (t ++ [escapeMark]) % 2 = 1 := by
    rw [← escaped_length, List.length_append, List.length_singleton, escaped_succ hlast]
    exact fun h => h.2 hesc
  have hfront : (List.range t.length).filterMap (slotAt (t ++ [escapeMark])) =
      (List.range t.length).filterMap (slotAt t) :=
    List.filterMap_congr fun i hi => slotAt_append _ (List.mem_range.mp hi)
  unfold slots danglingSlot
  rw [if_neg hend, if_pos ht, List.length_append, List.length_singleton, List.range_succ,
    List.filterMap_append, hfront, List.filterMap_cons, slotAt_of_escaped hlast hesc,
    List.filterMap_nil, caseModeAt_append _ hle, List.append_nil]

end Source

/-! ## 6. Compiled masks -/

/-- **The slots of a mask, read off its text.** In order of the text there
    is a slot for every escaped position and every other one without a
    directive, and one more for a last backslash that escapes nothing. So
    there are no more slots than characters; and a last backslash that
    escapes nothing may as well be doubled. -/
theorem slots_compile (t : Text) :
    (Mask.compile t).slots = Source.slots t ∧
    (Mask.compile t).length ≤ t.length ∧
    (Source.trailingMarks t % 2 = 1 →
      (Mask.compile (t ++ [escapeMark])).slots = (Mask.compile t).slots) := by
  refine ⟨Source.compile_slots t, length_slotsFrom_le _ t, fun ht => ?_⟩
  rw [Source.compile_slots, Source.compile_slots, Source.slots_concat_escapeMark ht]

/-- A directive that is escaped, a run of backslashes, and a backslash at
    the end. -/
theorem slots_compile_dangling :
    let t := ">\\\\\\<a\\".toList
    Source.trailingMarks t % 2 = 1 ∧
    (Mask.compile t).slots = [⟨.literal '\\', .upper, true⟩, ⟨.literal '<', .upper, true⟩,
      ⟨.placeholder .alnumOrSpace, .upper, false⟩, ⟨.literal '\\', .upper, true⟩] ∧
    (Mask.compile (t ++ ['\\'])).slots = (Mask.compile t).slots := by
  intro t
  have ht : Source.trailingMarks t % 2 = 1 := by decide
  obtain ⟨hslots, -, hdouble⟩ := slots_compile t
  refine ⟨ht, ?_, hdouble ht⟩
  rw [hslots]
  decide

end InputMask
