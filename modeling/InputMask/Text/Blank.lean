/-
  File:      InputMask/Text/Blank.lean
  Subject:   Texts, blank characters and trimming.

  A text is a list of characters, so every position is a count of
  characters. A character is blank when it has the Unicode property
  White_Space; trimming at the end drops the longest blank tail.

  * `trimEnd_append_of_all`: a blank tail is trimmed away.
  * `trimEnd_append_of_not`: nothing in front of a character that is
    not blank is touched.
  * `exists_trimEnd_append`: trimming only removes, and only blanks.
-/
namespace InputMask

/-- A text: its characters in order. -/
abbrev Text := List Char

namespace Text

/-! ## 1. Blank characters -/

/-- The code points with the property White_Space, as closed ranges in
    ascending order. -/
def blankRanges : List (Nat × Nat) :=
  [(0x09, 0x0D), (0x20, 0x20), (0x85, 0x85), (0xA0, 0xA0), (0x1680, 0x1680),
   (0x2000, 0x200A), (0x2028, 0x2029), (0x202F, 0x202F), (0x205F, 0x205F),
   (0x3000, 0x3000)]

/-- A character is blank when one of the ranges holds its code point. -/
def isBlank (c : Char) : Bool :=
  blankRanges.any fun r => r.1 ≤ c.toNat && c.toNat ≤ r.2

/-- A character is blank exactly when its code point lies in a range. -/
theorem isBlank_iff (c : Char) :
    isBlank c = true ↔ ∃ r ∈ blankRanges, r.1 ≤ c.toNat ∧ c.toNat ≤ r.2 := by
  simp [isBlank]

/-! ## 2. Trimming -/

/-- A text without its longest blank tail. -/
def trimEnd : Text → Text
  | [] => []
  | c :: t =>
    match trimEnd t with
    | [] => if isBlank c then [] else [c]
    | d :: u => c :: d :: u

/-- A text without its longest blank head. -/
def trimStart (t : Text) : Text := t.dropWhile isBlank

/-- A text without its blank head and blank tail. -/
def trim (t : Text) : Text := trimEnd (trimStart t)

@[simp] theorem trimEnd_nil : trimEnd [] = [] := rfl

/-- Putting a character in front either keeps it or trims all. -/
theorem trimEnd_cons (c : Char) (t : Text) :
    trimEnd (c :: t) =
      if trimEnd t = [] ∧ isBlank c = true then [] else c :: trimEnd t := by
  simp only [trimEnd]
  cases h : trimEnd t with
  | nil => by_cases hb : isBlank c = true <;> simp [hb]
  | cons d u => simp

/-- A text trims to nothing exactly when it is all blank. -/
theorem trimEnd_eq_nil_iff (t : Text) :
    trimEnd t = [] ↔ ∀ c ∈ t, isBlank c = true := by
  induction t with
  | nil => simp
  | cons c t ih =>
    rw [trimEnd_cons]
    by_cases hb : isBlank c = true
    · by_cases ht : trimEnd t = []
      · simpa [hb, ht] using ih.mp ht
      · simp only [ht, false_and, if_false, List.mem_cons, forall_eq_or_imp]
        constructor
        · intro h; cases h
        · intro h; exact absurd (ih.mpr h.2) ht
    · simp [hb]

/-- A blank tail is trimmed away. -/
theorem trimEnd_append_of_all (t : Text) {u : Text}
    (hu : ∀ c ∈ u, isBlank c = true) : trimEnd (t ++ u) = trimEnd t := by
  induction t with
  | nil => simpa using (trimEnd_eq_nil_iff u).mpr hu
  | cons c t ih => simp [trimEnd_cons, ih]

/-- What stands in front of a character that is not blank is kept. -/
theorem trimEnd_append_of_not (t : Text) {c : Char} (u : Text)
    (hc : isBlank c = false) :
    trimEnd (t ++ c :: u) = t ++ c :: trimEnd u := by
  induction t with
  | nil => simp [trimEnd_cons, hc]
  | cons d t ih =>
    have hne : t ++ c :: trimEnd u ≠ [] := by simp
    simp [trimEnd_cons, ih, hne]

/-- A character that is not blank stays in its place. -/
theorem getElem?_trimEnd {t : Text} {k : Nat} {c : Char} (h : t[k]? = some c)
    (hc : isBlank c = false) : (trimEnd t)[k]? = some c := by
  obtain ⟨hlt, rfl⟩ := List.getElem?_eq_some_iff.mp h
  have hsplit := List.take_append_drop k t
  rw [List.drop_eq_getElem_cons hlt] at hsplit
  have htrim := trimEnd_append_of_not (t.take k) (t.drop (k + 1)) hc
  have hlength : (t.take k).length = k := List.length_take_of_le (Nat.le_of_lt hlt)
  rw [hsplit] at htrim
  rw [htrim, List.getElem?_append_right (Nat.le_of_eq hlength), hlength, Nat.sub_self]
  rfl

/-- Trimming removes a blank tail and nothing else. -/
theorem exists_trimEnd_append (t : Text) :
    ∃ u, t = trimEnd t ++ u ∧ ∀ c ∈ u, isBlank c = true := by
  induction t with
  | nil => exact ⟨[], by simp⟩
  | cons c t ih =>
    obtain ⟨u, hu, hb⟩ := ih
    rw [trimEnd_cons]
    by_cases h : trimEnd t = [] ∧ isBlank c = true
    · refine ⟨c :: t, by simp [h], ?_⟩
      simpa [h.2] using (trimEnd_eq_nil_iff t).mp h.1
    · refine ⟨u, ?_, hb⟩
      rw [if_neg h, List.cons_append, ← hu]

/-- What is left after trimming stands at the front. -/
theorem trimEnd_isPrefix (t : Text) : trimEnd t <+: t := by
  obtain ⟨u, hu, _⟩ := exists_trimEnd_append t
  exact ⟨u, hu.symm⟩

/-- What a trimmed text has at a position stood there before. -/
theorem getElem?_of_trimEnd {t : Text} {k : Nat} {c : Char} (h : (trimEnd t)[k]? = some c) :
    t[k]? = some c := by
  obtain ⟨back, hback⟩ := trimEnd_isPrefix t
  rw [← hback, List.getElem?_append_left (List.getElem?_eq_some_iff.mp h).1, h]

/-- Trimming two texts in a row trims the second, and the first too when
    nothing is left of the second. -/
theorem trimEnd_append (t u : Text) :
    trimEnd (t ++ u) = if trimEnd u = [] then trimEnd t else t ++ trimEnd u := by
  by_cases hu : trimEnd u = []
  · rw [if_pos hu]
    exact trimEnd_append_of_all t ((trimEnd_eq_nil_iff u).mp hu)
  · rw [if_neg hu]
    induction t with
    | nil => rfl
    | cons c t ih =>
      have hne : t ++ trimEnd u ≠ [] := by simp [hu]
      rw [List.cons_append, trimEnd_cons, ih, if_neg (fun h => hne h.1), List.cons_append]

/-- A second trim changes nothing. -/
@[simp] theorem trimEnd_trimEnd (t : Text) : trimEnd (trimEnd t) = trimEnd t := by
  obtain ⟨u, hu, hb⟩ := exists_trimEnd_append t
  have h := trimEnd_append_of_all (trimEnd t) hb
  rw [← hu] at h
  exact h.symm

/-- A text that does not end in a blank is left alone. -/
theorem trimEnd_eq_self {t : Text} (h : t.getLast?.any isBlank = false) :
    trimEnd t = t := by
  rcases List.eq_nil_or_concat t with rfl | ⟨front, c, rfl⟩
  · rfl
  · rw [List.concat_eq_append] at h ⊢
    have hc : isBlank c = false := by simpa using h
    rw [trimEnd_append_of_not front [] hc, trimEnd_nil]

/-- What is left after trimming does not end in a blank. -/
theorem getLast?_trimEnd (t : Text) : (trimEnd t).getLast?.any isBlank = false := by
  induction t with
  | nil => rfl
  | cons c t ih =>
    rw [trimEnd_cons]
    cases ht : trimEnd t with
    | nil =>
      cases hc : isBlank c with
      | true =>
        rw [if_pos ⟨rfl, rfl⟩]
        rfl
      | false =>
        rw [if_neg (fun h => nomatch h.2)]
        exact hc
    | cons d u =>
      rw [ht] at ih
      rw [if_neg (fun h => nomatch h.1), List.getLast?_cons_cons]
      exact ih

/-- A text without blanks is left alone. -/
theorem trim_eq_self {t : Text} (h : ∀ c ∈ t, isBlank c = false) : trim t = t := by
  have hstart : trimStart t = t := by
    unfold trimStart
    cases t with
    | nil => rfl
    | cons c t => rw [List.dropWhile_cons_of_neg (by simp [h c List.mem_cons_self])]
  unfold trim
  rw [hstart]
  apply trimEnd_eq_self
  cases hlast : t.getLast? with
  | none => rfl
  | some c => exact h c (List.mem_of_getLast? hlast)

/-- Trimming never makes a text longer. -/
theorem length_trimEnd_le (t : Text) : (trimEnd t).length ≤ t.length :=
  (trimEnd_isPrefix t).length_le

/-- A trimmed text stands as it is in front of other text, unless that
    is blank and all is trimmed back to it. -/
theorem trimEnd_trimEnd_append_eq_iff (t u : Text) :
    trimEnd (trimEnd t ++ u) = trimEnd t ↔ ∀ c ∈ u, isBlank c = true := by
  rw [trimEnd_append, trimEnd_trimEnd, ← trimEnd_eq_nil_iff]
  by_cases hu : trimEnd u = []
  · simp [hu]
  · rw [if_neg hu]
    constructor
    · intro h
      exact List.append_cancel_left (h.trans (List.append_nil _).symm)
    · intro h
      exact absurd h hu

/-- Trimming does not reach into a trimmed text in front. -/
theorem length_trimEnd_append_ge (t u : Text) :
    (trimEnd t).length ≤ (trimEnd (trimEnd t ++ u)).length := by
  rw [trimEnd_append, trimEnd_trimEnd]
  split
  · exact Nat.le_refl _
  · rw [List.length_append]
    exact Nat.le_add_right _ _

end Text

end InputMask
