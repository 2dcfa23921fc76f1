/-
  File:      InputMask/Text/Case.lean
  Subject:   Lower and upper case of single characters.

  The case of a character is the character its full Unicode mapping
  gives, and the character itself where the mapping gives several
  (`ß` has the upper case `SS`, so it stays). Main statements: both
  directions are idempotent (`lower_lower`, `upper_upper`), because no
  run's images lie in a run of the same table, so that the tables make
  up a `Mapping` (`unicode`). What stands on this file asks of a case
  mapping only that it is one.
-/
import InputMask.Text.CaseRuns
namespace InputMask.Text.Case

/-- **A case mapping**: each of its directions settles after one step. -/
structure Mapping where
  lower : Char → Char
  upper : Char → Char
  lower_lower : ∀ c, lower (lower c) = lower c
  upper_upper : ∀ c, upper (upper c) = upper c

/-! ## 1. Reading a table -/

/-- Whether the run holds a code point. -/
def Run.holds (r : Run) (n : Nat) : Bool :=
  r.first ≤ n && n ≤ r.last && (n - r.first) % r.step == 0

/-- The image of a code point of the run. -/
def Run.map (r : Run) (n : Nat) : Nat := r.image + (n - r.first)

/-- The image of a code point by the run that holds it, if any does. -/
def imageIn (runs : List Run) (n : Nat) : Option Nat :=
  (runs.find? fun r => r.holds n).map fun r => r.map n

/-- A character mapped by a table; one in no run stays as it is. -/
def mapBy (runs : List Run) (c : Char) : Char :=
  match imageIn runs c.toNat with
  | some n => Char.ofNat n
  | none => c

/-- The lower case of a character, itself where there is no single one. -/
def lower (c : Char) : Char := mapBy lowerRuns c

/-- The upper case of a character, itself where there is no single one. -/
def upper (c : Char) : Char := mapBy upperRuns c

/-! ## 2. Idempotence -/

/-- No image of the first run is held by the second: the intervals are
    disjoint, or the second alternates and the images, all of one
    parity, fall between its members. -/
def Run.apart (r s : Run) : Bool :=
  r.map r.last < s.first || s.last < r.image ||
    ((r.step == 2 || r.first == r.last) && s.step == 2 &&
      (r.image + s.first) % 2 == 1)

/-- All images of the run are code points of characters. -/
def Run.valid (r : Run) : Bool :=
  r.map r.last < 0xD800 || (0xDFFF < r.image && r.map r.last < 0x110000)

/-- No image by a table lies in the table, and all images are characters. -/
def closed (runs : List Run) : Bool :=
  runs.all fun r => r.valid && runs.all fun s => r.apart s

theorem lowerRuns_closed : closed lowerRuns = true := by decide +kernel

theorem upperRuns_closed : closed upperRuns = true := by decide +kernel

/-- Runs that are apart share no image. -/
theorem holds_map_of_apart {r s : Run} {n : Nat} (ha : r.apart s = true)
    (hn : r.holds n = true) : s.holds (r.map n) = false := by
  rw [Bool.eq_false_iff]
  intro hs
  simp only [Run.holds, Bool.and_eq_true, decide_eq_true_eq, beq_iff_eq] at hn hs
  simp only [Run.map] at hs
  obtain ⟨⟨h1, h2⟩, h3⟩ := hn
  obtain ⟨⟨h4, h5⟩, h6⟩ := hs
  simp only [Run.apart, Bool.or_eq_true, Bool.and_eq_true, decide_eq_true_eq,
    beq_iff_eq] at ha
  simp only [Run.map] at ha
  rcases ha with (h | h) | ⟨⟨hr, ht⟩, hp⟩
  · omega
  · omega
  · rw [ht] at h6
    rcases hr with hr | hr
    · rw [hr] at h3
      omega
    · omega

/-- An image by a closed table is the code point of a character that
    no run of the table holds. -/
theorem imageIn_of_closed {runs : List Run} (hc : closed runs = true) {n m : Nat}
    (h : imageIn runs n = some m) : imageIn runs m = none ∧ m.isValidChar := by
  simp only [closed, List.all_eq_true, Bool.and_eq_true] at hc
  simp only [imageIn, Option.map_eq_some_iff] at h
  obtain ⟨r, hr, rfl⟩ := h
  have hmem := List.mem_of_find?_eq_some hr
  have hn : r.holds n = true := by simpa using List.find?_some hr
  refine ⟨?_, ?_⟩
  · simp only [imageIn, Option.map_eq_none_iff, List.find?_eq_none]
    intro s hs
    have := holds_map_of_apart ((hc r hmem).2 s hs) hn
    simp [this]
  · have hv := (hc r hmem).1
    simp only [Run.holds, Bool.and_eq_true, decide_eq_true_eq, beq_iff_eq] at hn
    simp only [Run.valid, Bool.or_eq_true, Bool.and_eq_true, decide_eq_true_eq] at hv
    simp only [Run.map] at hv
    simp only [Run.map, Nat.isValidChar]
    have hle : n - r.first ≤ r.last - r.first := by omega
    omega

/-- Mapping by a closed table twice is mapping once. -/
theorem mapBy_mapBy {runs : List Run} (hc : closed runs = true) (c : Char) :
    mapBy runs (mapBy runs c) = mapBy runs c := by
  cases h : imageIn runs c.toNat with
  | none =>
    have : mapBy runs c = c := by simp [mapBy, h]
    rw [this, this]
  | some m =>
    obtain ⟨hm, hv⟩ := imageIn_of_closed hc h
    have hc' : mapBy runs c = Char.ofNat m := by simp [mapBy, h]
    have hto : (Char.ofNat m).toNat = m := by
      rw [Char.ofNat, dif_pos hv]
      rfl
    rw [hc']
    simp [mapBy, hto, hm]

/-- Lower case is idempotent. -/
theorem lower_lower (c : Char) : lower (lower c) = lower c :=
  mapBy_mapBy lowerRuns_closed c

/-- Upper case is idempotent. -/
theorem upper_upper (c : Char) : upper (upper c) = upper c :=
  mapBy_mapBy upperRuns_closed c

/-- The case mapping of the Unicode tables. -/
def unicode : Mapping where
  lower := lower
  upper := upper
  lower_lower := lower_lower
  upper_upper := upper_upper

end InputMask.Text.Case
