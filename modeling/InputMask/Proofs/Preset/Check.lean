/-
  File:      InputMask/Proofs/Preset/Check.lean
  Subject:   Which lists of presets are refused, and what is said of them.

  A check goes through the presets with the names that stood before and
  collects what it finds. What is wrong with a list can be told without it,
  place by place: the name and the mask of each preset.

  * `Sound` -- a preset whose mask is there and within the limit;
  * `ProblemAt` -- what is wrong with the name or the mask of the preset at a
    position of a list;
  * `Reports` -- problems that are all those of a list, in its order;
  * `reports_problems` -- the check finds these;
  * `valid_iff` -- nothing is wrong exactly with a valid list;
  * **`check_cases`** -- valid lists are given back, of all others every
    problem is told.
-/
import Mathlib.Data.List.Nodup
import InputMask.Preset.File
namespace InputMask

namespace Preset

/-! ## 1. Sound presets -/

/-- **A preset whose mask is there and within the limit.** -/
structure Sound (p : Preset) : Prop where
  nonempty : p.mask ≠ []
  length_le : p.mask.length ≤ maxMaskLength

theorem maskProblem_eq_none_iff {p : Preset} : p.maskProblem = none ↔ p.Sound := by
  unfold maskProblem
  constructor
  · intro h
    split at h
    · cases h
    · rename_i hne
      split at h
      · cases h
      · rename_i hle
        exact ⟨hne, Nat.le_of_not_lt hle⟩
  · rintro ⟨hne, hle⟩
    rw [if_neg hne, if_neg (Nat.not_lt.mpr hle)]

theorem problemsFrom_cons_eq_nil_iff {seen : List Text} {p : Preset} {ps : List Preset} :
    problemsFrom seen (p :: ps) = [] ↔
      p.nameProblem seen = none ∧ p.maskProblem = none ∧ problemsFrom (p.name :: seen) ps = [] := by
  rw [problemsFrom, List.append_eq_nil_iff, List.append_eq_nil_iff, Option.toList_eq_nil_iff,
    Option.toList_eq_nil_iff, and_assoc]

theorem sound_of_problemsFrom {seen : List Text} {ps : List Preset}
    (h : problemsFrom seen ps = []) : ∀ p ∈ ps, p.Sound := by
  induction ps generalizing seen with
  | nil => exact nofun
  | cons p ps ih =>
    obtain ⟨-, hmask, hrest⟩ := problemsFrom_cons_eq_nil_iff.mp h
    exact List.forall_mem_cons.mpr ⟨maskProblem_eq_none_iff.mp hmask, ih hrest⟩

theorem check_eq_ok_iff {ps qs : List Preset} : check ps = .ok qs ↔ problems ps = [] ∧ ps = qs := by
  unfold check
  split
  · rename_i h
    simp [h]
  · rename_i h
    simp [h]

section Load

variable {read : Text → Option (List Preset)} {path : Text} {content : Except FileFault Text}
  {ps : List Preset}

theorem loadWith_eq_ok_iff : loadWith read path content = .ok ps ↔
    ∃ t, content = .ok t ∧ read t = some ps ∧ problems ps = [] := by
  unfold loadWith
  cases content with
  | error fault => simp
  | ok t =>
    cases hread : read t with
    | none => simp [hread]
    | some qs =>
      simp only [hread, check_eq_ok_iff, Except.ok.injEq, exists_eq_left', Option.some.injEq]
      constructor
      · rintro ⟨hnone, rfl⟩
        exact ⟨rfl, hnone⟩
      · rintro ⟨rfl, hnone⟩
        exact ⟨hnone, rfl⟩

theorem sound_of_loadWith (h : loadWith read path content = .ok ps) : ∀ p ∈ ps, p.Sound := by
  obtain ⟨_, -, -, hnone⟩ := loadWith_eq_ok_iff.mp h
  exact sound_of_problemsFrom hnone

end Load

/-! ## 2. Problems by their places -/

/-- The part of a preset that a problem is with. -/
inductive Part where
  | name
  | mask
  deriving DecidableEq, Repr

/-- **What is wrong at a position of a list.** With the name: it is empty, or
    else a preset before has it. With the mask: it is empty, or too long. -/
inductive ProblemAt (ps : List Preset) : Nat → Part → PresetProblem → Prop where
  | noName {i : Nat} {p : Preset} (hp : ps[i]? = some p) (h : p.name = []) :
      ProblemAt ps i .name .noName
  | nameTaken {i j : Nat} {p q : Preset} (hp : ps[i]? = some p) (h : p.name ≠ []) (hj : j < i)
      (hq : ps[j]? = some q) (hn : q.name = p.name) : ProblemAt ps i .name (.nameTaken p.name)
  | noMask {i : Nat} {p : Preset} (hp : ps[i]? = some p) (h : p.mask = []) :
      ProblemAt ps i .mask (.noMask p.name)
  | longMask {i : Nat} {p : Preset} (hp : ps[i]? = some p) (h : 256 < p.mask.length) :
      ProblemAt ps i .mask (.longMask p.name p.mask.length)

/-- The places where something can be wrong, numbered in their order: of
    each preset first the name, then the mask. -/
def rank : Nat × Part → Nat
  | (i, .name) => 2 * i
  | (i, .mask) => 2 * i + 1

theorem rank_injective : Function.Injective rank := by
  rintro ⟨i, part⟩ ⟨j, part'⟩ h
  have hij : i = j := by
    cases part <;> cases part' <;> simp only [rank] at h <;> omega
  cases part <;> cases part' <;> simp only [rank] at h
  · rw [hij]
  · omega
  · omega
  · rw [hij]

/-- **Problems told in order and without a gap**: each is what is wrong at its
    place, the places ascend, and none is left out from the one of a rank
    on. -/
structure ReportsFrom (ps : List Preset) (first : Nat) (places : List (Nat × Part))
    (es : List PresetProblem) : Prop where
  told : List.Forall₂ (fun x e => ProblemAt ps x.1 x.2 e) places es
  ordered : places.Pairwise fun x y => rank x < rank y
  behind : ∀ x ∈ places, first ≤ rank x
  complete : ∀ i part e, first ≤ rank (i, part) → ProblemAt ps i part e → (i, part) ∈ places

/-- **All that is wrong with a list**, in its order. -/
def Reports (ps : List Preset) (es : List PresetProblem) : Prop :=
  ∃ places, ReportsFrom ps 0 places es

section Reporting

variable {ps front : List Preset} {p : Preset} {seen : List Text} {e : PresetProblem}

theorem ProblemAt.exists_getElem? {i : Nat} {part : Part} (h : ProblemAt ps i part e) :
    ∃ p, ps[i]? = some p := by
  cases h <;> exact ⟨_, ‹ps[i]? = some _›⟩

theorem ProblemAt.lt_length {i : Nat} {part : Part} (h : ProblemAt ps i part e) :
    i < ps.length := by
  obtain ⟨p, hp⟩ := h.exists_getElem?
  exact (List.getElem?_eq_some_iff.mp hp).1

/-- One more place in front of the others, and what is wrong there, if
    anything is. -/
theorem ReportsFrom.exists_cons {x : Nat × Part} {places : List (Nat × Part)}
    {es : List PresetProblem} {found : Option PresetProblem}
    (h : ReportsFrom ps (rank x + 1) places es)
    (hfound : ∀ e, found = some e ↔ ProblemAt ps x.1 x.2 e) :
    ∃ places', ReportsFrom ps (rank x) places' (found.toList ++ es) := by
  have hsplit : ∀ i part, rank x ≤ rank (i, part) → x = (i, part) ∨ rank x + 1 ≤ rank (i, part) :=
    fun i part hle => (Nat.eq_or_lt_of_le hle).imp_left fun heq => rank_injective heq
  cases found with
  | none =>
    refine ⟨places, h.told, h.ordered, fun y hy => Nat.le_of_succ_le (h.behind y hy),
      fun i part e hle he => ?_⟩
    rcases hsplit i part hle with rfl | hlt
    · exact nomatch (hfound e).mpr he
    · exact h.complete i part e hlt he
  | some e =>
    refine ⟨x :: places, .cons ((hfound e).mp rfl) h.told,
      List.pairwise_cons.mpr ⟨fun y hy => h.behind y hy, h.ordered⟩,
      List.forall_mem_cons.mpr ⟨Nat.le_refl _, fun y hy => Nat.le_of_succ_le (h.behind y hy)⟩,
      fun i part e' hle he => ?_⟩
    rcases hsplit i part hle with rfl | hlt
    · exact List.mem_cons_self
    · exact List.mem_cons_of_mem _ (h.complete i part e' hlt he)

/-- The problem found with a name is the one at its place, where just the
    names before it were seen. -/
theorem nameProblem_eq_some_iff (hseen : ∀ n, n ∈ seen ↔ n ∈ names front) :
    p.nameProblem seen = some e ↔ ProblemAt (front ++ p :: ps) front.length .name e := by
  have hp : (front ++ p :: ps)[front.length]? = some p := by simp
  unfold nameProblem
  constructor
  · intro h
    split at h
    · rename_i hname
      cases h
      exact .noName hp hname
    · rename_i hname
      split at h
      · rename_i htaken
        cases h
        obtain ⟨q, hq, hn⟩ := List.mem_map.mp ((hseen _).mp htaken)
        obtain ⟨j, hj, rfl⟩ := List.getElem_of_mem hq
        refine .nameTaken hp hname hj ?_ hn
        rw [List.getElem?_append_left hj, List.getElem?_eq_getElem hj]
      · cases h
  · intro h
    cases h with
    | noName hp' hname =>
      cases hp.symm.trans hp'
      exact if_pos hname
    | nameTaken hp' hname hj hq hn =>
      cases hp.symm.trans hp'
      rw [List.getElem?_append_left hj] at hq
      have htaken := (hseen _).mpr (List.mem_map.mpr ⟨_, List.mem_of_getElem? hq, hn⟩)
      rw [if_neg hname, if_pos htaken]

theorem maskProblem_eq_some_iff {i : Nat} (hp : ps[i]? = some p) :
    p.maskProblem = some e ↔ ProblemAt ps i .mask e := by
  unfold maskProblem
  constructor
  · intro h
    split at h
    · rename_i hmask
      cases h
      exact .noMask hp hmask
    · split at h
      · rename_i hlong
        cases h
        exact .longMask hp hlong
      · cases h
  · intro h
    cases h with
    | noMask hp' hmask =>
      cases hp.symm.trans hp'
      exact if_pos hmask
    | longMask hp' hlong =>
      cases hp.symm.trans hp'
      have hmask : p.mask ≠ [] :=
        List.ne_nil_of_length_pos (Nat.lt_of_le_of_lt (Nat.zero_le _) hlong)
      rw [if_neg hmask]
      exact if_pos hlong

/-- The problems found from a preset on are those at its place and behind. -/
theorem exists_reportsFrom (front ps : List Preset) (hseen : ∀ n, n ∈ seen ↔ n ∈ names front) :
    ∃ places, ReportsFrom (front ++ ps) (2 * front.length) places (problemsFrom seen ps) := by
  induction ps generalizing front seen with
  | nil =>
    refine ⟨[], .nil, .nil, nofun, fun i part e hle he => ?_⟩
    have hlt := he.lt_length
    rw [List.append_nil] at hlt
    cases part <;> simp only [rank] at hle <;> omega
  | cons p ps ih =>
    have hp : (front ++ p :: ps)[front.length]? = some p := by simp
    have hseen' : ∀ n, n ∈ p.name :: seen ↔ n ∈ names (front ++ [p]) := by
      intro n
      have hnames : names (front ++ [p]) = names front ++ [p.name] := List.map_append
      rw [hnames, List.mem_cons, List.mem_append, List.mem_singleton, hseen, or_comm]
    obtain ⟨places, hrest⟩ := ih _ hseen'
    rw [List.append_assoc, List.singleton_append, List.length_append] at hrest
    obtain ⟨places, hmask⟩ := hrest.exists_cons (x := (front.length, .mask))
      fun e => maskProblem_eq_some_iff hp
    obtain ⟨places, hname⟩ := hmask.exists_cons (x := (front.length, .name))
      fun e => nameProblem_eq_some_iff hseen
    rw [problemsFrom, List.append_assoc]
    exact ⟨places, hname⟩

/-- **The check finds all that is wrong with a list**, in its order. -/
theorem reports_problems (ps : List Preset) : Reports ps (problems ps) :=
  exists_reportsFrom [] ps fun _ => Iff.rfl

/-- Nothing is told of a list exactly where nothing is wrong. -/
theorem Reports.eq_nil_iff {es : List PresetProblem} (h : Reports ps es) :
    es = [] ↔ ∀ i part e, ¬ProblemAt ps i part e := by
  obtain ⟨places, h⟩ := h
  constructor
  · rintro rfl i part e he
    cases List.forall₂_nil_right_iff.mp h.told
    exact List.not_mem_nil (h.complete i part e (Nat.zero_le _) he)
  · intro hnone
    cases htold : h.told with
    | nil => rfl
    | cons he _ => exact absurd he (hnone _ _ _)

end Reporting

/-! ## 3. Valid lists -/

/-- **A valid list of presets**: each has a name, no two have the same one,
    and each has a mask of 1 to 256 characters. -/
structure Valid (ps : List Preset) : Prop where
  named : ∀ p ∈ ps, p.name ≠ []
  distinct : (names ps).Nodup
  masked : ∀ p ∈ ps, 1 ≤ p.mask.length ∧ p.mask.length ≤ 256

instance (ps : List Preset) : Decidable (Valid ps) :=
  decidable_of_iff
    ((∀ p ∈ ps, p.name ≠ []) ∧ (names ps).Nodup ∧
      ∀ p ∈ ps, 1 ≤ p.mask.length ∧ p.mask.length ≤ 256)
    ⟨fun ⟨hn, hd, hm⟩ => ⟨hn, hd, hm⟩, fun h => ⟨h.named, h.distinct, h.masked⟩⟩

theorem names_getElem? (ps : List Preset) (i : Nat) : (names ps)[i]? = ps[i]?.map Preset.name :=
  List.getElem?_map

/-- **Nothing is wrong exactly with a valid list.** -/
theorem valid_iff {ps : List Preset} : Valid ps ↔ ∀ i part e, ¬ProblemAt ps i part e := by
  constructor
  · intro h i part e he
    cases he with
    | noName hp hname => exact h.named _ (List.mem_of_getElem? hp) hname
    | nameTaken hp _ hj hq hn =>
      refine List.nodup_iff_getElem?_ne_getElem?.mp h.distinct _ i hj ?_ ?_
      · rw [names, List.length_map]
        exact (List.getElem?_eq_some_iff.mp hp).1
      · rw [names_getElem?, names_getElem?, hp, hq, Option.map_some, Option.map_some, hn]
    | noMask hp hmask =>
      have hlen := (h.masked _ (List.mem_of_getElem? hp)).1
      rw [hmask] at hlen
      exact Nat.not_succ_le_zero 0 hlen
    | longMask hp hlong =>
      exact absurd (h.masked _ (List.mem_of_getElem? hp)).2 (Nat.not_le.mpr hlong)
  · intro h
    have hat : ∀ p ∈ ps, ∃ i, ps[i]? = some p := fun p => List.mem_iff_getElem?.mp
    have hnamed : ∀ p ∈ ps, p.name ≠ [] := by
      intro p hp hname
      obtain ⟨i, hi⟩ := hat p hp
      exact h _ _ _ (.noName hi hname)
    refine ⟨hnamed, List.nodup_iff_getElem?_ne_getElem?.mpr fun j i hj hi heq => ?_,
      fun p hp => ?_⟩
    · rw [names, List.length_map] at hi
      have hp : ps[i]? = some ps[i] := List.getElem?_eq_getElem hi
      have hq : ps[j]? = some ps[j] := List.getElem?_eq_getElem (Nat.lt_trans hj hi)
      rw [names_getElem?, names_getElem?, hp, hq, Option.map_some, Option.map_some] at heq
      exact h _ _ _ (.nameTaken hp (hnamed _ (List.mem_of_getElem? hp)) hj hq (Option.some.inj heq))
    · obtain ⟨i, hi⟩ := hat p hp
      constructor
      · refine List.length_pos_iff.mpr fun hmask => ?_
        exact h _ _ _ (.noMask hi hmask)
      · refine Nat.le_of_not_lt fun hlong => ?_
        exact h _ _ _ (.longMask hi hlong)

theorem problems_eq_nil_iff {ps : List Preset} : problems ps = [] ↔ Valid ps :=
  (reports_problems ps).eq_nil_iff.trans valid_iff.symm

/-- **Checking a list of presets.** A valid one is given back. Of any other
    one all that is wrong is told, in its order, each problem in a line of its
    own behind a line that says so. A file is loaded by checking the list that
    is read from it, however it is read. -/
theorem check_cases (ps : List Preset) :
    ((∃ qs, check ps = .ok qs) ↔ Valid ps) ∧
    (Valid ps → check ps = .ok ps) ∧
    (¬Valid ps → ∃ es, check ps = .error (.invalid es) ∧ Reports ps es ∧
      (PresetError.invalid es).message =
        Text.joinLines ("Preset validation failed:".toList :: es.map PresetProblem.message)) ∧
    ∀ (read : Text → Option (List Preset)) (path t : Text),
      read t = some ps → loadWith read path (.ok t) = check ps := by
  have hok : Valid ps → check ps = .ok ps := fun h =>
    check_eq_ok_iff.mpr ⟨problems_eq_nil_iff.mpr h, rfl⟩
  refine ⟨⟨?_, fun h => ⟨ps, hok h⟩⟩, hok, fun h => ?_, fun read path t hread => ?_⟩
  · rintro ⟨qs, hqs⟩
    exact problems_eq_nil_iff.mp (check_eq_ok_iff.mp hqs).1
  · exact ⟨problems ps, if_neg (mt problems_eq_nil_iff.mp h), reports_problems ps, rfl⟩
  · unfold loadWith
    simp only [hread]

/-- Three presets with four problems between them: one has neither name nor
    mask, and one takes a name that stands before it and has a mask that is
    one character too long. -/
theorem check_cases_four :
    let long := List.replicate 257 '0'
    let t := ("presets:\n- name: ''\n  mask: ''\n- name: zip\n  mask: '00000'\n" ++
      "- name: zip\n  mask: ").toList ++ long
    let ps : List Preset := [blank, { blank with name := "zip".toList, mask := "00000".toList },
      { blank with name := "zip".toList, mask := long }]
    let es : List PresetProblem :=
      [.noName, .noMask [], .nameTaken "zip".toList, .longMask "zip".toList 257]
    (ofText? t = some ps ∧ ¬Valid ps) ∧
    load "own.yaml".toList (.ok t) = .error (.invalid es) ∧ Reports ps es ∧
    (PresetError.invalid es).message =
      ("Preset validation failed:\nA preset has an empty `name` field.\n" ++
        "Preset '' has an empty `mask` field.\nDuplicate preset name found: 'zip'.\n" ++
        "Preset 'zip': mask length (257) exceeds maximum allowed (256)").toList := by
  intro long t ps es
  have hread : ofText? t = some ps := by decide +kernel
  have hnot : ¬Valid ps := by decide +kernel
  obtain ⟨-, -, hcheck, hload⟩ := check_cases ps
  obtain ⟨es', herror, hreports, hmessage⟩ := hcheck hnot
  have hes : check ps = .error (.invalid es) := by decide +kernel
  cases hes.symm.trans herror
  refine ⟨⟨hread, hnot⟩, (hload ofText? _ t hread).trans hes, hreports, hmessage.trans ?_⟩
  decide +kernel

end Preset

end InputMask
