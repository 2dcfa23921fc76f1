/-
  File:      InputMask/Proofs/Disk/Path.lean
  Subject:   Where paths lead.

  * `walk_cons_eq_ok_iff`, `resolve_eq_ok_iff` -- when a way is open;
  * **`resolve_eq_place`** -- where a path leads is told by the working
    directory and the names in the path alone, whatever the disk holds: paths
    that are spelled differently lead to one place;
  * `Rooted`, `rooted_resolve` -- all places above it are directories.
-/
import InputMask.Disk
import InputMask.Result
namespace InputMask.Disk

/-! ## 1. Ways -/

section Ways

variable {d : Disk} {p : Place}

/-- **One step of a walk**: it goes on from a directory that may be entered,
    with a name that is not too long. -/
theorem walk_cons_eq_ok_iff {name : Text} {rest : List Text} {q : Place} :
    d.walk p (name :: rest) = .ok q ↔
      d.fileAt? p = none ∧ d.isDirectory p = true ∧ d.bars p .enter = false ∧
        Path.size name ≤ Path.maxNameSize ∧ d.walk (p.enter name) rest = .ok q := by
  rw [walk]
  cases hfile : d.fileAt? p with
  | some content => simp
  | none =>
    cases hdir : d.isDirectory p with
    | false => simp
    | true =>
      cases hbar : d.bars p .enter with
      | true => simp
      | false =>
        by_cases hlong : Path.maxNameSize < Path.size name
        · simp [hlong, Nat.not_le.mpr hlong]
        · simp [hlong, Nat.le_of_not_lt hlong]

theorem resolve_eq_ok_iff {path : Text} : d.resolve path = .ok p ↔
    path ≠ [] ∧ Path.size path ≤ Path.maxSize ∧
      d.walk (Path.start d.base path) (Path.names path) = .ok p := by
  unfold resolve
  by_cases hempty : path = []
  · simp [hempty]
  · by_cases hlong : Path.maxSize < Path.size path
    · simp [hempty, hlong, Nat.not_le.mpr hlong]
    · simp [hempty, hlong, Nat.le_of_not_lt hlong]

/-- A walk that succeeds follows the names. -/
theorem follow_of_walk {names : List Text} {q : Place} (h : d.walk p names = .ok q) :
    Path.follow p names = q := by
  induction names generalizing p with
  | nil => exact Except.ok.inj h
  | cons name rest ih =>
    obtain ⟨-, -, -, -, hrest⟩ := walk_cons_eq_ok_iff.mp h
    exact ih hrest

/-- **Where a path leads** is told by where it starts and by its names. -/
theorem resolve_eq_place {path : Text} (h : d.resolve path = .ok p) :
    Path.place d.base path = p := by
  obtain ⟨-, -, hw⟩ := resolve_eq_ok_iff.mp h
  exact follow_of_walk hw

/-- Five ways to a file of the working directory, and one that passes
    through the file. -/
example : ["in", "/home/in", "//home//in", "../home/in", "/home/../../home/./in", "in/../in"].map
      (fun path => (ofFiles "/home".toList [("in".toList, .text ['1'])]).contentAt? path.toList) =
    List.replicate 5 (some (.text ['1'])) ++ [none] := by
  decide +kernel

/-- In the root directory a name and the same name behind a slash are one
    path. -/
example : (ofFiles ['/'] [("x".toList, .text [])]).contentAt? "/x".toList = some (.text []) := by
  decide +kernel

end Ways

/-! ## 2. Places above -/

section Rooted

variable {d : Disk} {p : Place}

/-- **All places above a place are directories.** -/
def Rooted (d : Disk) (p : Place) : Prop := ∀ x, x <:+ p → x ≠ p → d.isDirectory x = true

theorem isDirectory_of_isSuffix_workingPlace {x : Place} (h : x <:+ d.workingPlace) :
    d.isDirectory x = true := by
  unfold isDirectory
  rw [List.isSuffixOf_iff_suffix.mpr h, Bool.true_or, Bool.true_or]

theorem rooted_nil (d : Disk) : d.Rooted [] := fun _ hx hne =>
  absurd (List.suffix_nil.mp hx) hne

/-- Below a directory whose own places above are directories. -/
theorem Rooted.cons (h : d.Rooted p) (hp : d.isDirectory p = true) (name : Text) :
    d.Rooted (name :: p) := by
  intro x hx hne
  rcases List.suffix_cons_iff.mp hx with rfl | hx
  · exact absurd rfl hne
  · by_cases hxp : x = p
    · exact hxp ▸ hp
    · exact h x hx hxp

theorem Rooted.tail (h : d.Rooted p) : d.Rooted p.tail := by
  cases p with
  | nil => exact h
  | cons last rest =>
    intro x hx hne
    refine h x (hx.trans (List.suffix_cons last rest)) fun e => ?_
    have hlen := hx.length_le
    rw [e, List.tail_cons, List.length_cons] at hlen
    omega

theorem Rooted.enter (h : d.Rooted p) (hp : d.isDirectory p = true) (name : Text) :
    d.Rooted (p.enter name) := by
  unfold Place.enter
  split
  · exact h
  · split
    · exact h.tail
    · exact h.cons hp name

/-- Above a file there are directories. -/
theorem rooted_of_fileAt? {content : Content} (h : d.fileAt? p = some content) : d.Rooted p := by
  intro x hx hne
  have hlt : x.length < p.length := by
    refine Nat.lt_of_le_of_ne hx.length_le fun e => hne ?_
    exact hx.eq_of_length e
  obtain ⟨before, after, hfiles, -⟩ := List.lookup_eq_some_iff.mp h
  have hany : d.files.any (fun f => x.isSuffixOf f.1 && x.length < f.1.length) = true := by
    refine List.any_eq_true.mpr ⟨(p, content), ?_, ?_⟩
    · rw [hfiles]
      exact List.mem_append_right _ List.mem_cons_self
    · rw [Bool.and_eq_true, List.isSuffixOf_iff_suffix, decide_eq_true_eq]
      exact ⟨hx, hlt⟩
  unfold isDirectory
  rw [hany, Bool.or_true]

theorem rooted_walk {names : List Text} {q : Place} (h : d.Rooted p)
    (hw : d.walk p names = .ok q) : d.Rooted q := by
  induction names generalizing p with
  | nil =>
    cases hw
    exact h
  | cons name rest ih =>
    obtain ⟨-, hdir, -, -, hrest⟩ := walk_cons_eq_ok_iff.mp hw
    exact ih (h.enter hdir name) hrest

theorem rooted_start (d : Disk) (path : Text) : d.Rooted (Path.start d.base path) := by
  unfold Path.start
  split
  · exact rooted_nil d
  · exact fun x hx _ => isDirectory_of_isSuffix_workingPlace hx

theorem rooted_resolve {path : Text} (h : d.resolve path = .ok p) : d.Rooted p := by
  obtain ⟨-, -, hw⟩ := resolve_eq_ok_iff.mp h
  exact rooted_walk (d.rooted_start path) hw

end Rooted

end InputMask.Disk
