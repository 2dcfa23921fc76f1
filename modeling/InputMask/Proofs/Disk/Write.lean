/-
  File:      InputMask/Proofs/Disk/Write.lean
  Subject:   What making and writing a file leave as it was.

  * `SameAway` -- a disk that differs from another one at most in the file at
    one place, so that paths lead where they led;
  * `sameAway_put` -- so does a disk on which a file was put where a path
    leads, because it makes no new directory (`isDirectory_put`);
  * **`sameAway_create`**, **`sameAway_append`** -- making a file and writing
    to it change only that file;
  * `SameAway.contentAt?_ne` -- told by paths: only those that lead to its
    place find something else.
-/
import InputMask.Proofs.Disk.Path
namespace InputMask.Disk

/-! ## 1. A file that is put -/

theorem any_putFile (g : Place → Bool) (p : Place) (content : Content)
    (fs : List (Place × Content)) :
    (putFile p content fs).any (fun f => g f.1) = (fs.any (fun f => g f.1) || g p) := by
  induction fs with
  | nil => simp [putFile]
  | cons f fs ih =>
    unfold putFile
    split
    · rename_i h
      subst h
      simp [Bool.or_comm]
    · simp [ih, Bool.or_assoc]

/-- **A disk that is another one but for the file at a place**: paths lead
    where they led, and every other file is as it was. -/
structure SameAway (p : Place) (d d' : Disk) : Prop where
  resolve_iff : ∀ path r, d'.resolve path = .ok r ↔ d.resolve path = .ok r
  fileAt?_eq : ∀ q, q ≠ p → d'.fileAt? q = d.fileAt? q

section Put

variable {d : Disk} {p : Place} (content : Content)

/-- A file below directories makes no place a directory. -/
theorem isDirectory_put (hp : d.Rooted p) (x : Place) :
    (d.put p content).isDirectory x = d.isDirectory x := by
  have habove : (x.isSuffixOf p && decide (x.length < p.length)) = true →
      d.isDirectory x = true := by
    intro h
    rw [Bool.and_eq_true, List.isSuffixOf_iff_suffix, decide_eq_true_eq] at h
    exact hp x h.1 fun e => Nat.lt_irrefl _ (e ▸ h.2)
  have hany := any_putFile (fun q => x.isSuffixOf q && x.length < q.length) p content d.files
  unfold isDirectory put workingPlace
  dsimp only
  rw [hany, ← Bool.or_assoc]
  cases hx : (x.isSuffixOf p && decide (x.length < p.length)) with
  | false => exact Bool.or_false _
  | true =>
    rw [Bool.or_true]
    exact (habove hx).symm

/-- Where there was a file already, or no directory, no way went on. -/
theorem walk_put (hp : d.Rooted p) (hend : (d.fileAt? p).isSome = true ∨ d.isDirectory p = false)
    (start r : Place) (names : List Text) :
    (d.put p content).walk start names = .ok r ↔ d.walk start names = .ok r := by
  have hbars (q : Place) : (d.put p content).bars q .enter = d.bars q .enter := rfl
  induction names generalizing start with
  | nil => exact Iff.rfl
  | cons name rest ih =>
    rw [walk_cons_eq_ok_iff, walk_cons_eq_ok_iff, isDirectory_put content hp, fileAt?_put, hbars]
    by_cases hs : p = start
    · subst hs
      rw [if_pos rfl]
      refine iff_of_false nofun ?_
      rintro ⟨hfile, hdir, -⟩
      rcases hend with hsome | hnone
      · rw [hfile] at hsome
        cases hsome
      · rw [hnone] at hdir
        cases hdir
    · rw [if_neg hs]
      exact and_congr_right fun _ => and_congr_right fun _ => and_congr_right fun _ =>
        and_congr_right fun _ => ih _

theorem sameAway_put (hp : d.Rooted p)
    (hend : (d.fileAt? p).isSome = true ∨ d.isDirectory p = false) :
    SameAway p d (d.put p content) where
  resolve_iff path r := by
    rw [resolve_eq_ok_iff, resolve_eq_ok_iff]
    exact and_congr_right fun _ => and_congr_right fun _ => walk_put content hp hend _ r _
  fileAt?_eq q hq := by
    rw [fileAt?_put]
    exact if_neg fun e => hq e.symm

end Put

/-! ## 2. Writes -/

section Write

variable {d d' d'' : Disk} {p : Place}

theorem SameAway.refl (p : Place) (d : Disk) : SameAway p d d where
  resolve_iff _ _ := Iff.rfl
  fileAt?_eq _ _ := rfl

theorem SameAway.trans (h : SameAway p d d') (h' : SameAway p d' d'') : SameAway p d d'' where
  resolve_iff path r := (h'.resolve_iff path r).trans (h.resolve_iff path r)
  fileAt?_eq q hq := (h'.fileAt?_eq q hq).trans (h.fileAt?_eq q hq)

/-- **A file that is made** is at the place its path leads to, is empty, and
    is the only file that may have changed. -/
theorem sameAway_create {path : Text} (h : d.create path = .ok (p, d')) :
    d.resolve path = .ok p ∧ d'.fileAt? p = some (.text []) ∧ SameAway p d d' := by
  unfold create at h
  rw [Result.bind_eq_ok_iff] at h
  obtain ⟨q, hq, h⟩ := h
  split at h
  · cases h
  · rename_i hdir
    rw [Bool.or_eq_true, not_or, Bool.not_eq_true, Bool.not_eq_true] at hdir
    split at h
    · cases h
    · cases h
      refine ⟨hq, ?_, sameAway_put _ (rooted_resolve hq) (.inr hdir.2)⟩
      rw [fileAt?_put]
      exact if_pos rfl

/-- **What is written to a file** changes no other file. -/
theorem sameAway_append (d : Disk) (p : Place) (t : Text) : SameAway p d (d.append p t) := by
  unfold append
  split
  · rename_i held hfile
    exact sameAway_put _ (rooted_of_fileAt? hfile) (.inl (Option.isSome_of_eq_some hfile))
  · exact SameAway.refl p d

theorem contentAt?_of_resolve {path : Text} {r : Place} (h : d.resolve path = .ok r) :
    d.contentAt? path = d.fileAt? r := by
  unfold contentAt?
  rw [h]

/-- Only a path that leads to the place finds something else there. -/
theorem SameAway.contentAt?_ne {path : Text} (h : SameAway p d d')
    (hne : d'.contentAt? path ≠ d.contentAt? path) : d.resolve path = .ok p := by
  cases hq : d.resolve path with
  | ok r =>
    rw [contentAt?_of_resolve ((h.resolve_iff path r).mpr hq), contentAt?_of_resolve hq] at hne
    by_cases hr : r = p
    · rw [hr]
    · exact absurd (h.fileAt?_eq r hr) hne
  | error fault =>
    unfold contentAt? at hne
    rw [hq] at hne
    cases hq' : d'.resolve path with
    | ok r => exact nomatch ((h.resolve_iff path r).mp hq').symm.trans hq
    | error fault' =>
      rw [hq'] at hne
      exact absurd rfl hne

end Write

end InputMask.Disk
