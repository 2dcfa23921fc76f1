/-
  File:      InputMask/Proofs/Preset/Merge.lean
  Subject:   Merged lists of presets.

  A merge puts presets into a list one after the other, and one of them can
  take the place of another that came just before. So the laws of whole
  merges rest on those of two presets put into one list: the second one wins
  under the same name, and under two names the order does not matter, unless
  both are new.

  * `put_put`, `put_comm`, `put_eq_self` -- two presets put into a list;
  * `find?_merge`, `names_merge`, `nodup_names_merge` -- the presets and the
    names of a merged list;
  * `merge_put_of_not_mem`, `merge_put_of_mem` -- a preset put into the list
    that others are merged into;
  * `merge_eq_self`, `merge_merge` -- merges that change nothing, and merges
    of merges;
  * **`overlaid_merge`** -- what a merged list holds, and how merges go
    together.
-/
import InputMask.Preset
namespace InputMask

namespace Preset

variable {name : Text} {p q : Preset} {ps base added : List Preset}

/-! ## 1. The preset of a name -/

/-- **The first preset of a name** in a list. -/
def IsFirst (name : Text) (ps : List Preset) (p : Preset) : Prop :=
  ∃ front back, ps = front ++ p :: back ∧ p.name = name ∧ name ∉ names front

/-- **The last preset of a name** in a list. -/
def IsLast (name : Text) (ps : List Preset) (p : Preset) : Prop :=
  ∃ front back, ps = front ++ p :: back ∧ p.name = name ∧ name ∉ names back

theorem mem_names_iff : name ∈ names ps ↔ ∃ p ∈ ps, p.name = name :=
  List.mem_map

theorem not_mem_names_iff : name ∉ names ps ↔ ∀ p ∈ ps, p.name ≠ name := by
  rw [mem_names_iff]
  simp

theorem find?_eq_none_iff : find? name ps = none ↔ name ∉ names ps := by
  unfold find?
  rw [List.find?_eq_none, not_mem_names_iff]
  simp

theorem find?_eq_some_iff : find? name ps = some p ↔ IsFirst name ps p := by
  unfold find? IsFirst
  simp only [List.find?_eq_some_iff_append, not_mem_names_iff]
  constructor
  · rintro ⟨hp, front, back, heq, hfront⟩
    exact ⟨front, back, heq, of_decide_eq_true hp, by simpa using hfront⟩
  · rintro ⟨front, back, heq, hp, hfront⟩
    exact ⟨decide_eq_true hp, front, back, heq, by simpa using hfront⟩

@[simp] theorem mem_names_reverse : name ∈ names ps.reverse ↔ name ∈ names ps := by
  rw [mem_names_iff, mem_names_iff]
  simp only [List.mem_reverse]

theorem isFirst_reverse : IsFirst name ps.reverse p ↔ IsLast name ps p := by
  constructor
  · rintro ⟨front, back, heq, hp, hfront⟩
    refine ⟨back.reverse, front.reverse, ?_, hp, mt mem_names_reverse.mp hfront⟩
    rw [← List.reverse_reverse ps, heq]
    simp
  · rintro ⟨front, back, rfl, hp, hback⟩
    refine ⟨back.reverse, front.reverse, ?_, hp, mt mem_names_reverse.mp hback⟩
    simp

theorem find?_reverse_eq_none (h : name ∉ names ps) : find? name ps.reverse = none :=
  find?_eq_none_iff.mpr (mt mem_names_reverse.mp h)

/-- A name in a list is that of a last preset. -/
theorem exists_isLast (h : name ∈ names ps) : ∃ p, IsLast name ps p := by
  obtain ⟨p, hp⟩ := Option.ne_none_iff_exists'.mp fun hnone =>
    find?_eq_none_iff.mp hnone (mem_names_reverse.mpr h)
  exact ⟨p, isFirst_reverse.mp (find?_eq_some_iff.mp hp)⟩

theorem IsFirst.mem_names (h : IsFirst name ps p) : name ∈ names ps := by
  obtain ⟨front, back, rfl, hp, -⟩ := h
  exact mem_names_iff.mpr ⟨p, List.mem_append_right _ List.mem_cons_self, hp⟩

theorem isLast_cons_self (h : p.name ∉ names ps) : IsLast p.name (p :: ps) p :=
  ⟨[], ps, rfl, rfl, h⟩

theorem IsLast.cons (h : IsLast name ps p) (q : Preset) : IsLast name (q :: ps) p := by
  obtain ⟨front, back, rfl, hp, hback⟩ := h
  exact ⟨q :: front, back, rfl, hp, hback⟩

theorem find_eq_ok_iff : find name ps = .ok p ↔ find? name ps = some p := by
  unfold find
  split
  · rename_i h
    simp [h]
  · rename_i h
    simp [h]

/-! ## 2. Two presets put into a list -/

theorem put_cons_of_eq (h : q.name = p.name) (ps : List Preset) : put p (q :: ps) = p :: ps :=
  if_pos h

theorem put_cons_of_ne (h : q.name ≠ p.name) (ps : List Preset) :
    put p (q :: ps) = q :: put p ps :=
  if_neg h

/-- Of two presets of one name the second one stays. -/
theorem put_put (h : q.name = p.name) (ps : List Preset) : put p (put q ps) = put p ps := by
  induction ps with
  | nil => exact put_cons_of_eq h []
  | cons r ps ih =>
    by_cases hr : r.name = q.name
    · rw [put_cons_of_eq hr, put_cons_of_eq h, put_cons_of_eq (hr.trans h)]
    · have hp : r.name ≠ p.name := fun e => hr (e.trans h.symm)
      rw [put_cons_of_ne hr, put_cons_of_ne hp, put_cons_of_ne hp, ih]

/-- Presets of two names may be put in either order, if one of them takes a
    place that is there. -/
theorem put_comm (h : p.name ≠ q.name) (hp : p.name ∈ names ps) :
    put p (put q ps) = put q (put p ps) := by
  induction ps with
  | nil => exact absurd hp List.not_mem_nil
  | cons r ps ih =>
    by_cases hrp : r.name = p.name
    · have hrq : r.name ≠ q.name := fun e => h (hrp.symm.trans e)
      rw [put_cons_of_ne hrq, put_cons_of_eq hrp, put_cons_of_eq hrp, put_cons_of_ne h]
    · rw [put_cons_of_ne hrp ps]
      by_cases hrq : r.name = q.name
      · rw [put_cons_of_eq hrq, put_cons_of_eq hrq, put_cons_of_ne h.symm]
      · have hps : p.name ∈ names ps := (List.mem_cons.mp hp).resolve_left (Ne.symm hrp)
        rw [put_cons_of_ne hrq, put_cons_of_ne hrq, put_cons_of_ne hrp, ih hps]

/-- A preset takes the place of the first one of its name. -/
theorem put_append_cons {front : List Preset} (h : p.name ∉ names front) (hq : q.name = p.name)
    (back : List Preset) : put p (front ++ q :: back) = front ++ p :: back := by
  induction front with
  | nil => exact put_cons_of_eq hq back
  | cons r front ih =>
    obtain ⟨hr, hfront⟩ := not_or.mp (mt List.mem_cons.mpr h)
    rw [List.cons_append, put_cons_of_ne (Ne.symm hr), ih hfront, List.cons_append]

/-- A preset that its name stands for is there already. -/
theorem put_eq_self (h : IsFirst p.name ps p) : put p ps = ps := by
  obtain ⟨front, back, rfl, -, hfront⟩ := h
  exact put_append_cons hfront rfl back

theorem mem_names_put (h : name ∈ names ps) (p : Preset) : name ∈ names (put p ps) := by
  rw [names_put]
  split
  · exact h
  · exact List.mem_append_left _ h

theorem name_mem_names_put (p : Preset) (ps : List Preset) : p.name ∈ names (put p ps) := by
  rw [names_put]
  split
  · assumption
  · exact List.mem_append_right _ List.mem_cons_self

theorem nodup_names_put (h : (names ps).Nodup) (p : Preset) : (names (put p ps)).Nodup := by
  rw [names_put]
  split
  · exact h
  · rename_i hp
    refine List.nodup_append.mpr ⟨h, List.pairwise_singleton _ _, fun n hn n' hn' heq => hp ?_⟩
    rwa [← List.mem_singleton.mp hn', ← heq]

/-! ## 3. Presets and names of a merged list -/

theorem merge_cons (base : List Preset) (p : Preset) (added : List Preset) :
    merge base (p :: added) = merge (put p base) added := rfl

theorem find?_merge (name : Text) (base added : List Preset) :
    find? name (merge base added) = (find? name added.reverse).or (find? name base) := by
  induction added generalizing base with
  | nil => rfl
  | cons p added ih =>
    have hlast : find? name (p :: added).reverse =
        (find? name added.reverse).or (find? name [p]) := by
      unfold find?
      rw [List.reverse_cons, List.find?_append]
    have hone : find? name [p] = if p.name = name then some p else none := by
      by_cases hp : p.name = name <;> simp [find?, hp]
    rw [merge_cons, ih, find?_put, hlast, hone, Option.or_assoc]
    split <;> simp

/-- The names of a merged list are those that were there, and behind them
    each new one where it comes first. -/
theorem names_merge (base added : List Preset) :
    names (merge base added) =
      names base ++ ((names added).filter (· ∉ names base)).eraseDups := by
  induction added generalizing base with
  | nil => simp [merge, names]
  | cons p added ih =>
    have hnames : names (p :: added) = p.name :: names added := rfl
    rw [merge_cons, ih, names_put, hnames]
    by_cases hp : p.name ∈ names base
    · rw [if_pos hp, List.filter_cons_of_neg (by simpa using hp)]
    · have hrest : (names added).filter (· ∉ names base ++ [p.name]) =
          ((names added).filter (· ∉ names base)).filter (fun n => !n == p.name) := by
        rw [List.filter_filter]
        congr 1
        funext n
        by_cases hn : n = p.name <;> simp [hn]
      rw [if_neg hp, List.filter_cons_of_pos (by simpa using hp), List.eraseDups_cons, hrest,
        List.append_assoc, List.singleton_append]

theorem nodup_names_merge (h : (names base).Nodup) (added : List Preset) :
    (names (merge base added)).Nodup := by
  induction added generalizing base with
  | nil => exact h
  | cons p added ih => exact ih (nodup_names_put h p)

/-! ## 4. Merges of merges -/

/-- A preset may be put after others are merged, if it takes a place that is
    there and none of the others has its name. -/
theorem merge_put_of_not_mem (hps : p.name ∈ names ps) (hp : p.name ∉ names added) :
    merge (put p ps) added = put p (merge ps added) := by
  induction added generalizing ps with
  | nil => rfl
  | cons q added ih =>
    obtain ⟨hq, hp⟩ := not_or.mp (mt List.mem_cons.mpr hp)
    rw [merge_cons, merge_cons, ← put_comm hq hps, ih (mem_names_put hps q) hp]

/-- A preset whose place another one of its name takes need not be put. -/
theorem merge_put_of_mem (hps : p.name ∈ names ps) (hp : p.name ∈ names added) :
    merge (put p ps) added = merge ps added := by
  induction added generalizing ps with
  | nil => exact absurd hp List.not_mem_nil
  | cons q added ih =>
    rw [merge_cons, merge_cons]
    by_cases hq : p.name = q.name
    · rw [put_put hq]
    · have hp : p.name ∈ names added := (List.mem_cons.mp hp).resolve_left hq
      rw [← put_comm hq hps, ih (mem_names_put hps q) hp]

/-- **Presets that are there are merged in vain.** -/
theorem merge_eq_self (h : ∀ p, IsLast p.name added p → IsFirst p.name ps p) :
    merge ps added = ps := by
  induction added with
  | nil => rfl
  | cons p added ih =>
    have hrest : merge ps added = ps := ih fun q hq => h q (hq.cons p)
    rw [merge_cons]
    by_cases hp : p.name ∈ names added
    · -- another preset of the name comes later, and that one is there
      obtain ⟨q, hq⟩ := exists_isLast hp
      obtain ⟨-, -, -, hname, -⟩ := id hq
      have hps : p.name ∈ names ps := hname ▸ (h q (hname ▸ hq.cons p)).mem_names
      rw [merge_put_of_mem hps hp, hrest]
    · rw [put_eq_self (h p (isLast_cons_self hp)), hrest]

/-- A preset put into a list of different names may as well be put into what
    the list is merged into. -/
theorem merge_put (h : (names added).Nodup) (base : List Preset) (p : Preset) :
    merge base (put p added) = put p (merge base added) := by
  induction added generalizing base with
  | nil => rfl
  | cons q added ih =>
    obtain ⟨hq, hnodup⟩ := List.nodup_cons.mp h
    rw [merge_cons]
    by_cases hqp : q.name = p.name
    · have hmem : p.name ∈ names (put q base) := hqp ▸ name_mem_names_put q base
      rw [put_cons_of_eq hqp, merge_cons, ← merge_put_of_not_mem hmem (hqp ▸ hq), put_put hqp]
    · rw [put_cons_of_ne hqp, merge_cons, ih hnodup]

theorem merge_merge (h : (names added).Nodup) (base more : List Preset) :
    merge (merge base added) more = merge base (merge added more) := by
  induction more generalizing added with
  | nil => rfl
  | cons p more ih => rw [merge_cons, merge_cons, ← ih (nodup_names_put h p), merge_put h]

/-! ## 5. What a merged list holds -/

/-- **One list of presets overlaid with another**: of the merged list a name
    picks the last preset added under it, else the first one that was there,
    else none; and the names are those that were there, in their places, and
    behind them each new one where it comes first. -/
structure Overlaid (base added merged : List Preset) : Prop where
  picksAdded : ∀ n p, IsLast n added p → find n merged = .ok p
  picksBase : ∀ n p, n ∉ names added → IsFirst n base p → find n merged = .ok p
  picksNone : ∀ n, n ∉ names added → n ∉ names base → find n merged = .error (.notFound n)
  names_eq : names merged = names base ++ ((names added).filter (· ∉ names base)).eraseDups

/-- **Merging overlays one list with another.** Different names stay
    different. Merging the same presets once more changes nothing, and where
    their names are different, more presets may be merged into them first. -/
theorem overlaid_merge (base added : List Preset) :
    Overlaid base added (merge base added) ∧
    ((names base).Nodup → (names (merge base added)).Nodup) ∧
    merge (merge base added) added = merge base added ∧
    ((names added).Nodup →
      ∀ more, merge (merge base added) more = merge base (merge added more)) := by
  have hlast : ∀ n p, IsLast n added p → find? n (merge base added) = some p := by
    intro n p hp
    rw [find?_merge, find?_eq_some_iff.mpr (isFirst_reverse.mpr hp), Option.some_or]
  refine ⟨⟨fun n p hp => find_eq_ok_iff.mpr (hlast n p hp), fun n p hn hp => ?_,
      fun n hn hb => ?_, names_merge base added⟩,
    fun h => nodup_names_merge h added,
    merge_eq_self fun p hp => find?_eq_some_iff.mp (hlast p.name p hp),
    fun h more => merge_merge h base more⟩
  · rw [find_eq_ok_iff, find?_merge, find?_reverse_eq_none hn, Option.none_or,
      find?_eq_some_iff.mpr hp]
  · unfold find
    rw [find?_merge, find?_reverse_eq_none hn, Option.none_or, find?_eq_none_iff.mpr hb]

/-- Two presets under three names, merged in vain and with three more of which
    two have one name: that one is appended first and then replaced. -/
theorem overlaid_merge_twice :
    let named (name mask : String) : Preset :=
      { blank with name := name.toList, mask := mask.toList }
    let base := [named "zip" "00000", named "date" "00/00"]
    let added := [named "date" "00-00", named "plate" "LL-000"]
    let more := [named "pin" "0000", named "zip" "00000-9999", named "pin" "000000"]
    ((names base).Nodup ∧ (names added).Nodup ∧
      IsLast "date".toList added (named "date" "00-00") ∧ "zip".toList ∉ names added ∧
      IsFirst "zip".toList base (named "zip" "00000")) ∧
    find "date".toList (merge base added) = .ok (named "date" "00-00") ∧
    find "zip".toList (merge base added) = .ok (named "zip" "00000") ∧
    (names (merge base added)).Nodup ∧
    merge (merge base added) added = merge base added ∧
    merge (merge base added) more = merge base (merge added more) ∧
    merge base (merge added more) = [named "zip" "00000-9999", named "date" "00-00",
      named "plate" "LL-000", named "pin" "000000"] := by
  intro named base added more
  have hbase : (names base).Nodup := by decide
  have hadded : (names added).Nodup := by decide
  have hdate : IsLast "date".toList added (named "date" "00-00") :=
    ⟨[], [named "plate" "LL-000"], rfl, rfl, by decide⟩
  have hnew : "zip".toList ∉ names added := by decide
  have hzip : IsFirst "zip".toList base (named "zip" "00000") :=
    ⟨[], [named "date" "00/00"], rfl, rfl, by decide⟩
  obtain ⟨hover, hnodup, hself, hassoc⟩ := overlaid_merge base added
  exact ⟨⟨hbase, hadded, hdate, hnew, hzip⟩, hover.picksAdded _ _ hdate,
    hover.picksBase _ _ hnew hzip, hnodup hbase, hself, hassoc hadded more, by decide⟩

end Preset

end InputMask
