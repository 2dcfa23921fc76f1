/-
  File:      InputMask/Proofs/Cache/Freshness.lean
  Subject:   Masks from a store are never stale.

  A store only grows, at its end. So an entry that is found once is found
  under its number ever after, and all that was given out in a run is what
  the store at its end would give out again. That settles at one place which
  requests got the same entry.

  * `Cache.find?_fetch`, `Cache.find?_fetch_of_find?` -- a request answers
    what is found from then on, and what was found before is found again;
  * `Cache.number_eq_iff` -- one number is one text;
  * `Engine.Fresh` -- an engine has the mask that its configuration names;
    making and changing it keep this;
  * `Workspace.needed`, `Workspace.alone` -- the texts that actions ask for
    and the engines that they leave, told without a store;
  * `Workspace.step_eq` -- what an action does on a store;
  * `Workspace.forall₂_run`, `Workspace.engines_run` -- what was given out in
    a run, and the engines it leaves;
  * **`Workspace.run_never_stale`** -- the answers and the engines of a run.
-/
import Mathlib.Data.List.Forall2
import InputMask.Cache
namespace InputMask

namespace Cache

variable {c : Cache} {s t : Text} {n : Nat} {m : Mask} {hit : Nat × Mask}

/-! ## 1. Finding an entry -/

/-- The search goes on behind entries of other texts. -/
theorem go_append (t : Text) (n : Nat) (front back : List (Text × Mask)) :
    find?.go t n (front ++ back) =
      (find?.go t n front).or (find?.go t (n + front.length) back) := by
  induction front generalizing n with
  | nil => rfl
  | cons x front ih =>
    obtain ⟨u, m⟩ := x
    by_cases hu : u = t
    · simp [find?.go, hu]
    · simp only [List.cons_append, find?.go, if_neg hu, ih, List.length_cons]
      congr 2
      omega

/-- What is found among entries numbered from `k` stands there. -/
theorem getElem?_of_go {k : Nat} {entries : List (Text × Mask)}
    (h : find?.go t k entries = some (n, m)) : k ≤ n ∧ entries[n - k]? = some (t, m) := by
  induction entries generalizing k with
  | nil => cases h
  | cons x entries ih =>
    obtain ⟨u, m'⟩ := x
    unfold find?.go at h
    split at h
    · rename_i hu
      cases h
      exact ⟨Nat.le_refl _, by rw [Nat.sub_self, hu, List.getElem?_cons_zero]⟩
    · obtain ⟨hk, hget⟩ := ih h
      have hpred : n - k = n - (k + 1) + 1 := by omega
      exact ⟨Nat.le_of_succ_le hk, by rw [hpred, List.getElem?_cons_succ, hget]⟩

/-- An entry that is found stands at its number. -/
theorem getElem?_of_find? (h : c.find? t = some (n, m)) : c.entries[n]? = some (t, m) :=
  (getElem?_of_go h).2

/-- **One number is one text**, of whatever texts a store has entries. -/
theorem number_eq_iff {x y : Nat × Mask} (hs : c.find? s = some x) (ht : c.find? t = some y) :
    x.1 = y.1 ↔ s = t := by
  constructor
  · intro h
    have hx := getElem?_of_find? hs
    rw [h, getElem?_of_find? ht] at hx
    exact (Prod.mk.inj (Option.some.inj hx)).1.symm
  · rintro rfl
    rw [Option.some.inj (hs.symm.trans ht)]

/-! ## 2. Requests -/

theorem fetch_of_find? (h : c.find? t = some hit) : c.fetch t = (hit, c) := by
  unfold fetch
  rw [h]

theorem fetch_of_not (h : c.find? t = none) :
    c.fetch t = ((c.entries.length, Mask.compile t), ⟨c.entries ++ [(t, Mask.compile t)]⟩) := by
  unfold fetch
  rw [h]

/-- What a request answers is found from then on. -/
theorem find?_fetch (c : Cache) (t : Text) : (c.fetch t).2.find? t = some (c.fetch t).1 := by
  cases h : c.find? t with
  | some hit => rw [fetch_of_find? h, h]
  | none =>
    rw [fetch_of_not h]
    unfold find? at h ⊢
    rw [go_append, h, Option.none_or]
    simp [find?.go]

/-- What was found before a request is found after it. -/
theorem find?_fetch_of_find? (h : c.find? s = some hit) (t : Text) :
    (c.fetch t).2.find? s = some hit := by
  cases ht : c.find? t with
  | some _ => rwa [fetch_of_find? ht]
  | none =>
    rw [fetch_of_not ht]
    unfold find? at h ⊢
    rw [go_append, h, Option.some_or]

/-- **Every entry is its text compiled.** -/
def Compiled (c : Cache) : Prop := ∀ x ∈ c.entries, x.2 = Mask.compile x.1

theorem compiled_empty : Compiled empty := fun _ hx => absurd hx List.not_mem_nil

theorem Compiled.fetch (h : c.Compiled) (t : Text) : (c.fetch t).2.Compiled := by
  cases ht : c.find? t with
  | some _ => rwa [fetch_of_find? ht]
  | none =>
    rw [fetch_of_not ht]
    intro x hx
    rcases List.mem_append.mp hx with hx | hx
    · exact h x hx
    · rw [List.mem_singleton.mp hx]

theorem Compiled.find? (h : c.Compiled) (ht : c.find? t = some hit) :
    hit.2 = Mask.compile t :=
  h _ (List.mem_of_getElem? (getElem?_of_find? ht))

/-- A request answers the text compiled. -/
theorem Compiled.fetch_eq (h : c.Compiled) (t : Text) : (c.fetch t).1.2 = Mask.compile t :=
  (h.fetch t).find? (c.find?_fetch t)

end Cache

/-! ## 3. Engines without a store -/

/-- **The mask of an engine is the one that its configuration names.** -/
def Engine.Fresh (e : Engine) : Prop := e.mask = Mask.compile e.config.mask

namespace Engine

variable {e : Engine}

theorem fresh_ofConfig (c : Config) : (ofConfig c).Fresh := rfl

/-- The engine that keeps its mask need not compile it again. -/
theorem Fresh.setMask (h : e.Fresh) (mask : Text) : (e.setMask mask).Fresh := by
  unfold Engine.setMask
  split
  · exact h
  · rfl

theorem Fresh.setPrompt (h : e.Fresh) (p : Char) : (e.setPrompt p).Fresh := h

theorem Fresh.setHidePrompt (h : e.Fresh) (hide : Bool) : (e.setHidePrompt hide).Fresh := h

end Engine

namespace Workspace

/-- The engines after an action where there is no store: each mask is
    compiled where it is needed. -/
def alone (engines : List Engine) : Action → List Engine
  | .fetch _ => engines
  | .create config => engines ++ [Engine.ofConfig config]
  | .setMask i mask => engines.modify i (·.setMask mask)
  | .setPrompt i prompt => engines.modify i (·.setPrompt prompt)
  | .setHidePrompt i hide => engines.modify i (·.setHidePrompt hide)

/-- The text whose mask an action needs compiled. -/
def needs (engines : List Engine) : Action → Option Text
  | .fetch source => some source
  | .create config => some config.mask
  | .setMask i mask =>
    engines[i]?.bind fun e => if e.config.mask = mask then none else some mask
  | .setPrompt _ _ | .setHidePrompt _ _ => none

/-- The texts whose masks actions in order need compiled. -/
def needed (engines : List Engine) : List Action → List Text
  | [] => []
  | a :: rest => (needs engines a).toList ++ needed (alone engines a) rest

theorem fresh_modify {f : Engine → Engine} (hf : ∀ e, e.Fresh → (f e).Fresh)
    {engines : List Engine} (h : ∀ e ∈ engines, e.Fresh) (i : Nat) :
    ∀ e ∈ engines.modify i f, e.Fresh := by
  intro e he
  obtain ⟨j, hj⟩ := List.mem_iff_getElem?.mp he
  rw [List.getElem?_modify] at hj
  obtain ⟨d, hd, rfl⟩ := Option.map_eq_some_iff.mp hj
  have hfresh : d.Fresh := h d (List.mem_of_getElem? hd)
  split
  · exact hf d hfresh
  · exact hfresh

/-- **Every action keeps the engines fresh.** -/
theorem fresh_alone {engines : List Engine} (h : ∀ e ∈ engines, e.Fresh) (a : Action) :
    ∀ e ∈ alone engines a, e.Fresh := by
  cases a with
  | fetch source => exact h
  | create config =>
    intro e he
    rcases List.mem_append.mp he with he | he
    · exact h e he
    · rw [List.mem_singleton.mp he]
      exact Engine.fresh_ofConfig config
  | setMask i mask => exact fresh_modify (fun _ he => he.setMask mask) h i
  | setPrompt i prompt => exact fresh_modify (fun _ he => he.setPrompt prompt) h i
  | setHidePrompt i hide => exact fresh_modify (fun _ he => he.setHidePrompt hide) h i

theorem fresh_foldl_alone {engines : List Engine} (h : ∀ e ∈ engines, e.Fresh)
    (actions : List Action) : ∀ e ∈ actions.foldl alone engines, e.Fresh := by
  induction actions generalizing engines with
  | nil => exact h
  | cons a actions ih => exact ih (fresh_alone h a)

/-! ## 4. Engines on a store -/

variable {w : Workspace} {t : Text} {hit : Nat × Mask}

theorem modify_of_getElem? {engines : List Engine} {i : Nat} {e : Engine}
    (h : engines[i]? = some e) (f : Engine → Engine) :
    engines.modify i f = engines.set i (f e) := by
  rw [List.modify_eq_set_getElem?, h]
  rfl

/-- **What an action does on a store**: it asks once for the mask it needs, and
    the engines are those that it leaves where there is no store. -/
theorem step_eq (hc : w.cache.Compiled) (a : Action) :
    w.step a = match needs w.engines a with
      | none => (⟨w.cache, alone w.engines a⟩, none)
      | some t => (⟨(w.cache.fetch t).2, alone w.engines a⟩, some (w.cache.fetch t).1) := by
  cases a with
  | fetch source => rfl
  | create config =>
    show (Workspace.mk _ (w.engines ++ [⟨config, (w.cache.fetch config.mask).1.2⟩]), _) = _
    rw [hc.fetch_eq]
    rfl
  | setMask i mask =>
    cases he : w.engines[i]? with
    | none =>
      have hi := List.getElem?_eq_none_iff.mp he
      simp only [step, alone, needs, he, Option.bind_none, List.modify_eq_self hi]
    | some e =>
      simp only [step, alone, needs, he, Option.bind_some, modify_of_getElem? he,
        Engine.setMask]
      by_cases hmask : e.config.mask = mask
      · -- the mask it has: nothing is asked for, and the engine stays as it is
        obtain ⟨hi, rfl⟩ := List.getElem?_eq_some_iff.mp he
        simp only [if_pos hmask, List.set_getElem_self]
      · simp only [if_neg hmask, hc.fetch_eq]
        rfl
  | setPrompt i prompt => rfl
  | setHidePrompt i hide => rfl

theorem engines_step (hc : w.cache.Compiled) (a : Action) :
    (w.step a).1.engines = alone w.engines a := by
  rw [step_eq hc]
  split <;> rfl

theorem compiled_step (hc : w.cache.Compiled) (a : Action) : (w.step a).1.cache.Compiled := by
  rw [step_eq hc]
  split
  · exact hc
  · exact hc.fetch _

/-- What was found before an action is found after it. -/
theorem find?_step (hc : w.cache.Compiled) (h : w.cache.find? t = some hit) (a : Action) :
    (w.step a).1.cache.find? t = some hit := by
  rw [step_eq hc]
  split
  · exact h
  · exact Cache.find?_fetch_of_find? h _

/-- An action is answered with the entry of the text that it needs. -/
theorem forall₂_step (hc : w.cache.Compiled) (a : Action) :
    List.Forall₂ (fun t hit => (w.step a).1.cache.find? t = some hit)
      (needs w.engines a).toList (w.step a).2.toList := by
  rw [step_eq hc]
  cases needs w.engines a with
  | none => exact .nil
  | some t => exact .cons (w.cache.find?_fetch t) .nil

/-! ## 5. Runs -/

theorem find?_run (hc : w.cache.Compiled) (h : w.cache.find? t = some hit)
    (actions : List Action) : (w.run actions).1.cache.find? t = some hit := by
  induction actions generalizing w with
  | nil => exact h
  | cons a actions ih => exact ih (compiled_step hc a) (find?_step hc h a)

theorem compiled_run (hc : w.cache.Compiled) (actions : List Action) :
    (w.run actions).1.cache.Compiled := by
  induction actions generalizing w with
  | nil => exact hc
  | cons a actions ih => exact ih (compiled_step hc a)

/-- **A store is not seen by the engines that share it.** -/
theorem engines_run (hc : w.cache.Compiled) (actions : List Action) :
    (w.run actions).1.engines = actions.foldl alone w.engines := by
  induction actions generalizing w with
  | nil => rfl
  | cons a actions ih =>
    rw [List.foldl_cons, ← engines_step hc a]
    exact ih (compiled_step hc a)

/-- **What was given out in a run is what the store at its end gives out.** -/
theorem forall₂_run (hc : w.cache.Compiled) (actions : List Action) :
    List.Forall₂ (fun t hit => (w.run actions).1.cache.find? t = some hit)
      (needed w.engines actions) (w.run actions).2 := by
  induction actions generalizing w with
  | nil => exact .nil
  | cons a actions ih =>
    have hc' := compiled_step hc a
    -- the entry that answers the first action outlives the others
    have hfirst := (forall₂_step hc a).imp fun t hit h => find?_run hc' h actions
    have hrest := ih hc'
    rw [engines_step hc a] at hrest
    exact List.rel_append hfirst hrest

/-- **Masks from a store are never stale.** In every run of requests and engine
    actions each request is answered with its text compiled, and two requests
    with one entry exactly where their texts are the same. Every engine has the
    mask that its configuration names, also where it was given the mask it had
    and asked for none; and the engines are those that the actions leave where
    there is no store. -/
theorem run_never_stale (actions : List Action) :
    let w := (empty.run actions).1
    let texts := needed [] actions
    let answers := (empty.run actions).2
    answers.map Prod.snd = texts.map Mask.compile ∧
    (∀ s x, (s, x) ∈ texts.zip answers → ∀ t y, (t, y) ∈ texts.zip answers →
      (x.1 = y.1 ↔ s = t)) ∧
    (∀ e ∈ w.engines, e.mask = Mask.compile e.config.mask) ∧
    w.engines = actions.foldl alone [] := by
  intro w texts answers
  have hc : w.cache.Compiled := compiled_run Cache.compiled_empty actions
  have hfound : List.Forall₂ (fun t hit => w.cache.find? t = some hit) texts answers :=
    forall₂_run Cache.compiled_empty actions
  have hengines : w.engines = actions.foldl alone [] :=
    engines_run Cache.compiled_empty actions
  have hmasks : List.Forall₂ (· = ·) (answers.map Prod.snd) (texts.map Mask.compile) := by
    rw [List.forall₂_map_left_iff, List.forall₂_map_right_iff]
    exact hfound.flip.imp fun hit t h => hc.find? h
  obtain ⟨-, hzip⟩ := List.forall₂_iff_zip.mp hfound
  refine ⟨?_, fun s x hs t y ht => ?_, ?_, hengines⟩
  · rwa [List.forall₂_eq_eq_eq] at hmasks
  · exact Cache.number_eq_iff (hzip hs) (hzip ht)
  · rw [hengines]
    exact fresh_foldl_alone (fun e he => absurd he List.not_mem_nil) actions

/-- An engine is made with one mask and given another one twice, of which it asks
    for the second only once; an engine made later shares its first mask. -/
theorem run_never_stale_shared :
    let actions : List Action :=
      [.create (Config.ofMask "00".toList), .fetch ">L".toList, .setMask 0 ">L".toList,
        .setMask 0 ">L".toList, .create (Config.ofMask "00".toList), .setPrompt 1 ' ',
        .fetch "00".toList]
    let w := (empty.run actions).1
    let texts := needed [] actions
    let answers := (empty.run actions).2
    texts = ["00".toList, ">L".toList, ">L".toList, "00".toList, "00".toList] ∧
    answers.map Prod.fst = [0, 1, 1, 0, 0] ∧ answers.map Prod.snd = texts.map Mask.compile ∧
    ((">L".toList, 1, Mask.compile ">L".toList) ∈ texts.zip answers ∧
      ("00".toList, 0, Mask.compile "00".toList) ∈ texts.zip answers ∧
      (1 = 0 ↔ ">L".toList = "00".toList)) ∧
    w.engines.map (fun e => e.config.mask) = [">L".toList, "00".toList] ∧
    (∀ e ∈ w.engines, e.mask = Mask.compile e.config.mask) ∧
    w.engines = actions.foldl alone [] := by
  intro actions w texts answers
  have hs : (">L".toList, 1, Mask.compile ">L".toList) ∈ texts.zip answers := by decide +kernel
  have ht : ("00".toList, 0, Mask.compile "00".toList) ∈ texts.zip answers := by decide +kernel
  obtain ⟨hmasks, hsame, hfresh, halone⟩ := run_never_stale actions
  exact ⟨by decide, by decide, hmasks, ⟨hs, ht, hsame _ _ hs _ _ ht⟩, by decide, hfresh, halone⟩

end Workspace

end InputMask
