/-
  File:      InputMask/Cache.lean
  Subject:   A store of compiled masks, shared by engines.

  Each text is compiled once. An entry is known by its number, which is
  the order in which the texts came, so two requests get the same entry
  exactly when they get the same number. Engines that share a store
  take their masks from it.
-/
import InputMask.Engine
namespace InputMask

/-! ## 1. The store -/

/-- The compiled masks, in the order in which their texts came. -/
structure Cache where
  entries : List (Text × Mask)
  deriving DecidableEq, Repr

namespace Cache

/-- The store in which nothing is compiled yet. -/
def empty : Cache := ⟨[]⟩

/-- The number and the mask of a text's entry. -/
def find? (c : Cache) (source : Text) : Option (Nat × Mask) :=
  go 0 c.entries
where
  /-- The search among entries that are numbered from `n`. -/
  go (n : Nat) : List (Text × Mask) → Option (Nat × Mask)
    | [] => none
    | (t, m) :: rest => if t = source then some (n, m) else go (n + 1) rest

/-- The number and the mask of a text, compiled now where it has no
    entry yet, and the store afterwards. -/
def fetch (c : Cache) (source : Text) : (Nat × Mask) × Cache :=
  match c.find? source with
  | some hit => (hit, c)
  | none =>
    let m := Mask.compile source
    ((c.entries.length, m), ⟨c.entries ++ [(source, m)]⟩)

/-- The answers to requests in order. -/
def fetchAll (c : Cache) : List Text → List (Nat × Mask)
  | [] => []
  | t :: ts =>
    let (hit, c) := c.fetch t
    hit :: c.fetchAll ts

end Cache

/-! ## 2. Engines on a store -/

/-- A store and the engines that use it. -/
structure Workspace where
  cache : Cache
  /-- The engines, in the order in which they were made. -/
  engines : List Engine
  deriving DecidableEq, Repr

namespace Workspace

/-- One thing done in a workspace; engines are told by their place. -/
inductive Action where
  | fetch (source : Text)
  | create (config : Config)
  | setMask (engine : Nat) (mask : Text)
  | setPrompt (engine : Nat) (prompt : Char)
  | setHidePrompt (engine : Nat) (hide : Bool)
  deriving DecidableEq, Repr

/-- The workspace with nothing in it. -/
def empty : Workspace := ⟨Cache.empty, []⟩

/-- The workspace after an action, and the entry it was answered with
    if it asked for one. An engine asks for the entry of its mask when
    it is made and when it gets another mask. -/
def step (w : Workspace) : Action → Workspace × Option (Nat × Mask)
  | .fetch source =>
    let (hit, cache) := w.cache.fetch source
    ({ w with cache := cache }, some hit)
  | .create config =>
    let (hit, cache) := w.cache.fetch config.mask
    (⟨cache, w.engines ++ [⟨config, hit.2⟩]⟩, some hit)
  | .setMask i mask =>
    match w.engines[i]? with
    | none => (w, none)
    | some e =>
      if e.config.mask = mask then (w, none)
      else
        let (hit, cache) := w.cache.fetch mask
        (⟨cache, w.engines.set i ⟨{ e.config with mask := mask }, hit.2⟩⟩, some hit)
  | .setPrompt i prompt => ({ w with engines := w.engines.modify i (·.setPrompt prompt) }, none)
  | .setHidePrompt i hide =>
    ({ w with engines := w.engines.modify i (·.setHidePrompt hide) }, none)

/-- The workspace after actions in order, and the entries answered. -/
def run (w : Workspace) : List Action → Workspace × List (Nat × Mask)
  | [] => (w, [])
  | a :: rest =>
    let (w', answer) := w.step a
    let (w'', answers) := w'.run rest
    (w'', answer.toList ++ answers)

end Workspace

end InputMask
