/-
  File:      InputMask/Preset.lean
  Subject:   Named masks: finding, merging and checking them.

  A preset names a mask and may override what a field is told by
  default. In a list of presets a name stands for the first preset that
  has it. Merging puts the user's presets over a list: each takes the
  place of the first preset of its name, or the end of the list.
-/
import InputMask.Config
import InputMask.FileFault
import InputMask.Text.Lines
namespace InputMask

/-- A named mask; what is not set is left to the defaults. -/
structure Preset where
  name : Text
  /-- A line about the preset. -/
  description : Option Text
  mask : Text
  prompt : Option Char
  /-- Whether prompts disappear while the field has no focus. -/
  hidePrompt : Option Bool
  /-- Whether the value keeps the mask's literals. -/
  keepLiterals : Option Bool
  /-- Words to sort presets by. -/
  tags : Option (List Text)
  deriving DecidableEq, Repr

/-- The preset in which nothing is set. -/
def Preset.blank : Preset := ⟨[], none, [], none, none, none, none⟩

/-- The configuration a preset stands for. -/
def Preset.toConfig (p : Preset) : Config :=
  ⟨p.mask, p.prompt.getD Config.standard.prompt, p.hidePrompt.getD Config.standard.hidePrompt,
    p.keepLiterals.getD Config.standard.keepLiterals⟩

namespace Preset

/-! ## 1. Lists of presets -/

/-- The first preset of a name. -/
def find? (name : Text) (ps : List Preset) : Option Preset := ps.find? fun p => p.name = name

/-- The names in order. -/
def names (ps : List Preset) : List Text := ps.map Preset.name

/-- A list with a preset in the place of the first one of its name, or
    at the end. -/
def put (p : Preset) : List Preset → List Preset
  | [] => [p]
  | q :: qs => if q.name = p.name then p :: qs else q :: put p qs

/-- The presets of one list put into another in order. -/
def merge (base added : List Preset) : List Preset := added.foldl (fun ps p => put p ps) base

/-- The preset of a name after one was put into the list. -/
theorem find?_put (name : Text) (p : Preset) (ps : List Preset) :
    find? name (put p ps) = if p.name = name then some p else find? name ps := by
  induction ps with
  | nil => by_cases h : p.name = name <;> simp [put, find?, h]
  | cons q qs ih =>
    unfold put
    by_cases hq : q.name = p.name
    · by_cases h : p.name = name
      · simp [find?, hq, h]
      · simp [find?, hq, h]
    · by_cases h : q.name = name
      · have hp : p.name ≠ name := fun e => hq (h.trans e.symm)
        rw [if_neg hq]
        simp [find?, h, hp]
      · unfold find? at ih ⊢
        simp [hq, h, ih]

/-- The names after a preset was put into the list. -/
theorem names_put (p : Preset) (ps : List Preset) :
    names (put p ps) = if p.name ∈ names ps then names ps else names ps ++ [p.name] := by
  induction ps with
  | nil => simp [put, names]
  | cons q qs ih =>
    unfold put
    by_cases hq : q.name = p.name
    · simp [names, hq]
    · unfold names at ih ⊢
      have hn : ¬ p.name = q.name := fun e => hq e.symm
      simp only [hq, if_false, List.map_cons, ih, List.mem_cons, hn, false_or]
      split <;> simp

end Preset

/-! ## 2. Checking -/

/-- The greatest length of a mask's text. -/
def maxMaskLength : Nat := 256

/-- What can be wrong with a preset. -/
inductive PresetProblem where
  | noName
  /-- A preset before it has its name. -/
  | nameTaken (name : Text)
  | noMask (name : Text)
  | longMask (name : Text) (length : Nat)
  deriving DecidableEq, Repr

/-- What is said of a mask that is too long. -/
def longMaskMessage (name : Text) (length : Nat) : Text :=
  "Preset '".toList ++ name ++
    s!"': mask length ({length}) exceeds maximum allowed ({maxMaskLength})".toList

/-- The message of a problem. -/
def PresetProblem.message : PresetProblem → Text
  | noName => "A preset has an empty `name` field.".toList
  | nameTaken name => "Duplicate preset name found: '".toList ++ name ++ "'.".toList
  | noMask name => "Preset '".toList ++ name ++ "' has an empty `mask` field.".toList
  | longMask name length => longMaskMessage name length

namespace Preset

/-- The problem with a preset's name, where some names stand before it. -/
def nameProblem (seen : List Text) (p : Preset) : Option PresetProblem :=
  if p.name = [] then some .noName
  else if p.name ∈ seen then some (.nameTaken p.name)
  else none

/-- The problem with a preset's mask. -/
def maskProblem (p : Preset) : Option PresetProblem :=
  if p.mask = [] then some (.noMask p.name)
  else if maxMaskLength < p.mask.length then some (.longMask p.name p.mask.length)
  else none

/-- The problems of presets, where some names stand before them. -/
def problemsFrom (seen : List Text) : List Preset → List PresetProblem
  | [] => []
  | p :: ps =>
    (p.nameProblem seen).toList ++ p.maskProblem.toList ++ problemsFrom (p.name :: seen) ps

/-- The problems of presets in order: of each preset the one with its
    name, then the one with its mask. -/
def problems (ps : List Preset) : List PresetProblem := problemsFrom [] ps

end Preset

/-! ## 3. Faults -/

/-- Why there is no preset or no configuration. -/
inductive PresetError where
  /-- The preset file cannot be read. -/
  | unreadable (path : Text) (fault : FileFault)
  /-- The preset file holds no presets. -/
  | unparsable (path : Text)
  /-- Some presets of the file have problems. -/
  | invalid (problems : List PresetProblem)
  /-- No preset has this name. -/
  | notFound (name : Text)
  /-- The mask is too long. -/
  | longMask (name : Text) (length : Nat)
  /-- Neither a mask nor a preset is named. -/
  | nothingChosen
  /-- An error met while the presets of this file were loaded. -/
  | loading (path : Text) (cause : PresetError)
  deriving DecidableEq, Repr

/-- The message of an error. -/
def PresetError.message : PresetError → Text
  | unreadable path fault =>
    "Failed to read preset file ".toList ++ path ++ ": ".toList ++ fault.message
  | unparsable path => "Failed to parse preset file ".toList ++ path
  | invalid problems =>
    Text.joinLines ("Preset validation failed:".toList :: problems.map PresetProblem.message)
  | notFound name => "Mask preset '".toList ++ name ++ "' not found.".toList
  | longMask name length => longMaskMessage name length
  | nothingChosen => "Either --mask or --preset is required.".toList
  | loading path cause =>
    "Failed to load presets from ".toList ++ path ++ ": ".toList ++ cause.message

namespace Preset

/-- Presets that have no problem. -/
def check (ps : List Preset) : Except PresetError (List Preset) :=
  if problems ps = [] then .ok ps else .error (.invalid (problems ps))

/-- The presets of a file: they must be there and have no problem;
    `read` tells which presets a text holds. -/
def loadWith (read : Text → Option (List Preset)) (path : Text)
    (content : Except FileFault Text) : Except PresetError (List Preset) :=
  match content with
  | .error fault => .error (.unreadable path fault)
  | .ok t =>
    match read t with
    | none => .error (.unparsable path)
    | some ps => check ps

/-- The presets of a file that was named; an error names it too. -/
def loadNamedWith (read : Text → Option (List Preset)) (path : Text)
    (content : Except FileFault Text) : Except PresetError (List Preset) :=
  (loadWith read path content).mapError (.loading path)

/-- The preset of a name, or the error that there is none. -/
def find (name : Text) (ps : List Preset) : Except PresetError Preset :=
  match find? name ps with
  | some p => .ok p
  | none => .error (.notFound name)

end Preset

end InputMask
