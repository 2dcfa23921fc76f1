/-
  File:      InputMask/Preset/File.lean
  Subject:   Preset files.

  A preset file is a YAML object whose key `presets` lists presets.
  Keys with no meaning here are passed over.
-/
import InputMask.Preset
import InputMask.Yaml.Read
namespace InputMask.Preset

open Yaml (Node)

/-- The preset of a node. -/
def ofNode? (n : Node) : Option Preset := do
  let es ← n.entries?
  let optional {α : Type} (key : String) (read : Node → Option α) : Option (Option α) :=
    Node.field? es key none (Node.optional? read)
  let name ← Node.field? es "name" [] Node.text?
  let description ← optional "description" Node.text?
  let mask ← Node.field? es "mask" [] Node.text?
  let prompt ← optional "prompt" Node.char?
  let hidePrompt ← optional "hide_prompt" Node.bool?
  let keepLiterals ← optional "keep_literals" Node.bool?
  let tags ← optional "tags" fun n => do (← n.items?).mapM Node.text?
  return ⟨name, description, mask, prompt, hidePrompt, keepLiterals, tags⟩

/-- The presets of a text; a text without a document has none. -/
def ofText? (t : Text) : Option (List Preset) := do
  match ← Yaml.document? t with
  | none => return []
  | some root =>
    let es ← root.entries?
    Node.field? es "presets" [] fun n => do (← n.items?).mapM ofNode?

/-- The presets of a YAML file. -/
def load (path : Text) (content : Except FileFault Text) : Except PresetError (List Preset) :=
  loadWith ofText? path content

/-- The presets of a YAML file that was named. -/
def loadNamed (path : Text) (content : Except FileFault Text) :
    Except PresetError (List Preset) :=
  loadNamedWith ofText? path content

end InputMask.Preset
