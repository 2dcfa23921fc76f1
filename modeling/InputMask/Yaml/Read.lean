/-
  File:      InputMask/Yaml/Read.lean
  Subject:   Typed values from YAML nodes.

  Where a text or a character is wanted every scalar is taken as it is
  written; a truth value must be a plain scalar. Where a list or an
  object is wanted a missing node is an empty one.
-/
import InputMask.Yaml.Node
namespace InputMask.Yaml.Node

/-- The text of a scalar. -/
def text? : Node → Option Text
  | .scalar t _ _ => some t
  | _ => none

/-- A scalar of one character. -/
def char? (n : Node) : Option Char :=
  match n.text? with
  | some [c] => some c
  | _ => none

/-- The tag of truth values. -/
def boolTag : Text := "tag:yaml.org,2002:bool".toList

/-- The tag of nothing. -/
def nullTag : Text := "tag:yaml.org,2002:null".toList

/-- The words for true. -/
def trueWords : List Text := ["true".toList, "True".toList, "TRUE".toList]

/-- The words for false. -/
def falseWords : List Text := ["false".toList, "False".toList, "FALSE".toList]

/-- The words for nothing. -/
def nullWords : List Text := ["null".toList, "Null".toList, "NULL".toList, ['~']]

/-- A truth value. -/
def bool? : Node → Option Bool
  | .scalar t style tag =>
    if style = .plain ∨ (style = .literal ∧ tag = some boolTag) then
      if trueWords.contains t then some true
      else if falseWords.contains t then some false
      else none
    else none
  | _ => none

/-- What may be left out: nothing for a missing node or a plain word for
    nothing, else what is wanted. -/
def optional? (read : Node → Option α) (n : Node) : Option (Option α) :=
  match n with
  | .scalar t .plain none =>
    if t.isEmpty || nullWords.contains t then some none else (read n).map some
  | .scalar t .plain (some tag) =>
    if tag = nullTag then if nullWords.contains t then some none else none
    else (read n).map some
  | _ => (read n).map some

/-- Whether the node is missing. -/
def isMissing : Node → Bool
  | .scalar [] .plain _ => true
  | _ => false

/-- The items of a sequence. -/
def items? (n : Node) : Option (List Node) :=
  match n with
  | .sequence items => some items
  | n => if n.isMissing then some [] else none

/-- The entries of a mapping whose keys are scalars. -/
def entries? (n : Node) : Option (List (Text × Node)) :=
  match n with
  | .mapping entries => entries.mapM fun e => e.1.text?.map fun k => (k, e.2)
  | n => if n.isMissing then some [] else none

/-- The value of a key that stands at most once, read; `absent` where
    the key does not stand. -/
def field? (entries : List (Text × Node)) (key : String) (absent : α)
    (read : Node → Option α) : Option α :=
  match entries.filter fun e => e.1 == key.toList with
  | [] => some absent
  | [e] => read e.2
  | _ => none

end InputMask.Yaml.Node
