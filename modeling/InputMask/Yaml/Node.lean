/-
  File:      InputMask/Yaml/Node.lean
  Subject:   YAML documents as trees.

  A text holds at most one document. An alias stands for the node that
  carries its anchor, the last one before it; an alias inside its own
  node is kept as a cycle, which no typed reading accepts. A missing
  node is an empty plain scalar.
-/
import InputMask.Yaml.Token
namespace InputMask.Yaml

/-! ## 1. Nodes -/

/-- A part of a document. -/
inductive Node where
  /-- A scalar and how it is written. -/
  | scalar (text : Text) (style : Style) (tag : Option Text)
  /-- Nodes in order. -/
  | sequence (items : List Node)
  /-- Keys and their values in order. -/
  | mapping (entries : List (Node × Node))
  /-- An alias to a node that holds it. -/
  | cycle

/-- The node that stands where nothing is written. -/
def Node.missing : Node := .scalar [] .plain none

/-- The anchored nodes so far, last first; one that is still being read
    has no node yet. -/
abbrev Anchors := List (Text × Option Node)

/-- The long forms of tag handles. -/
abbrev Handles := List (Text × Text)

/-- The handles every document knows. -/
def standardHandles : Handles := [(['!'], ['!']), (['!', '!'], "tag:yaml.org,2002:".toList)]

/-- What is read from tokens, the anchors afterwards and the tokens
    behind it. -/
abbrev Parsed (α : Type) := α × Anchors × List Token

/-- The anchor, the tag and the rest of the tokens of a node. Anchor and
    tag stand in either order. -/
def properties (handles : Handles) (ts : List Token) :
    Option (Option Text × Option Text × List Token) :=
  let long (handle suffix : Text) : Option Text :=
    if handle.isEmpty then some suffix else (handles.lookup handle).map (· ++ suffix)
  match ts with
  | .anchor a :: .tag h s :: ts => (long h s).map fun tag => (some a, some tag, ts)
  | .anchor a :: ts => some (some a, none, ts)
  | .tag h s :: .anchor a :: ts => (long h s).map fun tag => (some a, some tag, ts)
  | .tag h s :: ts => (long h s).map fun tag => (none, some tag, ts)
  | ts => some (none, none, ts)

/-- Whether a token can stand where a block node is left out. -/
def endsBlockNode : List Token → Bool
  | .key :: _ | .value :: _ | .blockEnd :: _ => true
  | _ => false

/-! ## 2. Reading nodes -/

mutual

/-- A node. `block` allows block collections, `loose` a sequence that is
    not indented further than the mapping around it. The first argument
    bounds the depth of calls here and below. -/
def parseNode (handles : Handles) (block loose : Bool) :
    Nat → Anchors → List Token → Option (Parsed Node)
  | 0, _, _ => none
  | _ + 1, anchors, .alias name :: ts =>
    match anchors.lookup name with
    | some (some node) => some (node, anchors, ts)
    | some none => some (.cycle, anchors, ts)
    | none => none
  | n + 1, anchors, ts => do
    let (anchor, tag, ts) ← properties handles ts
    let anchors := match anchor with
      | some a => (a, none) :: anchors
      | none => anchors
    let (node, anchors, ts) ← parseContent handles block loose tag anchor.isSome n anchors ts
    match anchor with
    | some a => return (node, (a, some node) :: anchors, ts)
    | none => return (node, anchors, ts)

/-- A node behind its anchor and tag. -/
def parseContent (handles : Handles) (block loose : Bool) (tag : Option Text)
    (anchored : Bool) : Nat → Anchors → List Token → Option (Parsed Node)
  | 0, _, _ => none
  | n + 1, anchors, ts =>
    match ts with
    | .scalar text style :: ts => some (.scalar text style tag, anchors, ts)
    | .flowSequenceStart :: ts => do
      let (items, anchors, ts) ← parseFlowItems handles true n anchors ts
      return (.sequence items, anchors, ts)
    | .flowMappingStart :: ts => do
      let (entries, anchors, ts) ← parseFlowEntries handles true n anchors ts
      return (.mapping entries, anchors, ts)
    | ts =>
      match block, loose, ts with
      | _, true, .blockEntry :: _ => do
        let (items, anchors, ts) ← parseLooseItems handles n anchors ts
        return (.sequence items, anchors, ts)
      | true, _, .blockSequenceStart :: ts => do
        let (items, anchors, ts) ← parseBlockItems handles n anchors ts
        return (.sequence items, anchors, ts)
      | true, _, .blockMappingStart :: ts => do
        let (entries, anchors, ts) ← parseBlockEntries handles n anchors ts
        return (.mapping entries, anchors, ts)
      | _, _, ts =>
        if anchored || tag.isSome then some (.scalar [] .plain tag, anchors, ts) else none

/-- The items of a block sequence up to its end. -/
def parseBlockItems (handles : Handles) : Nat → Anchors → List Token → Option (Parsed (List Node))
  | 0, _, _ => none
  | _ + 1, anchors, .blockEnd :: ts => some ([], anchors, ts)
  | n + 1, anchors, .blockEntry :: ts => do
    let (item, anchors, ts) ← match ts with
      | .blockEntry :: _ | .blockEnd :: _ => some (Node.missing, anchors, ts)
      | _ => parseNode handles true false n anchors ts
    let (items, anchors, ts) ← parseBlockItems handles n anchors ts
    return (item :: items, anchors, ts)
  | _ + 1, _, _ => none

/-- The items of a sequence that ends where no entry follows. -/
def parseLooseItems (handles : Handles) : Nat → Anchors → List Token → Option (Parsed (List Node))
  | 0, _, _ => none
  | n + 1, anchors, .blockEntry :: ts => do
    let (item, anchors, ts) ← match ts with
      | .blockEntry :: _ | .key :: _ | .value :: _ | .blockEnd :: _ =>
        some (Node.missing, anchors, ts)
      | _ => parseNode handles true false n anchors ts
    let (items, anchors, ts) ← parseLooseItems handles n anchors ts
    return (item :: items, anchors, ts)
  | _ + 1, anchors, ts => some ([], anchors, ts)

/-- The entries of a block mapping up to its end. -/
def parseBlockEntries (handles : Handles) :
    Nat → Anchors → List Token → Option (Parsed (List (Node × Node)))
  | 0, _, _ => none
  | _ + 1, anchors, .blockEnd :: ts => some ([], anchors, ts)
  | n + 1, anchors, .key :: ts => do
    let (key, anchors, ts) ←
      if endsBlockNode ts then some (Node.missing, anchors, ts)
      else parseNode handles true true n anchors ts
    let (value, anchors, ts) ← match ts with
      | .value :: ts =>
        if endsBlockNode ts then some (Node.missing, anchors, ts)
        else parseNode handles true true n anchors ts
      | _ => some (Node.missing, anchors, ts)
    let (entries, anchors, ts) ← parseBlockEntries handles n anchors ts
    return ((key, value) :: entries, anchors, ts)
  | _ + 1, _, _ => none

/-- The items of a flow sequence up to its end; before all but the first
    stands a comma. A marked key makes an item a mapping of one entry. -/
def parseFlowItems (handles : Handles) (first : Bool) :
    Nat → Anchors → List Token → Option (Parsed (List Node))
  | 0, _, _ => none
  | _ + 1, anchors, .flowSequenceEnd :: ts => some ([], anchors, ts)
  | n + 1, anchors, ts => do
    let ts ← if first then some ts else match ts with
      | .flowEntry :: ts => some ts
      | _ => none
    match ts with
    | .flowSequenceEnd :: ts => return ([], anchors, ts)
    | .key :: ts => do
      let (key, anchors, ts) ← match ts with
        | .value :: _ | .flowEntry :: _ | .flowSequenceEnd :: _ =>
          some (Node.missing, anchors, ts)
        | _ => parseNode handles false false n anchors ts
      let (value, anchors, ts) ← match ts with
        | .value :: ts => match ts with
          | .flowEntry :: _ | .flowSequenceEnd :: _ => some (Node.missing, anchors, ts)
          | _ => parseNode handles false false n anchors ts
        | _ => some (Node.missing, anchors, ts)
      let (items, anchors, ts) ← parseFlowItems handles false n anchors ts
      return (.mapping [(key, value)] :: items, anchors, ts)
    | ts => do
      let (item, anchors, ts) ← parseNode handles false false n anchors ts
      let (items, anchors, ts) ← parseFlowItems handles false n anchors ts
      return (item :: items, anchors, ts)

/-- The entries of a flow mapping up to its end; before all but the
    first stands a comma. -/
def parseFlowEntries (handles : Handles) (first : Bool) :
    Nat → Anchors → List Token → Option (Parsed (List (Node × Node)))
  | 0, _, _ => none
  | _ + 1, anchors, .flowMappingEnd :: ts => some ([], anchors, ts)
  | n + 1, anchors, ts => do
    let ts ← if first then some ts else match ts with
      | .flowEntry :: ts => some ts
      | _ => none
    match ts with
    | .flowMappingEnd :: ts => return ([], anchors, ts)
    | .key :: ts => do
      let (key, anchors, ts) ← match ts with
        | .value :: _ | .flowEntry :: _ | .flowMappingEnd :: _ =>
          some (Node.missing, anchors, ts)
        | _ => parseNode handles false false n anchors ts
      let (value, anchors, ts) ← match ts with
        | .value :: ts => match ts with
          | .flowEntry :: _ | .flowMappingEnd :: _ => some (Node.missing, anchors, ts)
          | _ => parseNode handles false false n anchors ts
        | _ => some (Node.missing, anchors, ts)
      let (entries, anchors, ts) ← parseFlowEntries handles false n anchors ts
      return ((key, value) :: entries, anchors, ts)
    | ts => do
      let (key, anchors, ts) ← parseNode handles false false n anchors ts
      let (entries, anchors, ts) ← parseFlowEntries handles false n anchors ts
      return ((key, Node.missing) :: entries, anchors, ts)

end

/-! ## 3. Documents -/

/-- The directives in front of a document: the tag handles they name
    and the tokens behind them. A version and each handle stand at most
    once. -/
def directives (version : Bool) (handles : Handles) : List Token → Option (Handles × List Token)
  | .version :: ts => if version then none else directives true handles ts
  | .tagHandle h stem :: ts =>
    if (handles.lookup h).isSome then none else directives version ((h, stem) :: handles) ts
  | ts => some (handles, ts)

/-- The document of some tokens, if they are one and no more; no tokens
    are no document. Directives need a mark of the document's start, and
    behind that mark the node may be missing. -/
def documentOf (ts : List Token) : Option (Option Node) := do
  let node (handles : Handles) (ts : List Token) : Option (Node × List Token) :=
    (parseNode handles true false (4 * ts.length + 4) [] ts).map fun r => (r.1, r.2.2)
  if ts.isEmpty then return none
  let (handles, behind) ← directives false [] ts
  let (root, ts) ← match behind with
    | .documentStart :: ts =>
      match ts with
      | [] | .version :: _ | .tagHandle _ _ :: _ | .documentStart :: _ | .documentEnd :: _ =>
        some (Node.missing, ts)
      | _ => node (handles ++ standardHandles) ts
    | _ => if behind.length < ts.length then none else node standardHandles ts
  if (ts.dropWhile (· == .documentEnd)).isEmpty then return some root else none

/-- The document of a text: `none` where the text is not YAML or holds
    several, `some none` where it holds none. -/
def document? (t : Text) : Option (Option Node) := (tokens? t).bind documentOf

end InputMask.Yaml
