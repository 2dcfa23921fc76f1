/-
  File:      InputMask/Yaml/Scalar.lean
  Subject:   Reading YAML scalars.

  A scalar over several lines is folded: a single line break counts as
  a space, more of them lose the first one. Block scalars keep their
  breaks (`|`) or fold the lines that are not indented further (`>`).
  Each reader gives the scalar and the place behind it, or `none` where
  the text is no scalar of its style.
-/
import InputMask.Yaml.Cursor
namespace InputMask.Yaml

/-! ## 1. Gaps -/

/-- The spaces and line breaks between two words of a scalar. -/
structure Gap where
  /-- The spaces, as long as there is no break. -/
  spaces : Text
  /-- Whether there is a break. -/
  broken : Bool
  /-- The first break. -/
  first : Text
  /-- The other breaks. -/
  more : Text
  deriving Repr

namespace Gap

/-- The gap with nothing in it. -/
def none : Gap := ⟨[], false, [], []⟩

/-- The gap that a break without a trace starts. -/
def escapedBreak : Gap := ⟨[], true, [], []⟩

/-- What a gap counts for in the scalar. -/
def fold (g : Gap) : Text :=
  if !g.broken then g.spaces
  else if g.first = ['\n'] then (if g.more = [] then [' '] else g.more)
  else g.first ++ g.more

/-- The gap one space longer. -/
def addSpace (g : Gap) (c : Char) : Gap :=
  if g.broken then g else { g with spaces := g.spaces ++ [c] }

/-- The gap one break longer. -/
def addBreak (g : Gap) (c : Char) : Gap :=
  if g.broken then { g with more := g.more ++ [plainBreak c] }
  else ⟨[], true, [plainBreak c], []⟩

/-- The gap read on from a text, whose start is at an index, line and
    column. No tab may stand left of the column `tabStop` in a line
    that the gap has started. -/
def read (tabStop : Int) (g : Gap) (index line column : Nat) : Text → Option (Gap × Cursor)
  | [] => some (g, ⟨[], index, line, column⟩)
  | '\r' :: '\n' :: t => read tabStop (g.addBreak '\n') (index + 2) (line + 1) 0 t
  | c :: t =>
    if isSpace c then
      if g.broken && c == '\t' && (column : Int) < tabStop then Option.none
      else read tabStop (g.addSpace c) (index + 1) line (column + 1) t
    else if isBreak c then read tabStop (g.addBreak c) (index + 1) (line + 1) 0 t
    else some (g, ⟨c :: t, index, line, column⟩)

end Gap

/-! ## 2. Plain scalars -/

/-- The characters that end a word of a plain scalar in a flow. -/
def isFlowMark (c : Char) : Bool :=
  c == ',' || c == '[' || c == ']' || c == '{' || c == '}'

/-- A word of a plain scalar and the text behind it. In a flow a colon
    directly before a mark is a fault. -/
def plainWord (flow : Bool) : Text → Option (Text × Text)
  | [] => some ([], [])
  | c :: t =>
    if atGap (c :: t) then some ([], c :: t)
    else if c == ':' && atGap t then some ([], c :: t)
    else if flow && c == ':' && (t.headD ' ' == '?' || isFlowMark (t.headD ' ')) then none
    else if flow && isFlowMark c then some ([], c :: t)
    else (plainWord flow t).map fun r => (c :: r.1, r.2)

/-- The words of a plain scalar behind `text` and a gap, indented at
    least to a column: the scalar, whether a gap with a break was read
    behind it, and the place. Each round reads at least one character. -/
def plainWords (flow : Bool) (indent : Int) :
    Nat → Text → Gap → Cursor → Option (Text × Bool × Cursor)
  | 0, _, _, _ => none
  | n + 1, text, gap, cur => do
    if cur.atDocumentMark || cur.rest.head? == some '#' then
      return (text, gap.broken, cur)
    let (word, rest) ← plainWord flow cur.rest
    let cur := cur.upTo rest
    let (text, gap) := if word = [] then (text, gap) else (text ++ gap.fold ++ word, Gap.none)
    if cur.rest = [] || !atGap cur.rest then return (text, gap.broken, cur)
    let (gap, cur) ← gap.read indent cur.index cur.line cur.column cur.rest
    if !flow && (cur.column : Int) < indent then return (text, gap.broken, cur)
    plainWords flow indent n text gap cur

/-- A plain scalar inside a block indented to a column. -/
def readPlain (flow : Bool) (indent : Int) (cur : Cursor) : Option (Text × Bool × Cursor) :=
  plainWords flow (indent + 1) (cur.rest.length + 1) [] Gap.none cur

/-! ## 3. Quoted scalars -/

/-- The value of a hexadecimal digit. -/
def hexValue? (c : Char) : Option Nat :=
  if c.isDigit then some (c.toNat - 48)
  else if 'a' ≤ c && c ≤ 'f' then some (c.toNat - 87)
  else if 'A' ≤ c && c ≤ 'F' then some (c.toNat - 55)
  else none

/-- The character with a code point written in hexadecimal. -/
def hexChar? (digits : Text) : Option Char := do
  let n ← digits.foldlM (fun n c => do return 16 * n + (← hexValue? c)) 0
  if n.isValidChar then some (Char.ofNat n) else none

/-- The characters that one character behind a backslash stands for. -/
def simpleEscapes : List (Char × Char) :=
  [('0', '\x00'), ('a', '\x07'), ('b', '\x08'), ('t', '\t'), ('\t', '\t'), ('n', '\n'),
   ('v', '\x0b'), ('f', '\x0c'), ('r', '\r'), ('e', '\x1b'), (' ', ' '), ('"', '"'),
   ('/', '/'), ('\\', '\\'), ('N', '\u0085'), ('_', '\u00a0'), ('L', '\u2028'),
   ('P', '\u2029')]

/-- How many hexadecimal digits follow an escape that takes some. -/
def escapeDigits : List (Char × Nat) := [('x', 2), ('u', 4), ('U', 8)]

/-- The character an escape stands for, and the text behind it; the
    text starts behind the backslash. -/
def readEscape : Text → Option (Char × Text)
  | [] => none
  | c :: t =>
    match simpleEscapes.lookup c with
    | some d => some (d, t)
    | none => do
      let n ← escapeDigits.lookup c
      if t.length < n then none
      else
        let d ← hexChar? (t.take n)
        some (d, t.drop n)

/-- What ends a word of a quoted scalar. -/
inductive WordEnd where
  /-- A gap, or the text's end. -/
  | gap
  /-- The closing quote. -/
  | quote
  /-- An escaped line break. -/
  | escapedBreak
  deriving DecidableEq, Repr

/-- A word between single quotes, what ends it, and the text there. -/
def singleWord : Text → Text × WordEnd × Text
  | '\'' :: '\'' :: t =>
    let (w, e, rest) := singleWord t
    ('\'' :: w, e, rest)
  | '\'' :: t => ([], .quote, t)
  | [] => ([], .gap, [])
  | c :: t =>
    if atGap (c :: t) then ([], .gap, c :: t)
    else
      let (w, e, rest) := singleWord t
      (c :: w, e, rest)

/-- A word between double quotes, what ends it, and the text there.
    The first argument bounds the number of its characters. -/
def doubleWord : Nat → Text → Option (Text × WordEnd × Text)
  | 0, _ => none
  | n + 1, t =>
    match t with
    | [] => some ([], .gap, [])
    | '"' :: t => some ([], .quote, t)
    | '\\' :: t =>
      if !t.isEmpty && atBreak t then some ([], .escapedBreak, t)
      else do
        let (d, t) ← readEscape t
        let (w, e, rest) ← doubleWord n t
        return (d :: w, e, rest)
    | c :: t =>
      if atGap (c :: t) then some ([], .gap, c :: t)
      else do
        let (w, e, rest) ← doubleWord n t
        return (c :: w, e, rest)

/-- The words of a quoted scalar behind `text`, up to its closing quote.
    Each round reads at least one character. -/
def quotedWords (double : Bool) : Nat → Text → Cursor → Option (Text × Cursor)
  | 0, _, _ => none
  | n + 1, text, cur => do
    if cur.atDocumentMark || cur.rest.isEmpty then none
    let (word, stop, rest) ←
      if double then doubleWord (cur.rest.length + 1) cur.rest
      else some (singleWord cur.rest)
    let cur := cur.upTo rest
    let text := text ++ word
    match stop with
    | .quote => return (text, cur)
    | .gap =>
      let (gap, cur) ← Gap.none.read 0 cur.index cur.line cur.column cur.rest
      quotedWords double n (text ++ gap.fold) cur
    | .escapedBreak =>
      let cur := cur.nextLine
      let (gap, cur) ← Gap.escapedBreak.read 0 cur.index cur.line cur.column cur.rest
      quotedWords double n (text ++ gap.fold) cur

/-- A quoted scalar; the place is at its opening quote. -/
def readQuoted (double : Bool) (cur : Cursor) : Option (Text × Cursor) :=
  quotedWords double (cur.rest.length + 1) [] (cur.skip 1)

/-! ## 4. Block scalars -/

/-- What becomes of the line breaks at a block scalar's end. -/
inductive Chomping where
  /-- All go. -/
  | strip
  /-- The first stays. -/
  | clip
  /-- All stay. -/
  | keep
  deriving DecidableEq, Repr

/-- The empty lines and the indentation at a place in a block scalar:
    the breaks, the deepest indentation seen, and the place behind. An
    indentation of zero is still to be found out; a tab in it is a
    fault. -/
def blockGap (indent : Nat) (breaks : Text) (deepest index line column : Nat) :
    Text → Option (Text × Nat × Cursor)
  | [] => some (breaks, max deepest column, ⟨[], index, line, column⟩)
  | '\r' :: '\n' :: t =>
    blockGap indent (breaks ++ ['\n']) (max deepest column) (index + 2) (line + 1) 0 t
  | c :: t =>
    let inside := indent == 0 || column < indent
    if inside && c == ' ' then blockGap indent breaks deepest (index + 1) line (column + 1) t
    else if inside && c == '\t' then none
    else if isBreak c then
      blockGap indent (breaks ++ [plainBreak c]) (max deepest column) (index + 1) (line + 1) 0 t
    else some (breaks, max deepest column, ⟨c :: t, index, line, column⟩)

/-- The break at a line's end, as it counts in a scalar. -/
def breakHere (t : Text) : Text :=
  match t with
  | [] => []
  | c :: _ => [plainBreak c]

/-- The lines of a block scalar behind `text`. `lead` is the break that
    ended the line before, `trail` the breaks of the empty lines since,
    `spaced` whether that line started with a space. Each round reads a
    line. -/
def blockLines (literal : Bool) (indent : Nat) :
    Nat → Text → Text → Text → Bool → Cursor → Option (Text × Text × Text × Cursor)
  | 0, _, _, _, _, _ => none
  | n + 1, text, lead, trail, spaced, cur =>
    match cur.rest with
    | [] => some (text, lead, trail, cur)
    | c :: _ =>
      if cur.column ≠ indent then some (text, lead, trail, cur)
      else
        let folds := !literal && lead == ['\n'] && !spaced && !isSpace c
        let text := if folds then (if trail = [] then text ++ [' '] else text ++ trail)
          else text ++ lead ++ trail
        let line := cur.rest.takeWhile fun d => !isBreak d
        let cur := cur.skip line.length
        let lead := breakHere cur.rest
        let cur := cur.nextLine
        match blockGap indent [] 0 cur.index cur.line cur.column cur.rest with
        | none => none
        | some (trail, _, cur) =>
          blockLines literal indent n (text ++ line) lead trail (isSpace c) cur

/-- The marks behind a block scalar's own: chomping and indentation, in
    either order, each at most once. -/
def blockHeader (t : Text) : Option (Chomping × Option Nat × Text) :=
  let chomping (t : Text) : Option (Chomping × Text) :=
    match t with
    | '-' :: t => some (.strip, t)
    | '+' :: t => some (.keep, t)
    | _ => none
  let digit (t : Text) : Option (Option Nat × Text) :=
    match t with
    | c :: t' =>
      if c == '0' then none
      else if c.isDigit then some (some (c.toNat - 48), t') else some (none, t)
    | [] => some (none, t)
  match chomping t with
  | some (ch, t) => (digit t).map fun r => (ch, r.1, r.2)
  | none =>
    match digit t with
    | none => none
    | some (none, t) => some (.clip, none, t)
    | some (some d, t) =>
      match chomping t with
      | some (ch, t) => some (ch, some d, t)
      | none => some (.clip, some d, t)

/-- A block scalar inside a block indented to a column; the place is at
    its first mark. -/
def readBlock (indent : Int) (cur : Cursor) : Option (Text × Cursor) := do
  let literal := cur.rest.head? == some '|'
  let (chomping, increment, rest) ← blockHeader (cur.rest.drop 1)
  let cur := (cur.upTo rest).skipWhile isSpace
  let cur := if cur.rest.head? == some '#' then cur.skipWhile fun c => !isBreak c else cur
  if !atBreak cur.rest then none
  let cur := cur.nextLine
  let base : Nat := (max indent 0).toNat
  let given : Nat := match increment with
    | some d => if 0 ≤ indent then base + d else d
    | none => 0
  let (trail, deepest, cur) ← blockGap given [] 0 cur.index cur.line cur.column cur.rest
  let column := if given = 0 then max (max deepest (indent + 1).toNat) 1 else given
  let (text, lead, trail, cur) ←
    blockLines literal column (cur.rest.length + 1) [] [] trail false cur
  let text := match chomping with
    | .strip => text
    | .clip => text ++ lead
    | .keep => text ++ lead ++ trail
  return (text, cur)

end InputMask.Yaml
