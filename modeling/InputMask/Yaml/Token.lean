/-
  File:      InputMask/Yaml/Token.lean
  Subject:   YAML texts as tokens.

  Indentation becomes tokens of its own: a block collection starts
  where something is indented further and ends where something is
  indented less. A key that is not marked by `?` is known only at its
  `:`, so the scanner remembers where one may have started (a key spot)
  and puts the key token there later. A key spot lapses at the line's
  end and after 1024 characters.
-/
import InputMask.Yaml.Scalar
namespace InputMask.Yaml

/-! ## 1. Tokens -/

/-- How a scalar is written. -/
inductive Style where
  | plain
  | quoted
  | literal
  | folded
  deriving DecidableEq, Repr

/-- A part of a YAML text. -/
inductive Token where
  /-- The version of YAML that a document names. -/
  | version
  /-- A shorthand for tags. -/
  | tagHandle (handle stem : Text)
  | documentStart
  | documentEnd
  | blockSequenceStart
  | blockMappingStart
  | blockEnd
  | flowSequenceStart
  | flowSequenceEnd
  | flowMappingStart
  | flowMappingEnd
  | blockEntry
  | flowEntry
  | key
  | value
  | alias (name : Text)
  | anchor (name : Text)
  | tag (handle suffix : Text)
  | scalar (text : Text) (style : Style)
  deriving DecidableEq, Repr

/-! ## 2. The scanner -/

/-- A place where a key may have started. -/
structure KeySpot where
  /-- The number of tokens before it. -/
  tokens : Nat
  /-- Whether nothing but a key can stand there. -/
  required : Bool
  /-- The number of characters before it. -/
  index : Nat
  /-- Its line. -/
  line : Nat
  /-- Its column. -/
  column : Nat
  deriving Repr

/-- The scanner between two tokens. -/
structure Scanner where
  /-- Where it reads. -/
  cur : Cursor
  /-- The tokens so far. -/
  tokens : List Token
  /-- The number of open flow collections. -/
  flow : Nat
  /-- The column of the innermost block, -1 outside of all. -/
  indent : Int
  /-- The columns of the blocks around it, innermost first. -/
  outer : List Int
  /-- Whether a key may start here. -/
  keyAllowed : Bool
  /-- The key spots of the open flow collections and of the block
      around them, innermost first. -/
  spots : List (Option KeySpot)
  deriving Repr

namespace Scanner

/-- The scanner at the start of a text. -/
def start (t : Text) : Scanner := ⟨Cursor.start t, [], 0, -1, [], true, [none]⟩

/-- One token more. -/
def emit (s : Scanner) (t : Token) : Scanner := { s with tokens := s.tokens ++ [t] }

/-- The scanner further on in its text. -/
def goTo (s : Scanner) (cur : Cursor) : Scanner := { s with cur := cur }

/-- The scanner told whether a key may start next. -/
def allowKey (s : Scanner) (b : Bool) : Scanner := { s with keyAllowed := b }

/-! ## 3. Keys -/

/-- The key spots without those that have lapsed; a required one must
    not lapse. -/
def lapse (s : Scanner) : Option Scanner := do
  let spots ← s.spots.mapM fun spot => match spot with
    | none => some none
    | some k =>
      if k.line < s.cur.line || k.index + 1024 < s.cur.index then
        if k.required then none else some none
      else some (some k)
  return { s with spots := spots }

/-- The scanner without the innermost key spot, which must not be
    required. -/
def dropSpot (s : Scanner) : Option Scanner :=
  match s.spots with
  | some k :: outer => if k.required then none else some { s with spots := none :: outer }
  | _ => some s

/-- The scanner with a key spot here, if a key may start. -/
def saveSpot (s : Scanner) : Option Scanner :=
  if !s.keyAllowed then some s
  else do
    let required := s.flow == 0 && s.indent == s.cur.column
    let s ← s.dropSpot
    let spot : KeySpot :=
      ⟨s.tokens.length, required, s.cur.index, s.cur.line, s.cur.column⟩
    return { s with spots := some spot :: s.spots.drop 1 }

/-! ## 4. Blocks -/

/-- The scanner inside a block at a column, which the token starts at a
    place among the tokens if the column lies deeper. Flows have no
    blocks. -/
def openBlock (s : Scanner) (column : Nat) (place : Nat) (t : Token) : Scanner :=
  if s.flow = 0 ∧ s.indent < column then
    { s with indent := column, outer := s.indent :: s.outer,
             tokens := s.tokens.insertIdx place t }
  else s

/-- The tokens and columns left when all blocks deeper than a column
    are closed. -/
def closing (column indent : Int) : List Int → Nat × Int × List Int
  | [] => (0, indent, [])
  | o :: outer =>
    if column < indent then
      let (n, r) := closing column o outer
      (n + 1, r)
    else (0, indent, o :: outer)

/-- The scanner with all blocks deeper than a column closed. -/
def closeBlocks (s : Scanner) (column : Int) : Scanner :=
  if s.flow ≠ 0 then s
  else
    let (n, indent, outer) := closing column s.indent s.outer
    { s with indent := indent, outer := outer,
             tokens := s.tokens ++ List.replicate n .blockEnd }

/-! ## 5. Between tokens -/

/-- The place of the next token, and whether a key may start there.
    Spaces, comments and line breaks are passed over; so are tabs where
    they cannot be taken for indentation, and a byte-order mark at the
    start of the text, which counts as a column. The first argument
    bounds the number of lines. -/
def passOver (inFlow : Bool) : Nat → Bool → Cursor → Bool × Cursor
  | 0, allowed, cur => (allowed, cur)
  | n + 1, allowed, cur =>
    let cur := if cur.index == 0 && cur.rest.head? == some '\ufeff' then cur.skip 1 else cur
    let cur := cur.skipWhile fun c => c == ' ' || ((inFlow || !allowed) && c == '\t')
    let cur :=
      if cur.rest.head? == some '#' then cur.skipWhile fun c => !isBreak c else cur
    match cur.rest with
    | [] => (allowed, cur)
    | c :: _ =>
      if isBreak c then passOver inFlow n (allowed || !inFlow) cur.nextLine
      else (allowed, cur)

/-! ## 6. Anchors, tags and directives -/

/-- The characters of anchors and tag handles. -/
def isWordChar (c : Char) : Bool := c.isAlphanum || c == '-' || c == '_'

/-- An alias or anchor; the place is at its mark. -/
def readAnchor (cur : Cursor) : Option (Text × Cursor) :=
  let cur := cur.skip 1
  let name := cur.rest.takeWhile isWordChar
  let cur := cur.skip name.length
  let ends := atGap cur.rest || match cur.rest with
    | [] => true
    | c :: _ => "?:,]\x7d%@`".toList.contains c
  if name.isEmpty || !ends then none else some (name, cur)

/-- The characters of a tag's suffix; in a short tag flow marks are
    none. -/
def isTagChar (verbatim : Bool) (c : Char) : Bool :=
  isWordChar c || ";/?:@&=+$.!~*'()%".toList.contains c ||
    (verbatim && ",[]".toList.contains c)

/-- A tag; the place is at its mark. Percent escapes stay as they are. -/
def readTag (inFlow : Bool) (cur : Cursor) : Option (Token × Cursor) := do
  let (tag, cur) ← match cur.rest.drop 1 with
    | '<' :: t =>
      let uri := t.takeWhile (isTagChar true)
      let cur := cur.skip (2 + uri.length)
      if uri.isEmpty || cur.rest.head? != some '>' then none
      else some (Token.tag [] uri, cur.skip 1)
    | t =>
      let word := t.takeWhile isWordChar
      let behind := t.drop word.length
      if behind.head? == some '!' then
        let handle := '!' :: word ++ ['!']
        let suffix := (behind.drop 1).takeWhile (isTagChar false)
        if suffix.isEmpty then none
        else some (Token.tag handle suffix, cur.skip (handle.length + suffix.length))
      else
        let suffix := t.takeWhile (isTagChar false)
        some (Token.tag ['!'] suffix, cur.skip (1 + suffix.length))
  if atGap cur.rest || (inFlow && cur.rest.head? == some ',') then some (tag, cur) else none

/-- The words of a text between spaces. -/
def words (t : Text) : List Text :=
  (t.splitBy fun a b => isSpace a == isSpace b).filter fun w => !w.any isSpace

/-- A directive; the place is at its percent sign. -/
def readDirective (cur : Cursor) : Option (Token × Cursor) :=
  let line := (cur.rest.drop 1).takeWhile fun c => !isBreak c
  let cur := cur.skip (1 + line.length)
  let parts := (words line).takeWhile fun w => w.head? != some '#'
  match parts with
  | [name, a] =>
    if name = "YAML".toList ∧ (a = "1.1".toList ∨ a = "1.2".toList) then some (.version, cur)
    else none
  | [name, a, b] =>
    if name = "TAG".toList ∧ a.head? = some '!' ∧ a.getLast? = some '!' ∧
        ((a.drop 1).dropLast.all isWordChar) ∧ b.all (isTagChar true) then
      some (.tagHandle a b, cur)
    else none
  | _ => none

/-! ## 7. One token -/

/-- A token that ends what stands before it on its line; a key may or
    may not start behind its `n` characters. -/
def mark (s : Scanner) (n : Nat) (t : Token) (keyNext : Bool) : Option Scanner := do
  let s ← s.dropSpot
  return ((s.goTo (s.cur.skip n)).emit t).allowKey keyNext

/-- A flow collection opened. -/
def openFlow (s : Scanner) (t : Token) : Option Scanner := do
  let s ← s.saveSpot
  return { (s.goTo (s.cur.skip 1)).emit t with
    flow := s.flow + 1, spots := none :: s.spots, keyAllowed := true }

/-- A flow collection closed. -/
def closeFlow (s : Scanner) (t : Token) : Option Scanner := do
  let s ← s.dropSpot
  let s := if s.flow = 0 then s
    else { s with flow := s.flow - 1, spots := s.spots.drop 1 }
  return ((s.goTo (s.cur.skip 1)).emit t).allowKey false

/-- An entry of a block sequence. -/
def entry (s : Scanner) : Option Scanner :=
  if s.flow = 0 then
    if !s.keyAllowed then none
    else (s.openBlock s.cur.column s.tokens.length .blockSequenceStart).mark 1 .blockEntry true
  else s.mark 1 .blockEntry true

/-- A key with a mark of its own. -/
def explicitKey (s : Scanner) : Option Scanner :=
  if s.flow = 0 then
    if !s.keyAllowed then none
    else (s.openBlock s.cur.column s.tokens.length .blockMappingStart).mark 1 .key true
  else s.mark 1 .key false

/-- The value of a key. The key's token goes to the innermost key spot
    where there is one. -/
def keyValue (s : Scanner) : Option Scanner :=
  match s.spots with
  | some k :: outer =>
    let s := { s with spots := none :: outer, tokens := s.tokens.insertIdx k.tokens .key }
    let s := s.openBlock k.column k.tokens .blockMappingStart
    some (((s.goTo (s.cur.skip 1)).emit .value).allowKey false)
  | _ =>
    if s.flow = 0 then
      if !s.keyAllowed then none
      else
        let s := s.openBlock s.cur.column s.tokens.length .blockMappingStart
        some (((s.goTo (s.cur.skip 1)).emit .value).allowKey true)
    else some (((s.goTo (s.cur.skip 1)).emit .value).allowKey false)

/-- A document's start or end. -/
def documentMark (s : Scanner) (t : Token) : Option Scanner :=
  (s.closeBlocks (-1)).mark 3 t false

/-- Whether a plain scalar can start with a text. -/
def startsPlain (inFlow : Bool) : Text → Bool
  | [] => false
  | c :: t =>
    (!atGap [c] && !"-?:,[]\x7b\x7d#&*!|>'\"%@`".toList.contains c) ||
      (c == '-' && !(t.headD 'x' == ' ' || t.headD 'x' == '\t')) ||
      (!inFlow && (c == '?' || c == ':') && !atGap t)

/-- The scanner behind its next token; the place is at the token, and
    the text has not ended. -/
def token (s : Scanner) (c : Char) (t : Text) : Option Scanner :=
  let inFlow := s.flow != 0
  if s.cur.column == 0 && c == '%' then do
    let s ← (s.closeBlocks (-1)).dropSpot
    let (directive, cur) ← readDirective s.cur
    return ((s.goTo cur).emit directive).allowKey false
  else if s.cur.atMark '-' then s.documentMark .documentStart
  else if s.cur.atMark '.' then s.documentMark .documentEnd
  else if c == '[' then s.openFlow .flowSequenceStart
  else if c == '{' then s.openFlow .flowMappingStart
  else if c == ']' then s.closeFlow .flowSequenceEnd
  else if c == '}' then s.closeFlow .flowMappingEnd
  else if c == ',' then s.mark 1 .flowEntry true
  else if c == '-' && atGap t then s.entry
  else if c == '?' && (inFlow || atGap t) then s.explicitKey
  else if c == ':' && (inFlow || atGap t) then s.keyValue
  else if c == '*' then do
    let s ← s.saveSpot
    let (name, cur) ← readAnchor s.cur
    return ((s.goTo cur).emit (.alias name)).allowKey false
  else if c == '&' then do
    let s ← s.saveSpot
    let (name, cur) ← readAnchor s.cur
    return ((s.goTo cur).emit (.anchor name)).allowKey false
  else if c == '!' then do
    let s ← s.saveSpot
    let (tag, cur) ← readTag inFlow s.cur
    return ((s.goTo cur).emit tag).allowKey false
  else if !inFlow && (c == '|' || c == '>') then do
    let s ← s.dropSpot
    let (text, cur) ← readBlock s.indent s.cur
    let style := if c == '|' then Style.literal else Style.folded
    return ((s.goTo cur).emit (.scalar text style)).allowKey true
  else if c == '\'' || c == '"' then do
    let s ← s.saveSpot
    let (text, cur) ← readQuoted (c == '"') s.cur
    return ((s.goTo cur).emit (.scalar text .quoted)).allowKey false
  else if startsPlain inFlow (c :: t) then do
    let s ← s.saveSpot
    let (text, newLine, cur) ← readPlain inFlow s.indent s.cur
    return ((s.goTo cur).emit (.scalar text .plain)).allowKey newLine
  else none

/-! ## 8. All tokens -/

/-- The tokens of the rest of a text; the first argument bounds their
    number. -/
def run : Nat → Scanner → Option (List Token)
  | 0, _ => none
  | n + 1, s => do
    let (allowed, cur) :=
      passOver (s.flow != 0) (s.cur.rest.length + 1) s.keyAllowed s.cur
    let s ← ((s.goTo cur).allowKey allowed).lapse
    match s.cur.rest with
    | [] =>
      let s ← (s.closeBlocks (-1)).dropSpot
      return s.tokens
    | c :: t =>
      let s ← (s.closeBlocks s.cur.column).token c t
      run n s

end Scanner

/-- The tokens of a text, or `none` where it is not YAML. -/
def tokens? (t : Text) : Option (List Token) :=
  if t.all isPrintable then (Scanner.start t).run (t.length + 1) else none

end InputMask.Yaml
