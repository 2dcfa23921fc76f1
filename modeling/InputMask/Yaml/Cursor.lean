/-
  File:      InputMask/Yaml/Cursor.lean
  Subject:   Places in a YAML text.

  Lines end at a line feed, a carriage return, both together, or one of
  the characters U+0085, U+2028 and U+2029. The column is the number of
  characters since the line's start; indentation is measured in it.
-/
import InputMask.Text.Blank
namespace InputMask.Yaml

/-! ## 1. Characters -/

/-- A space or a tab. -/
def isSpace (c : Char) : Bool := c == ' ' || c == '\t'

/-- A character that ends a line. -/
def isBreak (c : Char) : Bool :=
  c == '\n' || c == '\r' || c == '\u0085' || c == '\u2028' || c == '\u2029'

/-- Whether a text is at its end, at a space or at a line's end. -/
def atGap : Text → Bool
  | [] => true
  | c :: _ => isSpace c || isBreak c

/-- Whether a text is at its end or at a line's end. -/
def atBreak : Text → Bool
  | [] => true
  | c :: _ => isBreak c

/-- The characters a YAML text may hold. -/
def isPrintable (c : Char) : Bool :=
  let n := c.toNat
  n == 0x09 || n == 0x0A || n == 0x0D || (0x20 ≤ n && n ≤ 0x7E) || n == 0x85 ||
    (0xA0 ≤ n && n ≤ 0xD7FF) || (0xE000 ≤ n && n ≤ 0xFFFD) || 0x10000 ≤ n

/-- A line's end as it counts in a scalar: the separators U+2028 and
    U+2029 stay, all others are a line feed. -/
def plainBreak (c : Char) : Char := if c == '\u2028' || c == '\u2029' then c else '\n'

/-! ## 2. Cursors -/

/-- A place in a text, and the text from there on. -/
structure Cursor where
  /-- The text from here on. -/
  rest : Text
  /-- The number of characters before this place. -/
  index : Nat
  /-- The number of lines before this one. -/
  line : Nat
  /-- The number of characters before this one on its line. -/
  column : Nat
  deriving Repr

namespace Cursor

/-- The start of a text. -/
def start (t : Text) : Cursor := ⟨t, 0, 0, 0⟩

/-- The place further on in the same line from where a text remains. -/
def upTo (c : Cursor) (rest : Text) : Cursor :=
  let n := c.rest.length - rest.length
  ⟨rest, c.index + n, c.line, c.column + n⟩

/-- The place `n` characters on in the same line. -/
def skip (c : Cursor) (n : Nat) : Cursor := c.upTo (c.rest.drop n)

/-- The place behind the characters that pass a test, in one line. -/
def skipWhile (c : Cursor) (p : Char → Bool) : Cursor := c.upTo (c.rest.dropWhile p)

/-- The start of the next line; the place is at a line's end. -/
def nextLine (c : Cursor) : Cursor :=
  match c.rest with
  | '\r' :: '\n' :: t => ⟨t, c.index + 2, c.line + 1, 0⟩
  | _ :: t => ⟨t, c.index + 1, c.line + 1, 0⟩
  | [] => c

/-- Whether three marks that start or end a document stand here. -/
def atMark (c : Cursor) (mark : Char) : Bool :=
  match c.rest with
  | a :: b :: d :: t => c.column == 0 && a == mark && b == mark && d == mark && atGap t
  | _ => false

/-- Whether a document starts or ends here. -/
def atDocumentMark (c : Cursor) : Bool := c.atMark '-' || c.atMark '.'

end Cursor

end InputMask.Yaml
