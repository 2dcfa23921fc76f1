/-
  File:      InputMask/Text/Width.lean
  Subject:   How many columns a text fills on a terminal.

  A character fills a number of columns of its own. Emoji fill two
  columns where a selector asks for their coloured shape; emoji that
  are joined to the next one, or that a skin tone follows, are shown in
  one with it and fill nothing themselves.
-/
import InputMask.Text.Blank
import InputMask.Text.WidthRanges
namespace InputMask.Text

/-! ## 1. Characters -/

namespace Width

/-- Whether one of the ranges holds a code point. -/
def inRanges (ranges : List (Nat × Nat)) (n : Nat) : Bool :=
  ranges.any fun r => r.1 ≤ n && n ≤ r.2

/-- The columns a character fills: two for a wide one, none for a mark
    or a character without a shape, else one. -/
def ofChar (c : Char) : Nat :=
  if c.toNat < 0x300 then (if c.toNat = 0xAD then 0 else 1)
  else if inRanges zeroRanges c.toNat then 0
  else if inRanges wideRanges c.toNat then 2
  else 1

/-- What a text begins with, as far as it touches the character in
    front of it. -/
inductive Lead where
  /-- Nothing that touches it. -/
  | plain
  /-- An emoji. -/
  | emoji
  /-- A skin tone. -/
  | tone
  /-- A joiner and an emoji. -/
  | joined
  /-- The selector of coloured shapes; what follows it may be joined. -/
  | selector (joined : Bool)
  deriving DecidableEq, Repr

/-- Whether a character is a skin tone. -/
def isTone (c : Char) : Bool := 0x1F3FB ≤ c.toNat && c.toNat ≤ 0x1F3FF

/-- Whether a character is shown as an emoji by itself. -/
def isEmoji (c : Char) : Bool := inRanges emojiRanges c.toNat

/-- The columns of a character by itself, and what it is to the one in
    front of it. -/
def alone (c : Char) : Nat × Lead :=
  (ofChar c, if isTone c then .tone else if isEmoji c then .emoji else .plain)

/-- The columns of a character in front of a text, and what both are to
    the character in front of them. -/
def ahead (c : Char) (rest : Lead) : Nat × Lead :=
  if c.toNat = 0xFE0F then (0, .selector (rest = .joined))
  else match rest with
    | .plain => alone c
    | .emoji => if c.toNat = 0x200D then (0, .joined) else alone c
    | .tone =>
      if c.toNat = 0x200D then (0, .joined)
      else if inRanges modifierBaseRanges c.toNat then (0, .emoji)
      else alone c
    | .joined => if isTone c then (0, .tone) else if isEmoji c then (0, .emoji) else alone c
    | .selector joined =>
      if isEmoji c || inRanges textEmojiRanges c.toNat then (if joined then 0 else 2, .emoji)
      else alone c

/-- A character put in front of a text that is measured. -/
def measure (c : Char) (rest : Nat × Lead) : Nat × Lead :=
  let (columns, lead) := ahead c rest.2
  (columns + rest.1, lead)

end Width

/-! ## 2. Texts -/

/-- The columns a text fills. -/
def width (t : Text) : Nat := (t.foldr Width.measure (0, .plain)).1

/-- A text with spaces behind it until it fills some columns. -/
def padTo (columns : Nat) (t : Text) : Text := t ++ List.replicate (columns - width t) ' '

end InputMask.Text
