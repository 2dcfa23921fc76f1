/-
  File:      InputMask/Json.lean
  Subject:   JSON values and their indented text.

  Members and elements stand on lines of their own, two spaces deeper
  than what holds them; an empty array or object stays on its line. In
  strings only quotes, backslashes and control characters are escaped.
-/
import InputMask.Text.Decimal
namespace InputMask

/-- A JSON value; the members of an object are in order. -/
inductive Json where
  | null
  | bool (b : Bool)
  | nat (n : Nat)
  | str (s : Text)
  | arr (elements : List Json)
  | obj (members : List (String × Json))

namespace Json

/-! ## 1. Strings -/

/-- The hexadecimal digit, in lower case, of a number below sixteen. -/
def hexDigit (n : Nat) : Char := if n < 10 then Char.ofNat (48 + n) else Char.ofNat (87 + n)

/-- A character inside a JSON string. -/
def escapeChar (c : Char) : Text :=
  if c = '"' then ['\\', '"']
  else if c = '\\' then ['\\', '\\']
  else if c = '\x08' then ['\\', 'b']
  else if c = '\x0c' then ['\\', 'f']
  else if c = '\n' then ['\\', 'n']
  else if c = '\r' then ['\\', 'r']
  else if c = '\t' then ['\\', 't']
  else if c.toNat < 32 then
    ['\\', 'u', '0', '0', hexDigit (c.toNat / 16), hexDigit (c.toNat % 16)]
  else [c]

/-- A JSON string. -/
def quote (s : Text) : Text := '"' :: s.flatMap escapeChar ++ ['"']

/-! ## 2. Values -/

/-- A line break and an indentation. -/
def newline (depth : Nat) : Text := '\n' :: List.replicate (2 * depth) ' '

mutual

/-- A value as text, the lines it adds indented for a depth. -/
def pretty (depth : Nat) : Json → Text
  | .null => "null".toList
  | .bool true => "true".toList
  | .bool false => "false".toList
  | .nat n => Text.Decimal.write n
  | .str s => quote s
  | .arr [] => ['[', ']']
  | .arr (x :: xs) =>
    '[' :: newline (depth + 1) ++ pretty (depth + 1) x ++ prettyElements (depth + 1) xs ++
      newline depth ++ [']']
  | .obj [] => ['{', '}']
  | .obj (m :: ms) =>
    '{' :: newline (depth + 1) ++ prettyMember (depth + 1) m ++
      prettyMembers (depth + 1) ms ++ newline depth ++ ['}']

/-- The elements behind the first one. -/
def prettyElements (depth : Nat) : List Json → Text
  | [] => []
  | x :: xs => ',' :: newline depth ++ pretty depth x ++ prettyElements depth xs

/-- One member of an object. -/
def prettyMember (depth : Nat) : String × Json → Text
  | (k, v) => quote k.toList ++ [':', ' '] ++ pretty depth v

/-- The members behind the first one. -/
def prettyMembers (depth : Nat) : List (String × Json) → Text
  | [] => []
  | m :: ms => ',' :: newline depth ++ prettyMember depth m ++ prettyMembers depth ms

end

/-- A value as indented text. -/
def write (v : Json) : Text := pretty 0 v

/-- The value, or `null` where there is none. -/
def ofOption (f : α → Json) : Option α → Json
  | none => .null
  | some a => f a

end Json

end InputMask
