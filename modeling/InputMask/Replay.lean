/-
  File:      InputMask/Replay.lean
  Subject:   Keystroke scripts played on a field.
-/
import InputMask.Field
import InputMask.KeyScript
namespace InputMask

/-- What a key does to a field; the pasting mode is the script's. -/
def Key.action (mode : PasteMode) : Key → Field.Action
  | char c => .typeChar c
  | backspace => .backspace
  | delete => .deleteForward
  | left => .moveLeft
  | right => .moveRight
  | home => .moveHome
  | toEnd => .moveEnd
  | select first stop => .select first stop
  | cut => .cut
  | paste text => .paste text mode

/-- The field after a key, and whether it refused the key. -/
def Field.press (f : Field) (mode : PasteMode) (key : Key) : Field × Bool :=
  let (g, answer) := f.step (key.action mode)
  (g, answer = .status .rejected)

/-- The fields after each of some keys, each with whether it refused. -/
def Field.trace (f : Field) (mode : PasteMode) : List Key → List (Field × Bool)
  | [] => []
  | key :: keys =>
    let (g, refused) := f.press mode key
    (g, refused) :: g.trace mode keys

/-- The field after keys played in order, and the numbers of the keys
    it refused; the first key has the number `n`. -/
def Field.playFrom (f : Field) (mode : PasteMode) (n : Nat) : List Key → Field × List Nat
  | [] => (f, [])
  | key :: keys =>
    let (g, refused) := f.press mode key
    let (h, rejected) := g.playFrom mode (n + 1) keys
    (h, if refused then n :: rejected else rejected)

/-- The field after keys played in order, and the numbers of the keys
    it refused, counted from zero. -/
def Field.play (f : Field) (mode : PasteMode) (keys : List Key) : Field × List Nat :=
  f.playFrom mode 0 keys

/-- The field on which a script is played: a new one with its first
    value set, if there is one, and then given focus. -/
def Field.forScript (c : Config) (initial : Option Text) : Field :=
  match initial with
  | some raw => ((Field.ofConfig c).setValue raw).focus
  | none => (Field.ofConfig c).focus

/-- What a played script leaves. -/
structure Report where
  display : Text
  value : Text
  caret : Nat
  /-- The numbers of the keys the field refused. -/
  rejected : List Nat
  deriving DecidableEq, Repr

/-- The report of keys played on a field. -/
def Field.report (f : Field) (mode : PasteMode) (keys : List Key) : Report :=
  let (g, rejected) := f.play mode keys
  ⟨g.display, g.value, g.caret, rejected⟩

end InputMask
