/-
  File:      InputMask/KeyScript.lean
  Subject:   Keystroke scripts: their text and their keys.

  A script is read left to right. A character stands for itself; a
  name in braces stands for a key; `{{` stands for the character `{`.
  `{SELECT:a-b}` selects a range and `{PASTE:text}` pastes all text up
  to the next `}`. A script that cannot be read names its first fault.
-/
import InputMask.Text.Decimal
namespace InputMask

/-! ## 1. Keys -/

/-- One step of a script. -/
inductive Key where
  | char (c : Char)
  | backspace
  | delete
  | left
  | right
  | home
  /-- The caret goes behind the text. -/
  | toEnd
  | select (first stop : Nat)
  | cut
  | paste (text : Text)
  deriving DecidableEq, Repr

/-- Why a script cannot be read. -/
inductive KeyScriptError where
  /-- The brace at this position is never closed. -/
  | unterminated (position : Nat)
  /-- No key has this name. -/
  | unknownKey (name : Text)
  /-- This is not a range. -/
  | invalidSelection (range : Text)
  deriving DecidableEq, Repr

/-- The message of a fault. -/
def KeyScriptError.message : KeyScriptError → String
  | unterminated n => s!"Unterminated key name starting at position {n}"
  | unknownKey name => s!"Unknown key name '{String.ofList name}'"
  | invalidSelection range =>
    s!"Invalid selection '{String.ofList range}': expected START-END"

namespace KeyScript

/-! ## 2. Names of keys -/

/-- The text in front of the first place where a character stands, and
    the text behind it. -/
def cutAt (stop : Char) : Text → Option (Text × Text)
  | [] => none
  | c :: t => if c = stop then some ([], t) else (cutAt stop t).map fun r => (c :: r.1, r.2)

/-- The two parts around the character are the whole text, and the
    first does not hold it. -/
theorem cutAt_eq_some_iff {stop : Char} {t u v : Text} :
    cutAt stop t = some (u, v) ↔ t = u ++ stop :: v ∧ stop ∉ u := by
  induction t generalizing u with
  | nil => simp [cutAt]
  | cons c t ih =>
    unfold cutAt
    split
    · rename_i h
      subst h
      cases u with
      | nil => simp
      | cons d u => simp; intro h; simp [h]
    · rename_i h
      cases u with
      | nil => simp [h]
      | cons d u =>
        simp only [Option.map_eq_some_iff, Prod.mk.injEq, List.cons.injEq, Prod.exists]
        constructor
        · rintro ⟨a, b, hab, ⟨rfl, rfl⟩, rfl⟩
          obtain ⟨rfl, hn⟩ := ih.mp hab
          exact ⟨by simp, by simp [hn, Ne.symm h]⟩
        · rintro ⟨⟨rfl, rfl⟩, hn⟩
          exact ⟨u, v, ih.mpr ⟨rfl, fun hm => hn (List.mem_cons_of_mem _ hm)⟩, by simp⟩

/-- There are no two parts where the character stands nowhere. -/
theorem cutAt_eq_none_iff {stop : Char} {t : Text} : cutAt stop t = none ↔ stop ∉ t := by
  constructor
  · intro h hmem
    obtain ⟨u, v, rfl, hu⟩ := List.eq_append_cons_of_mem hmem
    rw [cutAt_eq_some_iff.mpr ⟨rfl, hu⟩] at h
    cases h
  · intro h
    cases hcut : cutAt stop t with
    | none => rfl
    | some r =>
      rw [(cutAt_eq_some_iff.mp hcut).1] at h
      exact absurd (List.mem_append_right _ List.mem_cons_self) h

/-- What stands behind the character is shorter than the text. -/
theorem length_of_cutAt {stop : Char} {t u v : Text} (h : cutAt stop t = some (u, v)) :
    v.length < t.length := by
  rw [(cutAt_eq_some_iff.mp h).1]
  simp
  omega

/-- The least number that is no position. -/
def positionLimit : Nat := 18446744073709551616

/-- A position as a script writes it: blanks around it and one plus
    sign in front do not count. -/
def readPosition (t : Text) : Option Nat :=
  let digits := match Text.trim t with
    | '+' :: rest => rest
    | rest => rest
  (Text.Decimal.read? digits).filter (· < positionLimit)

/-- The range of a selection, written `START-END`. -/
def readRange (t : Text) : Option (Nat × Nat) := do
  let (first, stop) ← cutAt '-' t
  let first ← readPosition first
  let stop ← readPosition stop
  if first ≤ stop then some (first, stop) else none

/-- The text behind a given beginning. -/
def dropHead? : Text → Text → Option Text
  | [], t => some t
  | _ :: _, [] => none
  | c :: h, d :: t => if c = d then dropHead? h t else none

/-- The beginning and the text behind it are the whole text. -/
theorem dropHead?_eq_some_iff {h t u : Text} : dropHead? h t = some u ↔ t = h ++ u := by
  induction h generalizing t with
  | nil => simp [dropHead?, eq_comm]
  | cons c h ih =>
    cases t with
    | nil => simp [dropHead?]
    | cons d t =>
      unfold dropHead?
      split
      · rename_i hcd
        rw [hcd, ih, List.cons_append, List.cons_inj_right]
      · rename_i hcd
        simp [eq_comm, hcd]

/-- The keys named by one word each. -/
def namedKeys : List (Text × Key) :=
  [("BS".toList, .backspace), ("BACKSPACE".toList, .backspace),
   ("DEL".toList, .delete), ("DELETE".toList, .delete),
   ("LEFT".toList, .left), ("RIGHT".toList, .right),
   ("HOME".toList, .home), ("END".toList, .toEnd), ("CUT".toList, .cut)]

/-- What a paste starts with. -/
def pasteWord : Text := "PASTE:".toList

/-- What a selection starts with. -/
def selectWord : Text := "SELECT:".toList

/-- The key a name in braces stands for. -/
def keyOfName (name : Text) : Except KeyScriptError Key :=
  match dropHead? pasteWord name with
  | some text => .ok (.paste text)
  | none =>
    match dropHead? selectWord name with
    | some range =>
      match readRange range with
      | some (first, stop) => .ok (.select first stop)
      | none => .error (.invalidSelection range)
    | none =>
      match namedKeys.lookup name with
      | some key => .ok key
      | none => .error (.unknownKey name)

/-! ## 3. Reading scripts -/

/-- The keys of a script whose first character has a given position. -/
def parseFrom (position : Nat) : Text → Except KeyScriptError (List Key)
  | [] => .ok []
  | '{' :: '{' :: t => (parseFrom (position + 2) t).map (.char '{' :: ·)
  | '{' :: t =>
    match _h : cutAt '}' t with
    | none => .error (.unterminated position)
    | some (name, rest) =>
      match keyOfName name with
      | .error e => .error e
      | .ok key => (parseFrom (position + name.length + 2) rest).map (key :: ·)
  | c :: t => (parseFrom (position + 1) t).map (.char c :: ·)
termination_by t => t.length
decreasing_by
  · simp only [List.length_cons]; omega
  · have := length_of_cutAt _h
    simp only [List.length_cons]; omega
  · simp only [List.length_cons]; omega

/-- The keys of a script. -/
def parse (script : Text) : Except KeyScriptError (List Key) := parseFrom 0 script

/-! ## 4. Writing scripts -/

/-- A name in braces. -/
def braced (name : Text) : Text := '{' :: name ++ ['}']

/-- A key as script text. -/
def writeKey : Key → Text
  | .char c => if c = '{' then ['{', '{'] else [c]
  | .backspace => braced "BS".toList
  | .delete => braced "DEL".toList
  | .left => braced "LEFT".toList
  | .right => braced "RIGHT".toList
  | .home => braced "HOME".toList
  | .toEnd => braced "END".toList
  | .cut => braced "CUT".toList
  | .select first stop =>
    braced (selectWord ++ Text.Decimal.write first ++ '-' :: Text.Decimal.write stop)
  | .paste text => braced (pasteWord ++ text)

/-- Keys as a script. -/
def write (keys : List Key) : Text := keys.flatMap writeKey

end KeyScript

end InputMask
