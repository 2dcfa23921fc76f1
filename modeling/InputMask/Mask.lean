/-
  File:      InputMask/Mask.lean
  Subject:   Mask texts and the slots they lay out.

  A mask text is read left to right, one token a character. `<`, `>`
  and `|` set the case mode of all slots behind them and take no slot;
  `\` makes the next character a literal, whatever it stands for
  elsewhere, and a `\` with nothing behind it is a literal backslash.
  Every text is a mask: a character with no meaning is a literal.
-/
import InputMask.Slot
namespace InputMask

/-! ## 1. Tokens -/

/-- The meaning of one character of a mask text. -/
inductive Token where
  | literal (c : Char)
  | placeholder (k : Category)
  /-- The case mode changes. -/
  | shift (m : CaseMode)
  /-- The next character is a literal. -/
  | escape
  deriving DecidableEq, Repr

/-- The character that escapes the next one. -/
def escapeMark : Char := '\\'

/-- The character that sets the case mode. -/
def CaseMode.mark : CaseMode → Char
  | plain => '|'
  | lower => '<'
  | upper => '>'

/-- The token of a character. -/
def Token.ofChar (c : Char) : Token :=
  if c = CaseMode.lower.mark then .shift .lower
  else if c = CaseMode.upper.mark then .shift .upper
  else if c = CaseMode.plain.mark then .shift .plain
  else if c = escapeMark then .escape
  else match Category.ofSymbol? c with
    | some k => .placeholder k
    | none => .literal c

/-- A mask text as tokens, one for each character. -/
def tokenize (source : Text) : List Token := source.map Token.ofChar

/-! ## 2. Compiling -/

/-- The slots of a mask text whose reading starts in a case mode. -/
def slotsFrom (m : CaseMode) : Text → List Slot
  | [] => []
  | c :: rest =>
    match Token.ofChar c with
    | .shift m' => slotsFrom m' rest
    | .literal l => ⟨.literal l, m, false⟩ :: slotsFrom m rest
    | .placeholder k => ⟨.placeholder k, m, false⟩ :: slotsFrom m rest
    | .escape =>
      match rest with
      | [] => [⟨.literal escapeMark, m, true⟩]
      | l :: rest' => ⟨.literal l, m, true⟩ :: slotsFrom m rest'

/-- A mask: its text and the slots it lays out. -/
structure Mask where
  /-- The text the slots were compiled from. -/
  source : Text
  /-- The slots, one for each position of a full display. -/
  slots : List Slot
  deriving DecidableEq, Repr

namespace Mask

/-- The mask of a text. -/
def compile (source : Text) : Mask := ⟨source, slotsFrom .plain source⟩

/-- The number of slots. -/
def length (m : Mask) : Nat := m.slots.length

/-- Whether the mask lays out nothing, so that text passes freely. -/
def isEmpty (m : Mask) : Bool := m.slots.isEmpty

/-- The number of slots that take input. -/
def placeholderCount (m : Mask) : Nat := (m.slots.filter Slot.isPlaceholder).length

/-- The display with nothing entered, at full width. -/
def emptyText (m : Mask) (prompt : Option Char) : Text :=
  m.slots.filterMap (Slot.blank prompt)

end Mask

/-! ## 3. Spelling slots -/

/-- A slot as mask text that sets the slot's own case mode. -/
def Slot.spell (s : Slot) : Text :=
  match s.kind with
  | .literal c => if s.escaped then [s.caseMode.mark, escapeMark, c] else [s.caseMode.mark, c]
  | .placeholder k => [s.caseMode.mark, k.symbol]

/-- A mask text for a row of slots. -/
def spell (slots : List Slot) : Text := slots.flatMap Slot.spell

/-! ## 4. Size -/

/-- A mask has no more slots than its text has characters. -/
theorem length_slotsFrom_le (m : CaseMode) (t : Text) :
    (slotsFrom m t).length ≤ t.length := by
  fun_induction slotsFrom m t <;> simp_all <;> omega

/-! ## 5. Literals -/

theorem Token.eq_of_ofChar_literal {c l : Char} (h : ofChar c = .literal l) : c = l := by
  unfold ofChar at h
  repeat' split at h
  all_goals cases h
  rfl

theorem Token.eq_of_ofChar_escape {c : Char} (h : ofChar c = .escape) : c = escapeMark := by
  unfold ofChar at h
  repeat' split at h
  all_goals first | assumption | cases h

/-- Every literal of a mask stands in its text. -/
theorem mem_of_mem_slotsFrom {m : CaseMode} {t : Text} {s : Slot} {l : Char}
    (hs : s ∈ slotsFrom m t) (hl : s.literal? = some l) : l ∈ t := by
  fun_induction slotsFrom m t with
  | case1 => cases hs
  | case2 m c rest m' hc ih => exact List.mem_cons_of_mem _ (ih hs)
  | case3 m c rest l' hc ih =>
    obtain rfl := Token.eq_of_ofChar_literal hc
    rcases List.mem_cons.mp hs with rfl | hs
    · cases hl
      exact List.mem_cons_self
    · exact List.mem_cons_of_mem _ (ih hs)
  | case4 m c rest k hc ih =>
    rcases List.mem_cons.mp hs with rfl | hs
    · cases hl
    · exact List.mem_cons_of_mem _ (ih hs)
  | case5 m c hc =>
    obtain rfl := Token.eq_of_ofChar_escape hc
    obtain rfl := List.mem_singleton.mp hs
    cases hl
    exact List.mem_cons_self
  | case6 m c hc l' rest' ih =>
    refine List.mem_cons_of_mem _ ?_
    rcases List.mem_cons.mp hs with rfl | hs
    · cases hl
      exact List.mem_cons_self
    · exact List.mem_cons_of_mem _ (ih hs)

end InputMask
