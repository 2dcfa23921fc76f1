/-
  File:      InputMask/Slot.lean
  Subject:   The slots of a mask and the characters they take.

  A mask lays out a row of slots. A literal slot always shows its own
  character; a placeholder slot takes one character of its category. A
  slot offered a character first applies its case mode and then tests
  the result (`Slot.accept`); an escaped slot takes its own character
  as it is and nothing else.
-/
import InputMask.Text.Blank
import InputMask.Text.Case
namespace InputMask

/-! ## 1. Categories -/

/-- What kind of character a placeholder takes. -/
inductive Category where
  | digitRequired
  | digitOrSpace
  | digitSpaceSign
  | letterRequired
  | letterOrSpace
  | charRequired
  | charOrSpace
  | alnumRequired
  | alnumOrSpace
  deriving DecidableEq, Repr

namespace Category

/-- All categories, in the order in which they are documented. -/
def all : List Category :=
  [digitRequired, digitOrSpace, digitSpaceSign, letterRequired, letterOrSpace,
   charRequired, charOrSpace, alnumRequired, alnumOrSpace]

/-- The character that stands for the category in a mask. -/
def symbol : Category → Char
  | digitRequired => '0'
  | digitOrSpace => '9'
  | digitSpaceSign => '#'
  | letterRequired => 'L'
  | letterOrSpace => '?'
  | charRequired => '&'
  | charOrSpace => 'C'
  | alnumRequired => 'A'
  | alnumOrSpace => 'a'

/-- The category a character of a mask stands for, if any. -/
def ofSymbol? : Char → Option Category
  | '0' => some digitRequired
  | '9' => some digitOrSpace
  | '#' => some digitSpaceSign
  | 'L' => some letterRequired
  | '?' => some letterOrSpace
  | '&' => some charRequired
  | 'C' => some charOrSpace
  | 'A' => some alnumRequired
  | 'a' => some alnumOrSpace
  | _ => none

/-- Every category is found by its symbol. -/
@[simp] theorem ofSymbol?_symbol (k : Category) : ofSymbol? k.symbol = some k := by
  cases k <;> rfl

/-- A character that stands for a category is that category's symbol. -/
theorem symbol_of_ofSymbol? {c : Char} {k : Category} (h : ofSymbol? c = some k) :
    k.symbol = c := by
  unfold ofSymbol? at h
  split at h <;> first | cases h; rfl | cases h

/-- Whether the category holds a character. Letters and digits are the
    ASCII ones, blanks are all of them. -/
def admits : Category → Char → Bool
  | digitRequired, c => c.isDigit
  | digitOrSpace, c => c.isDigit || Text.isBlank c
  | digitSpaceSign, c => c.isDigit || Text.isBlank c || c == '+' || c == '-'
  | letterRequired, c => c.isAlpha
  | letterOrSpace, c => c.isAlpha || Text.isBlank c
  | charRequired, _ => true
  | charOrSpace, _ => true
  | alnumRequired, c => c.isAlphanum
  | alnumOrSpace, c => c.isAlphanum || Text.isBlank c

/-- The category's name in tables. -/
def label : Category → String
  | digitRequired => "DigitRequired"
  | digitOrSpace => "DigitOrSpace"
  | digitSpaceSign => "DigitSpaceSign"
  | letterRequired => "LetterRequired"
  | letterOrSpace => "LetterOrSpace"
  | charRequired => "CharRequired"
  | charOrSpace => "CharOrSpace"
  | alnumRequired => "AlnumRequired"
  | alnumOrSpace => "AlnumOrSpace"

/-- The category's name in JSON. -/
def key : Category → String
  | digitRequired => "digit_required"
  | digitOrSpace => "digit_or_space"
  | digitSpaceSign => "digit_space_sign"
  | letterRequired => "letter_required"
  | letterOrSpace => "letter_or_space"
  | charRequired => "char_required"
  | charOrSpace => "char_or_space"
  | alnumRequired => "alnum_required"
  | alnumOrSpace => "alnum_or_space"

end Category

/-! ## 2. Case modes -/

/-- What happens to the case of a character that enters a slot. -/
inductive CaseMode where
  | plain
  | lower
  | upper
  deriving DecidableEq, Repr

namespace CaseMode

/-- A character under the case mode, by a case mapping. -/
def shiftBy (u : Text.Case.Mapping) : CaseMode → Char → Char
  | plain, c => c
  | lower, c => u.lower c
  | upper, c => u.upper c

/-- Shifting twice is shifting once, whatever the mapping. -/
theorem shiftBy_shiftBy (u : Text.Case.Mapping) (m : CaseMode) (c : Char) :
    m.shiftBy u (m.shiftBy u c) = m.shiftBy u c := by
  cases m with
  | plain => rfl
  | lower => exact u.lower_lower c
  | upper => exact u.upper_upper c

/-- A character under the case mode, by the mapping of Unicode. -/
def shift : CaseMode → Char → Char := shiftBy Text.Case.unicode

/-- Shifting twice is shifting once. -/
@[simp] theorem shift_shift (m : CaseMode) (c : Char) : m.shift (m.shift c) = m.shift c :=
  m.shiftBy_shiftBy Text.Case.unicode c

/-- The case mode's name in JSON. -/
def key : CaseMode → String
  | plain => "none"
  | lower => "lower"
  | upper => "upper"

end CaseMode

/-! ## 3. Slots -/

/-- What a slot shows or takes. -/
inductive SlotKind where
  | literal (c : Char)
  | placeholder (k : Category)
  deriving DecidableEq, Repr

/-- Whether a character, its case settled, belongs in a slot of the kind. -/
def SlotKind.fits : SlotKind → Char → Bool
  | literal l, c => c == l
  | placeholder k, c => k.admits c

/-- One position of a mask. -/
structure Slot where
  kind : SlotKind
  /-- The case mode in force at the slot. -/
  caseMode : CaseMode
  /-- Whether the mask escapes the slot's character. -/
  escaped : Bool
  deriving DecidableEq, Repr

namespace Slot

/-- The character of a literal slot. -/
def literal? (s : Slot) : Option Char :=
  match s.kind with
  | .literal c => some c
  | .placeholder _ => none

/-- Whether the slot takes input. -/
def isPlaceholder (s : Slot) : Bool :=
  match s.kind with
  | .literal _ => false
  | .placeholder _ => true

/-- A slot takes input exactly when it has no literal character. -/
theorem isPlaceholder_eq (s : Slot) : s.isPlaceholder = s.literal?.isNone := by
  unfold isPlaceholder literal?
  split <;> rfl

/-- A slot with a literal character is of the literal kind. -/
theorem kind_of_literal? {s : Slot} {l : Char} (h : s.literal? = some l) :
    s.kind = .literal l := by
  unfold literal? at h
  split at h
  · rename_i hk
    cases h
    exact hk
  · cases h

/-- A slot without a literal character is a placeholder of some category. -/
theorem exists_kind_of_literal? {s : Slot} (h : s.literal? = none) :
    ∃ k, s.kind = .placeholder k := by
  unfold literal? at h
  split at h
  · cases h
  · rename_i k hk
    exact ⟨k, hk⟩

/-- What the slot shows while nothing is entered: its literal, else the
    prompt if there is one. -/
def blank (prompt : Option Char) (s : Slot) : Option Char :=
  match s.kind with
  | .literal c => some c
  | .placeholder _ => prompt

theorem blank_of_literal? {s : Slot} {l : Char} (h : s.literal? = some l)
    (prompt : Option Char) : s.blank prompt = some l := by
  unfold blank
  rw [kind_of_literal? h]

theorem blank_of_placeholder {s : Slot} (h : s.literal? = none) (prompt : Option Char) :
    s.blank prompt = prompt := by
  obtain ⟨k, hk⟩ := exists_kind_of_literal? h
  unfold blank
  rw [hk]

/-- The character the slot makes of an offered one, or `none` when it
    refuses. -/
def accept (s : Slot) (c : Char) : Option Char :=
  if s.escaped then
    if s.literal? = some c then some c else none
  else if s.kind.fits (s.caseMode.shift c) then
    some (s.caseMode.shift c)
  else
    none

/-- A slot without a literal character takes input. -/
theorem literal?_eq_none_iff {s : Slot} : s.literal? = none ↔ s.isPlaceholder = true := by
  rw [isPlaceholder_eq, Option.isNone_iff_eq_none]

/-- A slot with a literal character takes none. -/
theorem isPlaceholder_of_literal? {s : Slot} {l : Char} (h : s.literal? = some l) :
    s.isPlaceholder = false := by
  rw [isPlaceholder_eq, h]
  rfl

/-- What a slot makes of a character fits the slot. -/
theorem fits_of_accept {s : Slot} {c d : Char} (h : s.accept c = some d) :
    s.kind.fits d = true := by
  unfold accept at h
  split at h
  · split at h
    · rename_i hl
      cases h
      unfold literal? at hl
      split at hl
      · rename_i hk
        cases hl
        simp [hk, SlotKind.fits]
      · cases hl
    · cases h
  · split at h
    · cases h; assumption
    · cases h

/-- A placeholder makes of a character what its case mode makes of it. -/
theorem eq_shift_of_accept {s : Slot} {c d : Char} (hs : s.literal? = none)
    (h : s.accept c = some d) : d = s.caseMode.shift c := by
  unfold accept at h
  split at h
  · rw [hs, if_neg (by simp)] at h
    cases h
  · split at h
    · cases h
      rfl
    · cases h

/-- A slot takes what it has made of a character, and takes it as it is. -/
theorem accept_of_accept {s : Slot} {c d : Char} (h : s.accept c = some d) :
    s.accept d = some d := by
  unfold accept at h ⊢
  split at h
  · rename_i he
    split at h
    · rename_i hl
      cases h
      rw [if_pos he, if_pos hl]
    · cases h
  · rename_i he
    split at h
    · rename_i hf
      cases h
      rw [if_neg he, CaseMode.shift_shift, if_pos hf]
    · cases h

end Slot

/-- Whether a row of slots has a literal slot with the character. -/
def hasLiteral (slots : List Slot) (c : Char) : Bool :=
  slots.any fun s => s.literal? == some c

theorem hasLiteral_eq_false_iff {slots : List Slot} {c : Char} :
    hasLiteral slots c = false ↔ ∀ s ∈ slots, s.literal? ≠ some c := by
  simp [hasLiteral]

end InputMask
