/-
  File:      InputMask/Unmask.lean
  Subject:   Unmasking: the value held by a display.

  A display and the slots are read side by side. A character is the
  value's when its slot is a placeholder that accepts it; all others
  are kept only on request, and a prompt only if prompts are kept.
-/
import InputMask.Mask
import InputMask.Options
namespace InputMask

/-! ## 1. What is kept -/

/-- Whether a character of a display, shown in a slot, is kept. -/
def Options.keeps (o : Options) (c : Char) (s : Slot) : Bool :=
  !(some c == o.prompt && !o.keepPrompt) &&
    ((s.isPlaceholder && (s.accept c).isSome) || o.keepLiterals)

/-- A prompt is dropped on request. -/
theorem Options.keeps_prompt (p : Char) (keepLiterals : Bool) (s : Slot) :
    Options.keeps ⟨some p, false, keepLiterals⟩ p s = false := by
  simp [Options.keeps]

/-- A literal is dropped unless literals are kept. -/
theorem Options.keeps_literal {s : Slot} {l : Char} (hl : s.literal? = some l)
    (prompt : Option Char) (keepPrompt : Bool) (c : Char) :
    Options.keeps ⟨prompt, keepPrompt, false⟩ c s = false := by
  simp [Options.keeps, Slot.isPlaceholder_of_literal? hl]

/-- A character that its placeholder takes is kept, if it is not the prompt. -/
theorem Options.keeps_taken {p : Char} {s : Slot} {c d : Char} (hs : s.literal? = none)
    (hc : s.accept c = some d) (hp : c ≠ p) (keepPrompt keepLiterals : Bool) :
    Options.keeps ⟨some p, keepPrompt, keepLiterals⟩ c s = true := by
  simp [Options.keeps, Slot.literal?_eq_none_iff.mp hs, hc, hp]

/-- The characters of a display that are kept, read beside a row of slots. -/
def Options.kept (o : Options) (display : Text) (slots : List Slot) : Text :=
  ((display.zip slots).filter fun x => o.keeps x.1 x.2).map Prod.fst

namespace Mask

/-- The characters of a display kept from the slots `first` up to but
    not including `stop`, in order and untrimmed. -/
def unmaskRange (m : Mask) (o : Options) (display : Text) (first stop : Nat) : Text :=
  let stop := min stop m.length
  let first := min first stop
  ((((display.zip m.slots).take stop).drop first).filter fun x => o.keeps x.1 x.2).map
    Prod.fst

/-- The value of a display, blanks at its end trimmed. A mask without
    slots gives the display back as it is. -/
def unmask (m : Mask) (o : Options) (display : Text) : Text :=
  if m.isEmpty then display else Text.trimEnd (m.unmaskRange o display 0 m.length)

theorem take_zip (display : Text) (slots : List Slot) (n : Nat) :
    (display.zip slots).take n = (display.take n).zip slots := by
  induction display generalizing slots n with
  | nil => simp
  | cons c display ih => cases slots <;> cases n <;> simp [ih]

/-- From all slots everything that is kept is kept. -/
theorem unmaskRange_all (m : Mask) (o : Options) (display : Text) :
    m.unmaskRange o display 0 m.length = o.kept display m.slots := by
  have hlen : (display.zip m.slots).length ≤ m.slots.length := by
    rw [List.length_zip]
    exact Nat.min_le_right _ _
  unfold unmaskRange Options.kept length
  simp only [Nat.min_self, Nat.zero_min, List.drop_zero, List.take_of_length_le hlen]

/-- What is kept up to a slot is what is kept of the front of the display. -/
theorem unmaskRange_zero (m : Mask) (o : Options) (display : Text) (stop : Nat) :
    m.unmaskRange o display 0 stop = o.kept (display.take stop) m.slots := by
  have hlen : (display.zip m.slots).length ≤ m.slots.length := by
    rw [List.length_zip]
    exact Nat.min_le_right _ _
  unfold unmaskRange Options.kept length
  simp only [Nat.zero_min, List.drop_zero]
  rw [← List.take_take, List.take_of_length_le hlen, take_zip]

/-- **Ranges that meet are read one after the other.** -/
theorem unmaskRange_append (m : Mask) (o : Options) (display : Text) {first middle stop : Nat}
    (hf : first ≤ middle) (hs : middle ≤ stop) :
    m.unmaskRange o display first middle ++ m.unmaskRange o display middle stop =
      m.unmaskRange o display first stop := by
  have hcut : ∀ {i j}, i ≤ j → min i (min j m.length) = min i m.length := by omega
  have hle : min first m.length ≤ min middle m.length := by omega
  have hle' : min middle m.length ≤ min stop m.length := by omega
  have hsplit := List.take_append_drop (min middle m.length - min first m.length)
    (((display.zip m.slots).take (min stop m.length)).drop (min first m.length))
  rw [List.take_drop, List.drop_drop, List.take_take, Nat.add_sub_cancel' hle,
    Nat.min_eq_left hle'] at hsplit
  simp only [unmaskRange, hcut hf, hcut hs, hcut (Nat.le_trans hf hs)]
  rw [← List.map_append, ← List.filter_append, hsplit]

/-- Under a mask with slots the value is what is kept, trimmed. -/
theorem unmask_eq {m : Mask} (hm : m.isEmpty = false) (o : Options) (display : Text) :
    m.unmask o display = Text.trimEnd (o.kept display m.slots) := by
  unfold unmask
  rw [hm, unmaskRange_all]
  rfl

end Mask

/-! ## 2. Displays in parts -/

namespace Options

variable (o : Options)

@[simp] theorem kept_nil (slots : List Slot) : o.kept [] slots = [] := rfl

@[simp] theorem kept_no_slots (display : Text) : o.kept display [] = [] := by
  unfold kept
  rw [List.zip_nil_right]
  rfl

theorem kept_cons_of_keeps {o : Options} {c : Char} {s : Slot} (h : o.keeps c s = true)
    (t : Text) (slots : List Slot) : o.kept (c :: t) (s :: slots) = c :: o.kept t slots := by
  simp [kept, h]

theorem kept_cons_of_not {o : Options} {c : Char} {s : Slot} (h : o.keeps c s = false)
    (t : Text) (slots : List Slot) : o.kept (c :: t) (s :: slots) = o.kept t slots := by
  simp [kept, h]

/-- A display in two parts is read part by part. -/
theorem kept_append (t u : Text) (slots : List Slot) :
    o.kept (t ++ u) slots = o.kept t slots ++ o.kept u (slots.drop t.length) := by
  induction t generalizing slots with
  | nil => simp
  | cons c t ih =>
    cases slots with
    | nil => simp
    | cons s slots =>
      cases h : o.keeps c s with
      | true =>
        rw [List.cons_append, kept_cons_of_keeps h, kept_cons_of_keeps h, ih]
        rfl
      | false =>
        rw [List.cons_append, kept_cons_of_not h, kept_cons_of_not h, ih]
        rfl

/-- What is kept stands in the display. -/
theorem mem_of_mem_kept {t : Text} {slots : List Slot} {c : Char} (h : c ∈ o.kept t slots) :
    c ∈ t := by
  unfold kept at h
  obtain ⟨x, hx, rfl⟩ := List.mem_map.mp h
  exact (List.of_mem_zip (List.mem_filter.mp hx).1).1

/-- The blanks at the end of a display add nothing but blanks. -/
theorem trimEnd_kept_trimEnd (t : Text) (slots : List Slot) :
    Text.trimEnd (o.kept (Text.trimEnd t) slots) = Text.trimEnd (o.kept t slots) := by
  obtain ⟨u, hu, hb⟩ := Text.exists_trimEnd_append t
  have hk := o.kept_append (Text.trimEnd t) u slots
  rw [← hu] at hk
  rw [hk, Text.trimEnd_append_of_all]
  intro c hc
  exact hb c (o.mem_of_mem_kept hc)

end Options

/-- **A display and the same display trimmed hold the same value.** -/
theorem Mask.unmask_trimEnd {m : Mask} (hm : m.isEmpty = false) (o : Options)
    (display : Text) : m.unmask o (Text.trimEnd display) = m.unmask o display := by
  rw [m.unmask_eq hm, m.unmask_eq hm, o.trimEnd_kept_trimEnd]

end InputMask
