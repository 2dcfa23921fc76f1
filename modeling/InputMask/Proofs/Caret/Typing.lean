/-
  File:      InputMask/Proofs/Caret/Typing.lean
  Subject:   Text typed key by key and text formatted at once.

  * `Mask.typeEach` -- characters typed one after the other, display and
    caret carried along;
  * `entered` -- what the placeholders of a row make of a text when each
    character is offered to the first free one;
  * `fill_entered` -- formatting puts what is entered in its places;
  * `typeEach_seat` -- typing keeps the values entered so far in their
    places and the caret on the next placeholder;
  * **`typeEach_format`** -- typing a text and formatting it show the same.
-/
import InputMask.Proofs.Caret.Edit
import InputMask.Proofs.Format.Held
namespace InputMask

open InputMask.Field (placeholderAt)

/-! ## 1. Typing -/

/-- A display, a caret, and how each of the characters typed went. -/
structure Typed where
  text : Text
  caret : Nat
  statuses : List Status
  deriving DecidableEq, Repr

/-- Characters typed one after the other with nothing selected. -/
def Mask.typeEach (m : Mask) (o : Options) (display : Text) (caret : Nat) : Text → Typed
  | [] => ⟨display, caret, []⟩
  | c :: input =>
    let out := m.insertChar o display caret 0 c
    let typed := m.typeEach o out.text out.caret input
    { typed with statuses := out.status :: typed.statuses }

/-- What a row of placeholders makes of a text: each character is offered
    to the first one that is free, and dropped where that refuses it. -/
def entered : List Slot → Text → Text
  | [], _ => []
  | _ :: _, [] => []
  | s :: rest, c :: input =>
    match s.accept c with
    | some d => d :: entered rest input
    | none => entered (s :: rest) input

/-- The characters of a text are told apart from the prompt and from the
    literals of a row. -/
structure PlainInput (p : Char) (slots : List Slot) (input : Text) : Prop where
  prompt : p ∉ input
  literal : ∀ s ∈ slots, ∀ c ∈ input, s.literal? ≠ some c

instance (p : Char) (slots : List Slot) (input : Text) : Decidable (PlainInput p slots input) :=
  decidable_of_iff
    (p ∉ input ∧ (slots.all fun s => input.all fun c => s.literal? != some c) = true)
    ⟨fun ⟨hp, hl⟩ => ⟨hp, by simpa using hl⟩, fun h => ⟨h.prompt, by simpa using h.literal⟩⟩

section Entered

variable {s : Slot} {rest : List Slot} {c d : Char} {input : Text}

@[simp] theorem entered_nil (slots : List Slot) : entered slots [] = [] := by
  cases slots <;> rfl

@[simp] theorem entered_no_slots (input : Text) : entered [] input = [] := by
  cases input <;> rfl

theorem entered_taken (hc : s.accept c = some d) :
    entered (s :: rest) (c :: input) = d :: entered rest input := by
  rw [entered]
  simp only [hc]

theorem entered_refused (hc : s.accept c = none) :
    entered (s :: rest) (c :: input) = entered (s :: rest) input := by
  rw [entered]
  simp only [hc]

/-- Where every placeholder takes every character as it is, the text is
    entered as it is, as far as there is room for it. -/
theorem entered_of_accepts {slots : List Slot}
    (h : ∀ s ∈ slots, ∀ c ∈ input, s.accept c = some c) :
    entered slots input = input.take slots.length := by
  induction slots generalizing input with
  | nil => rw [entered_no_slots, List.length_nil, List.take_zero]
  | cons s rest ih =>
    cases input with
    | nil => rw [entered_nil, List.take_nil]
    | cons c input =>
      have hrest := ih fun s' hs' c' hc' =>
        h s' (List.mem_cons_of_mem _ hs') c' (List.mem_cons_of_mem _ hc')
      rw [entered_taken (h s List.mem_cons_self c List.mem_cons_self), hrest, List.length_cons,
        List.take_succ_cons]

end Entered

/-! ## 2. Formatting at once -/

section Formatting

variable {p : Char} {slots : List Slot} {input : Text}

theorem PlainInput.behind_slot {s : Slot} (h : PlainInput p (s :: slots) input) :
    PlainInput p slots input :=
  ⟨h.prompt, fun s' hs' => h.literal s' (List.mem_cons_of_mem _ hs')⟩

theorem PlainInput.behind_char {c : Char} (h : PlainInput p slots (c :: input)) :
    PlainInput p slots input :=
  ⟨fun hp => h.prompt (List.mem_cons_of_mem _ hp),
    fun s hs c' hc' => h.literal s hs c' (List.mem_cons_of_mem _ hc')⟩

/-- **Formatting puts what is entered in its places**: no literal is
    found in the input, and no character jumps. -/
theorem fill_entered (p : Char) (keep : Bool) (h : PlainInput p slots input) :
    fill ⟨some p, true, keep⟩ slots input =
      seat p slots (entered (slots.filter Slot.isPlaceholder) input) := by
  fun_induction fill ⟨some p, true, keep⟩ slots input with
  | case1 input => rfl
  | case2 s rest => rw [entered_nil, seat_nil]
  | case3 s rest c input l hl ih =>
    have hnot : l ∉ c :: input := fun hmem => h.literal s List.mem_cons_self l hmem hl
    rw [pastFirst_of_not_mem hnot] at ih ⊢
    rw [ih h.behind_slot, seat_literal hl,
      List.filter_cons_of_neg (by simp [Slot.isPlaceholder_of_literal? hl])]
  | case4 s rest c input hs d hc ih =>
    rw [ih h.behind_slot.behind_char,
      List.filter_cons_of_pos (Slot.literal?_eq_none_iff.mp hs), entered_taken hc,
      seat_placeholder hs]
    rfl
  | case5 s rest c input hs _ hp _ ih =>
    cases hp
    exact absurd List.mem_cons_self h.prompt
  | case6 s rest c input hs _ _ hk => exact absurd rfl hk
  | case7 s rest c input hs _ _ skipped rest' hj ih =>
    obtain ⟨s', hs', rfl⟩ := eq_of_splitAtLiteral hj
    exact absurd hs' (h.literal s' (by simp) c List.mem_cons_self)
  | case8 s rest c input hs hc _ _ ih =>
    rw [ih h.behind_char, List.filter_cons_of_pos (Slot.literal?_eq_none_iff.mp hs),
      entered_refused hc]

end Formatting

/-! ## 3. Typing key by key -/

section Typing

variable {m : Mask} {p : Char} {keep : Bool} {s : Slot} {values : Text}

/-- **A key that the next free placeholder takes is entered there**, if the
    display holds the values in front of it. -/
theorem insertChar_of_holds {display : Text} {c d : Char} (hm : m.isEmpty = false)
    (h : Holds p m.slots display values)
    (hs : (m.slots.filter Slot.isPlaceholder)[values.length]? = some s)
    (hc : s.accept c = some d) :
    m.insertChar ⟨some p, true, keep⟩ display (placeholderAt values.length m.slots) 0 c =
      ⟨Text.trimEnd (seat p m.slots (values ++ [d])),
        placeholderAt (values.length + 1) m.slots, .accepted⟩ := by
  have hlt := (List.getElem?_eq_some_iff.mp hs).1
  have hl : s.literal? = none := Slot.literal?_eq_none_iff.mpr
    (List.mem_filter.mp (List.mem_of_getElem? hs)).2
  rw [← getElem?_placeholderAt] at hs
  have hi : placeholderAt values.length m.slots < m.length :=
    (List.getElem?_eq_some_iff.mp hs).1
  rw [Mask.insertChar_taken _ _ _ 0 c hm hs hl hc, m.nextEditable_succ hlt,
    Mask.insertStop_zero hi, Mask.overwritten_one, padded_of_holds h, seat_concat p hlt]

/-- **A key typed behind the values entered so far** is refused and
    changes nothing, or it is entered behind them. -/
theorem insertChar_seat_cases (keep : Bool) (hm : m.isEmpty = false)
    (hp : Text.isBlank p = false) (values : Text) (c : Char) :
    let free := (m.slots.filter Slot.isPlaceholder).drop values.length
    let out := m.insertChar ⟨some p, true, keep⟩ (Text.trimEnd (seat p m.slots values))
      (placeholderAt values.length m.slots) 0 c
    (out = ⟨Text.trimEnd (seat p m.slots values), placeholderAt values.length m.slots,
        .rejected⟩ ∧ ∀ input, entered free (c :: input) = entered free input) ∨
    ∃ d, out = ⟨Text.trimEnd (seat p m.slots (values ++ [d])),
        placeholderAt (values ++ [d]).length m.slots, .accepted⟩ ∧
      ∀ input, entered free (c :: input) =
        d :: entered ((m.slots.filter Slot.isPlaceholder).drop (values ++ [d]).length) input := by
  intro free out
  cases hs : (m.slots.filter Slot.isPlaceholder)[values.length]? with
  | none =>
    -- all placeholders are filled, and the caret is at the end of the mask
    left
    have hfree : free = [] := List.drop_eq_nil_of_le (List.getElem?_eq_none_iff.mp hs)
    rw [← getElem?_placeholderAt] at hs
    have hend : m.length = placeholderAt values.length m.slots :=
      Nat.le_antisymm (List.getElem?_eq_none_iff.mp hs) (placeholderAt_le_length _ _)
    refine ⟨?_, fun input => by rw [hfree, entered_no_slots, entered_no_slots]⟩
    rw [← hend]
    exact Mask.insertChar_behind _ _ _ 0 c hm (Nat.le_of_eq hend)
  | some s =>
    obtain ⟨hlt, hget⟩ := List.getElem?_eq_some_iff.mp hs
    have hfree : free = s :: (m.slots.filter Slot.isPlaceholder).drop (values.length + 1) := by
      rw [← hget]
      exact List.drop_eq_getElem_cons hlt
    rw [hfree]
    cases hc : s.accept c with
    | none =>
      have hl : s.literal? = none := Slot.literal?_eq_none_iff.mpr
        (List.mem_filter.mp (List.mem_of_getElem? hs)).2
      rw [← getElem?_placeholderAt] at hs
      exact .inl ⟨Mask.insertChar_refused _ _ _ 0 c hm hs hl hc, fun _ => entered_refused hc⟩
    | some d =>
      refine .inr ⟨d, ?_, fun _ => ?_⟩
      · rw [List.length_append]
        exact insertChar_of_holds hm (holds_trimEnd_of_free hp hlt) hs hc
      · rw [List.length_append]
        exact entered_taken hc

/-- **Typing keeps the values in their places**: what is typed behind the
    values entered so far is entered behind them. -/
theorem typeEach_seat (keep : Bool) (hm : m.isEmpty = false) (hp : Text.isBlank p = false)
    (values input : Text) :
    let new := entered ((m.slots.filter Slot.isPlaceholder).drop values.length) input
    let typed := m.typeEach ⟨some p, true, keep⟩ (Text.trimEnd (seat p m.slots values))
      (placeholderAt values.length m.slots) input
    typed.text = Text.trimEnd (seat p m.slots (values ++ new)) ∧
    typed.caret = placeholderAt (values ++ new).length m.slots ∧
    typed.statuses.count .accepted = new.length ∧
    ∀ status ∈ typed.statuses, status = .accepted ∨ status = .rejected := by
  induction input generalizing values with
  | nil => simp [Mask.typeEach]
  | cons c input ih =>
    simp only [Mask.typeEach]
    rcases insertChar_seat_cases keep hm hp values c with ⟨hout, hnew⟩ | ⟨d, hout, hnew⟩
    · rw [hout, hnew]
      obtain ⟨htext, hcaret, hcount, hall⟩ := ih values
      refine ⟨htext, hcaret, ?_, ?_⟩
      · rw [List.count_cons_of_ne (by simp), hcount]
      · rw [List.forall_mem_cons]
        exact ⟨.inr rfl, hall⟩
    · rw [hout, hnew]
      obtain ⟨htext, hcaret, hcount, hall⟩ := ih (values ++ [d])
      rw [List.append_assoc] at htext hcaret
      refine ⟨htext, hcaret, ?_, ?_⟩
      · rw [List.count_cons_self, hcount]
        rfl
      · rw [List.forall_mem_cons]
        exact ⟨.inl rfl, hall⟩

/-- **Typing a text shows what formatting it shows.** Let the prompt be no
    blank, and let the text have neither the prompt nor a literal of the
    mask. Typed character by character from the blank display on, every
    character is taken or refused, the display becomes the formatted
    text, and the caret stands on the placeholder whose number is the
    count of characters taken. -/
theorem typeEach_format (m : Mask) (hm : m.isEmpty = false) (p : Char)
    (hp : Text.isBlank p = false) (keep : Bool) (input : Text)
    (h : PlainInput p m.slots input) :
    let o : Options := ⟨some p, true, keep⟩
    let typed := m.typeEach o (m.format o []) (m.nextEditable 0) input
    (∀ status ∈ typed.statuses, status = .accepted ∨ status = .rejected) ∧
    typed.text = m.format o input ∧
    typed.caret = placeholderAt (typed.statuses.count .accepted) m.slots := by
  intro o typed
  have hstart : m.format o [] = Text.trimEnd (seat p m.slots []) := by
    rw [m.format_eq hm, fill_nil, seat_nil]
  obtain ⟨htext, hcaret, hcount, hall⟩ := typeEach_seat keep hm hp [] input
  have htyped : typed = m.typeEach o (Text.trimEnd (seat p m.slots []))
      (placeholderAt 0 m.slots) input := by
    rw [← hstart, ← m.nextEditable_zero]
  rw [List.nil_append, List.length_nil, List.drop_zero] at htext hcaret
  rw [htyped]
  refine ⟨hall, ?_, ?_⟩
  · rw [m.format_eq hm, fill_entered p keep h]
    exact htext
  · exact hcaret.trans (congrArg (placeholderAt · m.slots) hcount.symm)

/-- A number plate typed with slips: the digit in front and the letter
    behind are refused. -/
theorem typeEach_format_plate :
    let m := Mask.compile ">L-0".toList
    let o : Options := ⟨some '_', true, false⟩
    let typed := m.typeEach o (m.format o []) (m.nextEditable 0) "7b5c".toList
    (m.isEmpty = false ∧ Text.isBlank '_' = false ∧ PlainInput '_' m.slots "7b5c".toList) ∧
    typed.statuses = [.rejected, .accepted, .accepted, .rejected] ∧
    m.format o "7b5c".toList = "B-5".toList ∧ typed.caret = placeholderAt 2 m.slots := by
  intro m o typed
  have hm : m.isEmpty = false := by decide
  have hp : Text.isBlank '_' = false := by decide
  have h : PlainInput '_' m.slots "7b5c".toList := by decide
  have hblank : m.format o [] = "_-_".toList := by
    rw [m.format_eq hm, fill_nil]
    decide
  have htyped : typed =
      ⟨"B-5".toList, 3, [.rejected, .accepted, .accepted, .rejected]⟩ := by
    show m.typeEach o (m.format o []) (m.nextEditable 0) "7b5c".toList = _
    rw [hblank]
    decide
  obtain ⟨-, htext, hcaret⟩ := typeEach_format m hm '_' hp false "7b5c".toList h
  change typed.text = _ at htext
  change typed.caret = placeholderAt (typed.statuses.count .accepted) _ at hcaret
  rw [htyped] at htext hcaret
  exact ⟨⟨hm, hp, h⟩, by rw [htyped], htext.symm, by rw [htyped]; exact hcaret⟩

end Typing

end InputMask
