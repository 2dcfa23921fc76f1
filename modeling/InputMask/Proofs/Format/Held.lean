/-
  File:      InputMask/Proofs/Format/Held.lean
  Subject:   Which part of a display holds which values.

  Values in the first placeholders of a row need not be shown by the whole
  row: a display ends where the blanks at its end begin.

  * `Holds` -- a front of the row that shows the values and reaches
    behind the last of them;
  * `padded_of_holds` -- padding such a front gives the whole row back;
  * `unmaskRange_of_holds` -- between two slots it holds the values whose
    placeholders stand there;
  * `valuesOutside` -- the values whose placeholders stand elsewhere, told
    by their positions;
  * `map_filter_zipIdx`, `map_filter_zipIdx_within` -- items told by their
    numbers are pieces of a text.
-/
import InputMask.Proofs.Caret.Position
import InputMask.Proofs.Format.ValueRoundTrip
namespace InputMask

open InputMask.Field (placeholderAt placeholderAt_literal placeholderAt_zero placeholderAt_succ)

/-! ## 1. Rows that show values -/

section Seats

variable {p : Char} {slots : List Slot} {values : Text}

theorem length_seat (p : Char) (slots : List Slot) (values : Text) :
    (seat p slots values).length = slots.length := by
  induction slots generalizing values with
  | nil => rfl
  | cons s rest ih =>
    cases hl : s.literal? with
    | some l => rw [seat_literal hl, List.length_cons, List.length_cons, ih]
    | none => rw [seat_placeholder hl, List.length_cons, List.length_cons, ih]

/-- Behind the last value the row is blank. -/
theorem drop_seat (p : Char) {slots : List Slot} {i : Nat}
    (h : values.length ≤ placeholdersBefore slots i) :
    (seat p slots values).drop i = blanks (some p) (slots.drop i) := by
  induction slots generalizing values i with
  | nil => simp [seat, blanks]
  | cons s rest ih =>
    cases i with
    | zero =>
      obtain rfl : values = [] := List.eq_nil_of_length_eq_zero (Nat.le_zero.mp h)
      exact seat_nil p _
    | succ i =>
      cases hl : s.literal? with
      | some l =>
        rw [placeholdersBefore_literal (Slot.isPlaceholder_of_literal? hl)] at h
        rw [seat_literal hl, List.drop_succ_cons, List.drop_succ_cons, ih h]
      | none =>
        rw [placeholdersBefore_placeholder (Slot.literal?_eq_none_iff.mp hl)] at h
        have h : values.tail.length ≤ placeholdersBefore rest i := by
          rw [List.length_tail]
          omega
        rw [seat_placeholder hl, List.drop_succ_cons, List.drop_succ_cons, ih h]

/-- Each placeholder shows its value, or the prompt behind the last one. -/
theorem getElem?_seat (p : Char) {slots : List Slot} {n : Nat}
    (h : n < (slots.filter Slot.isPlaceholder).length) (values : Text) :
    (seat p slots values)[placeholderAt n slots]? = some (values[n]?.getD p) := by
  induction slots generalizing n values with
  | nil => exact absurd h (Nat.not_lt_zero n)
  | cons s rest ih =>
    cases hl : s.literal? with
    | some l =>
      have hs := Slot.isPlaceholder_of_literal? hl
      rw [List.filter_cons_of_neg (by simp [hs])] at h
      rw [seat_literal hl, placeholderAt_literal hs, List.getElem?_cons_succ, ih h]
    | none =>
      have hs := Slot.literal?_eq_none_iff.mp hl
      rw [List.filter_cons_of_pos hs, List.length_cons] at h
      rw [seat_placeholder hl]
      cases n with
      | zero =>
        rw [placeholderAt_zero hs]
        cases values <;> rfl
      | succ n =>
        rw [placeholderAt_succ hs, List.getElem?_cons_succ, ih (Nat.lt_of_succ_lt_succ h)]
        cases values <;> rfl

/-- One more value goes to the next placeholder. -/
theorem seat_concat (p : Char) {slots : List Slot} {values : Text}
    (h : values.length < (slots.filter Slot.isPlaceholder).length) (d : Char) :
    seat p slots (values ++ [d]) =
      (seat p slots values).take (placeholderAt values.length slots) ++
        d :: (seat p slots values).drop (placeholderAt values.length slots + 1) := by
  induction slots generalizing values with
  | nil => exact absurd h (Nat.not_lt_zero _)
  | cons s rest ih =>
    cases hl : s.literal? with
    | some l =>
      have hs := Slot.isPlaceholder_of_literal? hl
      rw [List.filter_cons_of_neg (by simp [hs])] at h
      rw [seat_literal hl, seat_literal hl, placeholderAt_literal hs, List.drop_succ_cons,
        List.take_succ_cons, ih h, List.cons_append]
    | none =>
      have hs := Slot.literal?_eq_none_iff.mp hl
      rw [List.filter_cons_of_pos hs, List.length_cons] at h
      cases values with
      | nil =>
        rw [List.length_nil, placeholderAt_zero hs, seat_placeholder hl, seat_placeholder hl]
        rfl
      | cons v values =>
        rw [List.cons_append, seat_placeholder hl, seat_placeholder hl, List.length_cons,
          placeholderAt_succ hs, List.drop_succ_cons, List.take_succ_cons, List.tail_cons,
          List.tail_cons, ih (Nat.lt_of_succ_lt_succ h), List.cons_append]
        rfl

/-- The front of a row holds the values whose placeholders stand there. -/
theorem kept_take_seat {raw : Text} (h : Takes slots raw values) (hp : p ∉ values) (i : Nat) :
    Options.kept ⟨some p, false, false⟩ ((seat p slots values).take i) slots =
      values.take (placeholdersBefore slots i) := by
  induction h generalizing i with
  | done slots =>
    have hfront := Options.kept_append ⟨some p, false, false⟩
      ((blanks (some p) slots).take i) ((blanks (some p) slots).drop i) slots
    rw [List.take_append_drop, kept_blanks] at hfront
    rw [seat_nil, List.take_nil]
    exact (List.append_eq_nil_iff.mp hfront.symm).1
  | @literal s rest l raw values hl _ _ ih =>
    cases i with
    | zero => simp
    | succ i =>
      rw [seat_literal hl, List.take_succ_cons,
        Options.kept_cons_of_not (Options.keeps_literal hl _ _ l), ih hp,
        placeholdersBefore_literal (Slot.isPlaceholder_of_literal? hl)]
  | @taken s rest c d raw values hs hc _ ih =>
    rw [List.mem_cons, not_or] at hp
    cases i with
    | zero => simp
    | succ i =>
      have hkeep := Options.keeps_taken hs (Slot.accept_of_accept hc) (Ne.symm hp.1) false false
      rw [seat_placeholder hs, List.headD_cons, List.tail_cons, List.take_succ_cons,
        Options.kept_cons_of_keeps hkeep, ih hp.2,
        placeholdersBefore_placeholder (Slot.literal?_eq_none_iff.mp hs), List.take_succ_cons]

end Seats

/-! ## 2. Displays that hold values -/

/-- **A display that holds values**: the front of the row that shows them,
    reaching behind the placeholder of the last one. -/
structure Holds (p : Char) (slots : List Slot) (display values : Text) : Prop where
  front : display <+: seat p slots values
  all : values.length ≤ placeholdersBefore slots display.length

section Holds

variable {p : Char} {slots : List Slot} {m : Mask} {display values : Text}

theorem Holds.length_le (h : Holds p slots display values) : display.length ≤ slots.length := by
  rw [← length_seat p slots values]
  exact h.front.length_le

/-- There is a placeholder for every value. -/
theorem Holds.room (h : Holds p slots display values) :
    values.length ≤ (slots.filter Slot.isPlaceholder).length :=
  Nat.le_trans h.all (placeholdersBefore_le slots _)

/-- **Trimming does not reach a placeholder** that shows something other
    than a blank. -/
theorem lt_placeholdersBefore_trimEnd {n : Nat}
    (hn : n < (slots.filter Slot.isPlaceholder).length)
    (hc : Text.isBlank (values[n]?.getD p) = false) :
    n < placeholdersBefore slots (Text.trimEnd (seat p slots values)).length := by
  have hget := Text.getElem?_trimEnd (getElem?_seat p hn values) hc
  obtain ⟨hlt, -⟩ := List.getElem?_eq_some_iff.mp hget
  have hle := (Text.trimEnd_isPrefix (seat p slots values)).length_le
  rw [length_seat] at hle
  exact (placeholderAt_lt_iff hle).mp hlt

/-- What stands in front of a value that is not blank is not trimmed off. -/
theorem length_le_placeholdersBefore_trimEnd (p : Char) (more : Text)
    (hroom : values.length ≤ (slots.filter Slot.isPlaceholder).length)
    (hlast : values.getLast?.any Text.isBlank = false) :
    values.length ≤
      placeholdersBefore slots (Text.trimEnd (seat p slots (values ++ more))).length := by
  rcases List.eq_nil_or_concat values with rfl | ⟨front, d, rfl⟩
  · exact Nat.zero_le _
  · rw [List.concat_eq_append] at hroom hlast ⊢
    rw [List.length_append, List.length_singleton] at hroom ⊢
    have hd : Text.isBlank d = false := by simpa using hlast
    refine lt_placeholdersBefore_trimEnd hroom ?_
    rw [List.append_assoc, List.singleton_append, List.getElem?_append_right (Nat.le_refl _),
      Nat.sub_self]
    exact hd

/-- **Values of which the last is not blank are held** by the trimmed row. -/
theorem holds_trimEnd (p : Char)
    (hroom : values.length ≤ (slots.filter Slot.isPlaceholder).length)
    (hlast : values.getLast?.any Text.isBlank = false) :
    Holds p slots (Text.trimEnd (seat p slots values)) values where
  front := Text.trimEnd_isPrefix _
  all := by
    have hall := length_le_placeholdersBefore_trimEnd p [] hroom hlast
    rwa [List.append_nil] at hall

/-- **While a placeholder is free the values are held** by the trimmed row,
    if the prompt is not blank: the trim stops at its prompt. -/
theorem holds_trimEnd_of_free (hp : Text.isBlank p = false)
    (hfree : values.length < (slots.filter Slot.isPlaceholder).length) :
    Holds p slots (Text.trimEnd (seat p slots values)) values where
  front := Text.trimEnd_isPrefix _
  all := by
    refine Nat.le_of_lt (lt_placeholdersBefore_trimEnd hfree ?_)
    rw [List.getElem?_eq_none (Nat.le_refl _)]
    exact hp

/-- A text that fills the mask is held by its display. -/
theorem Engine.holds_focusText (e : Engine) (hm : e.mask.isEmpty = false) {v : Text}
    (hv : Takes e.mask.slots v v)
    (hroom : v.length ≤ (e.mask.slots.filter Slot.isPlaceholder).length)
    (hlast : v.getLast?.any Text.isBlank = false) :
    Holds e.config.prompt e.mask.slots (e.focusText v) v := by
  have hshown : e.focusText v = Text.trimEnd (seat e.config.prompt e.mask.slots v) :=
    (e.mask.format_eq hm _ v).trans (congrArg Text.trimEnd (fill_of_takes _ _ hv))
  rw [hshown]
  exact holds_trimEnd _ hroom hlast

/-- **Padding gives the whole row back.** -/
theorem padded_of_holds (h : Holds p m.slots display values) :
    m.padded (some p) display = seat p m.slots values := by
  obtain ⟨back, hback⟩ := h.front
  have hdrop := drop_seat p h.all
  rw [← hback, List.drop_left] at hdrop
  rw [m.padded_some p h.length_le, ← hdrop, hback]

/-- **Between two slots a display holds the values whose placeholders stand
    there.** -/
theorem unmaskRange_of_holds {raw : Text} (ht : Takes m.slots raw values) (hp : p ∉ values)
    (h : Holds p m.slots display values) {first stop : Nat} (hle : first ≤ stop) :
    m.unmaskRange ⟨some p, false, false⟩ display first stop =
      (values.take (placeholdersBefore m.slots stop)).drop (placeholdersBefore m.slots first) := by
  -- the part up to a slot first; the part between two is what the longer one has more
  have hfront : ∀ i, m.unmaskRange ⟨some p, false, false⟩ display 0 i =
      values.take (placeholdersBefore m.slots i) := by
    intro i
    have hdisplay : display.take i = (seat p m.slots values).take (min i display.length) :=
      (congrArg (List.take i) (List.prefix_iff_eq_take.mp h.front)).trans List.take_take
    rw [m.unmaskRange_zero, hdisplay, kept_take_seat ht hp]
    rcases Nat.le_total i display.length with hi | hi
    · rw [Nat.min_eq_left hi]
    · have hi := Nat.le_trans h.all (placeholdersBefore_mono m.slots hi)
      rw [Nat.min_eq_right ‹_›, List.take_of_length_le h.all, List.take_of_length_le hi]
  have hsplit := m.unmaskRange_append ⟨some p, false, false⟩ display (Nat.zero_le first) hle
  rw [hfront, hfront] at hsplit
  have hmono := placeholdersBefore_mono m.slots hle
  have htake : values.take (placeholdersBefore m.slots first) =
      (values.take (placeholdersBefore m.slots stop)).take (placeholdersBefore m.slots first) := by
    rw [List.take_take, Nat.min_eq_left hmono]
  rw [htake] at hsplit
  exact List.append_cancel_left (hsplit.trans (List.take_append_drop _ _).symm)

/-- What the range in front of a slot holds. -/
theorem unmaskRange_front {raw : Text} (ht : Takes m.slots raw values) (hp : p ∉ values)
    (h : Holds p m.slots display values) (stop : Nat) :
    m.unmaskRange ⟨some p, false, false⟩ display 0 stop =
      values.take (placeholdersBefore m.slots stop) :=
  unmaskRange_of_holds ht hp h (Nat.zero_le stop)

/-- What the range behind a slot holds. -/
theorem unmaskRange_back {raw : Text} (ht : Takes m.slots raw values) (hp : p ∉ values)
    (h : Holds p m.slots display values) {first : Nat} (hle : first ≤ m.length) :
    m.unmaskRange ⟨some p, false, false⟩ display first m.length =
      values.drop (placeholdersBefore m.slots first) := by
  have hend : m.slots.length ≤ m.length := Nat.le_refl _
  rw [unmaskRange_of_holds ht hp h hle, placeholdersBefore_of_length_le hend,
    List.take_of_length_le h.room]

end Holds

/-! ## 3. Values told by their positions -/

/-- The values of a row whose placeholders do not stand in the range from
    `first` up to but not including `stop`. -/
def valuesOutside (slots : List Slot) (first stop : Nat) (values : Text) : Text :=
  (values.zipIdx.filter fun x =>
    let position := placeholderAt x.2 slots
    position < first || stop ≤ position).map Prod.fst

/-- Items numbered from `k` on, without those numbered from `a` up to but
    not including `b`. -/
theorem map_filter_zipIdx (values : Text) {a b : Nat} (hab : a ≤ b) (k : Nat) :
    ((values.zipIdx k).filter fun x => x.2 < a || b ≤ x.2).map Prod.fst =
      values.take (a - k) ++ values.drop (b - k) := by
  induction values generalizing k with
  | nil => simp
  | cons v values ih =>
    have ih := ih (k + 1)
    rw [List.zipIdx_cons]
    by_cases ha : k < a
    · have hk : a - k = a - (k + 1) + 1 ∧ b - k = b - (k + 1) + 1 := by omega
      rw [List.filter_cons_of_pos (by simp [ha]), List.map_cons, ih, hk.1, hk.2,
        List.take_succ_cons, List.drop_succ_cons, List.cons_append]
    · have ha0 : a - k = 0 ∧ a - (k + 1) = 0 := by omega
      rw [ha0.2, List.take_zero, List.nil_append] at ih
      rw [ha0.1, List.take_zero, List.nil_append]
      by_cases hb : b ≤ k
      · have hb0 : b - k = 0 ∧ b - (k + 1) = 0 := by omega
        rw [hb0.2, List.drop_zero] at ih
        rw [List.filter_cons_of_pos (by simp [hb]), List.map_cons, ih, hb0.1, List.drop_zero]
      · have hk : b - k = b - (k + 1) + 1 := by omega
        rw [List.filter_cons_of_neg (by simp [ha, hb]), ih, hk, List.drop_succ_cons]

/-- The items that are numbered so. -/
theorem map_filter_zipIdx_within (values : Text) (a b k : Nat) :
    ((values.zipIdx k).filter fun x => a ≤ x.2 && x.2 < b).map Prod.fst =
      (values.take (b - k)).drop (a - k) := by
  induction values generalizing k with
  | nil => simp
  | cons v values ih =>
    have ih := ih (k + 1)
    rw [List.zipIdx_cons]
    by_cases hb : k < b
    · have hk : b - k = b - (k + 1) + 1 := by omega
      rw [hk, List.take_succ_cons]
      by_cases ha : a ≤ k
      · have ha0 : a - k = 0 ∧ a - (k + 1) = 0 := by omega
        rw [ha0.2, List.drop_zero] at ih
        rw [List.filter_cons_of_pos (by simp [ha, hb]), List.map_cons, ih, ha0.1, List.drop_zero]
      · have hk : a - k = a - (k + 1) + 1 := by omega
        rw [List.filter_cons_of_neg (by simp [ha]), ih, hk, List.drop_succ_cons]
    · have hb0 : b - k = 0 ∧ b - (k + 1) = 0 := by omega
      rw [hb0.2, List.take_zero, List.drop_nil] at ih
      rw [List.filter_cons_of_neg (by simp [hb]), ih, hb0.1, List.take_zero, List.drop_nil]

/-- **Values are left out in one piece.** -/
theorem valuesOutside_eq {slots : List Slot} {first stop : Nat} (hle : first ≤ stop)
    (hstop : stop ≤ slots.length) (values : Text) :
    valuesOutside slots first stop values =
      values.take (placeholdersBefore slots first) ++
        values.drop (placeholdersBefore slots stop) := by
  have hposition : ∀ n, (decide (placeholderAt n slots < first) || stop ≤ placeholderAt n slots) =
      (decide (n < placeholdersBefore slots first) || placeholdersBefore slots stop ≤ n) := by
    intro n
    have hfirst : placeholderAt n slots < first ↔ n < placeholdersBefore slots first :=
      placeholderAt_lt_iff (Nat.le_trans hle hstop)
    have hback : stop ≤ placeholderAt n slots ↔ placeholdersBefore slots stop ≤ n := by
      rw [← Nat.not_lt, placeholderAt_lt_iff hstop, Nat.not_lt]
    rw [decide_eq_decide.mpr hfirst, decide_eq_decide.mpr hback]
  have hall := map_filter_zipIdx values (placeholdersBefore_mono slots hle) 0
  unfold valuesOutside
  simp only [hposition]
  exact hall

end InputMask
