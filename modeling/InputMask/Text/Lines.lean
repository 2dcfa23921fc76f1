/-
  File:      InputMask/Text/Lines.lean
  Subject:   Texts and their lines.

  A line ends at a line feed, and a carriage return directly before it
  belongs to the line's end. What stands behind the last line feed is a
  line if it is anything at all.
-/
import InputMask.Text.Blank
namespace InputMask.Text

/-- A line without the carriage return at its end. -/
def dropReturn (line : Text) : Text :=
  if line.getLast? = some '\r' then line.dropLast else line

/-- The lines of a text; `line` stands in front of it, in its first
    line. -/
def linesFrom (line : Text) : Text → List Text
  | [] => if line = [] then [] else [line]
  | c :: t => if c = '\n' then dropReturn line :: linesFrom [] t else linesFrom (line ++ [c]) t

/-- The lines of a text. -/
def lines (t : Text) : List Text := linesFrom [] t

/-- Lines in one text, each ended by a line feed. -/
def unlines (ls : List Text) : Text := ls.flatMap fun l => l ++ ['\n']

/-- Lines in one text, with a line feed between two. -/
def joinLines (ls : List Text) : Text := ['\n'].intercalate ls

/-- Reading the lines behind a line that ends here. -/
theorem linesFrom_append_break {line l t : Text} (h : '\n' ∉ l) :
    linesFrom line (l ++ '\n' :: t) = dropReturn (line ++ l) :: linesFrom [] t := by
  induction l generalizing line with
  | nil => simp [linesFrom]
  | cons c l ih =>
    have hc : c ≠ '\n' := fun e => h (by simp [e])
    have hl : '\n' ∉ l := fun m => h (List.mem_cons_of_mem _ m)
    simp [linesFrom, hc, ih hl]

/-- Lines without line feeds that end in no carriage return are read
    as they were written. -/
theorem lines_unlines {ls : List Text}
    (h : ∀ l ∈ ls, '\n' ∉ l ∧ l.getLast? ≠ some '\r') : lines (unlines ls) = ls := by
  induction ls with
  | nil => rfl
  | cons l ls ih =>
    obtain ⟨h1, h2⟩ := h l List.mem_cons_self
    have ih := ih fun k hk => h k (List.mem_cons_of_mem _ hk)
    unfold lines unlines at ih ⊢
    simp [linesFrom_append_break h1, dropReturn, h2, ih]

theorem mem_of_mem_dropReturn {c : Char} {line : Text} (h : c ∈ dropReturn line) : c ∈ line := by
  unfold dropReturn at h
  split at h
  · exact (List.dropLast_sublist line).subset h
  · exact h

theorem not_mem_of_mem_linesFrom {line t : Text} (h : '\n' ∉ line) :
    ∀ l ∈ linesFrom line t, '\n' ∉ l := by
  fun_induction linesFrom line t with
  | case1 => exact fun l hl => absurd hl List.not_mem_nil
  | case2 line => exact List.forall_mem_singleton.mpr h
  | case3 line t ih =>
    exact List.forall_mem_cons.mpr
      ⟨fun hmem => h (mem_of_mem_dropReturn hmem), ih List.not_mem_nil⟩
  | case4 line c t hc ih =>
    refine ih fun hmem => ?_
    rcases List.mem_append.mp hmem with hmem | hmem
    · exact h hmem
    · exact hc (List.mem_singleton.mp hmem).symm

/-- No line of a text holds a line feed. -/
theorem not_mem_of_mem_lines {t l : Text} (h : l ∈ lines t) : '\n' ∉ l :=
  not_mem_of_mem_linesFrom List.not_mem_nil l h

end InputMask.Text
