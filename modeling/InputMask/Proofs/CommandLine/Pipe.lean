/-
  File:      InputMask/Proofs/CommandLine/Pipe.lean
  Subject:   Lines that are formatted, written, read and unmasked again.

  * `Record` -- a line whose characters take the first placeholders as they
    are and can be told apart from everything else that is shown;
  * `Record.unmask_format` -- a record is read back from its display;
  * `Record.isLine_format` -- its display is one line when it is written;
  * `run_inlineArgs` -- what the two commands do with their standard input;
  * **`run_unmask_format`** -- so the second, fed with the output of the
    first, prints the records.
-/
import InputMask.Proofs.Caret.Typing
import InputMask.Proofs.CommandLine.Effect
import InputMask.Proofs.Format.ReadBack
namespace InputMask

/-! ## 1. Records -/

/-- **A line that is a record.** The `j`-th placeholder takes the `j`-th
    character as it is; none is the prompt or a literal of the row; and the
    last one is not blank. -/
structure Record (p : Char) (slots : List Slot) (line : Text) : Prop
    extends PlainInput p slots line where
  room : line.length ≤ (slots.filter Slot.isPlaceholder).length
  taken : List.zipWith Slot.accept (slots.filter Slot.isPlaceholder) line = line.map some
  closed : line.getLast?.any Text.isBlank = false

instance (p : Char) (slots : List Slot) (line : Text) : Decidable (Record p slots line) :=
  decidable_of_iff
    (PlainInput p slots line ∧ line.length ≤ (slots.filter Slot.isPlaceholder).length ∧
      List.zipWith Slot.accept (slots.filter Slot.isPlaceholder) line = line.map some ∧
      line.getLast?.any Text.isBlank = false)
    ⟨fun ⟨hp, hr, ht, hc⟩ => ⟨hp, hr, ht, hc⟩,
      fun h => ⟨h.toPlainInput, h.room, h.taken, h.closed⟩⟩

/-- What is read back as one line once it is written as one. -/
def IsLine (t : Text) : Prop := '\n' ∉ t ∧ t.getLast? ≠ some '\r'

namespace Record

variable {p : Char} {slots : List Slot} {line : Text} {m : Mask}

theorem takes (h : Record p slots line) : Takes slots line line :=
  LeftFilled.takes
    { room := h.room
      taken := h.taken
      fresh := fun j hj s hs => by
        rw [List.getElem?_eq_getElem hj]
        exact h.literal s (List.mem_of_mem_take hs) _ (List.getElem_mem hj) }

theorem eq_nil_of_no_slots (h : Record p [] line) : line = [] :=
  List.eq_nil_of_length_eq_zero (Nat.le_zero.mp h.room)

/-- **A record is read back from its display.** -/
theorem unmask_format (h : Record p m.slots line) :
    m.unmask ⟨some p, false, false⟩ (m.format ⟨some p, true, false⟩ line) = line := by
  cases hm : m.isEmpty with
  | true => simp only [Mask.format, Mask.unmask, hm, if_true]
  | false => rw [unmask_format_of_takes m hm false h.takes h.prompt, Text.trimEnd_eq_self h.closed]

/-- **The display of a record is one line**, if mask and prompt have no line
    feed: what is shown is a value, the prompt or a literal, and a carriage
    return at the end would have been trimmed. -/
theorem isLine_format (h : Record p m.slots line) (hline : '\n' ∉ line) (hp : '\n' ≠ p)
    (hm : ∀ s ∈ m.slots, s.literal? ≠ some '\n') :
    IsLine (m.format ⟨some p, true, false⟩ line) := by
  cases hempty : m.isEmpty with
  | true =>
    obtain rfl : line = [] := by
      rw [Mask.isEmpty, List.isEmpty_iff] at hempty
      exact eq_nil_of_no_slots (hempty ▸ h)
    rw [Mask.format, hempty]
    exact ⟨List.not_mem_nil, nofun⟩
  | false =>
    rw [m.format_eq hempty, fill_of_takes p false h.takes]
    constructor
    · intro hmem
      rcases mem_seat ((Text.trimEnd_isPrefix _).subset hmem) with hc | hc | ⟨s, hs, hc⟩
      · exact hp hc
      · exact hline hc
      · exact hm s hs hc
    · intro hlast
      have hblank := Text.getLast?_trimEnd (seat p m.slots line)
      rw [hlast] at hblank
      exact absurd hblank (by decide)

end Record

/-! ## 2. Arguments -/

namespace Direction

open CommandLine

/-- The command that converts a way. -/
def command (job : LineJob) : Direction → Command
  | mask => .format job false
  | unmask => .unmask job false false

/-- The name of that command. -/
def name : Direction → Text
  | mask => "format".toList
  | unmask => "unmask".toList

/-- The level that the name opens. -/
def level : Direction → Level
  | mask => .format
  | unmask => .unmask

end Direction

namespace CommandLine

/-- The arguments that choose a mask and perhaps a prompt, and nothing else. -/
def inlineArgs (mask : Text) (prompt : Option Char) : List Text :=
  "-m".toList :: mask :: prompt.elim [] fun p => ["--prompt".toList, [p]]

/-- What is read of them. -/
def inlineFrame (l : Level) (mask : Text) (prompt : Option Char) : Frame :=
  ⟨l, prompt.elim [(.mask, mask)] fun p => [(.prompt, [p]), (.mask, mask)], none⟩

/-- The conversion of the standard input that they ask for. -/
def inlineJob (mask : Text) (prompt : Option Char) : LineJob :=
  ⟨⟨some mask, none, prompt⟩, none, none, false⟩

/-- The configuration that they choose. -/
def inlineConfig (mask : Text) (prompt : Option Char) : Config :=
  { Config.ofMask mask with prompt := prompt.getD defaultPrompt }

/-- A single character never looks like a switch. -/
theorem Shape.of_singleton (c : Char) : Shape.of [c] = .plain := by
  unfold Shape.of
  split
  case h_4 => rfl
  all_goals
    rename_i h
    cases h

namespace Reading

theorem readAll_cons {r r' : Reading} {arg : Text} (h : r.read arg = .ok r')
    (hhelp : ¬(arg = helpCommand ∧ r.escaped = false ∧ r.pending = none ∧
      r.frame.level.commands ≠ [])) (rest : List Text) :
    r.readAll (arg :: rest) = r'.readAll rest := by
  rw [readAll, if_neg hhelp, h]
  rfl

section Inline

variable {outer : List Frame} {mask : Text}

/-- Behind the name of a command no argument asks for help. -/
theorem readAll_cons_of_command {f : Frame} {pending : Option Switch} {r' : Reading} {arg : Text}
    (hf : f.level.commands = []) (h : read ⟨outer, f, pending, false⟩ arg = .ok r')
    (rest : List Text) :
    readAll ⟨outer, f, pending, false⟩ (arg :: rest) = r'.readAll rest :=
  readAll_cons h (fun hhelp => hhelp.2.2.2 hf) rest

/-- A mask is read whatever it looks like. -/
theorem readAll_mask (way : Direction) (rest : List Text) :
    readAll ⟨outer, Frame.start way.level, none, false⟩ ("-m".toList :: mask :: rest) =
      readAll ⟨outer, inlineFrame way.level mask none, none, false⟩ rest := by
  cases way
  all_goals
    rw [readAll_cons_of_command rfl rfl, readAll_cons_of_command rfl rfl]
    rfl

/-- A prompt is read whatever it is. -/
theorem readAll_prompt (way : Direction) (p : Char) :
    readAll ⟨outer, inlineFrame way.level mask none, none, false⟩ ["--prompt".toList, [p]] =
      .ok ⟨outer, inlineFrame way.level mask (some p), none, false⟩ := by
  have hread : read ⟨outer, inlineFrame way.level mask none, some .prompt, false⟩ [p] =
      .ok ⟨outer, inlineFrame way.level mask (some p), none, false⟩ := by
    unfold read Frame.readsSwitch
    dsimp only
    rw [Shape.of_singleton]
    rfl
  cases way
  all_goals
    rw [readAll_cons_of_command rfl rfl, readAll_cons_of_command rfl hread]
    rfl

theorem readAll_inlineArgs (way : Direction) (prompt : Option Char) :
    readAll ⟨outer, Frame.start way.level, none, false⟩ (inlineArgs mask prompt) =
      .ok ⟨outer, inlineFrame way.level mask prompt, none, false⟩ := by
  cases prompt with
  | none => exact readAll_mask way []
  | some p => exact (readAll_mask way _).trans (readAll_prompt way p)

end Inline

end Reading

section Parse

variable {presets : Option Text} {mask : Text} {prompt : Option Char}

/-- Without a switch for it the preset file is the one that the variable
    names, and the variable must then be a path. -/
theorem invocation_inline (hv : presets ≠ some []) (l : Level) (command : Command) :
    invocation presets [inlineFrame l mask prompt, Frame.start .program] command =
      .ok ⟨false, false, presets, command⟩ := by
  rw [invocation, if_neg (fun h => hv h.1)]
  cases prompt <;> rfl

theorem command_inlineFrame (way : Direction) : (inlineFrame way.level mask prompt).command =
    .ok (way.command (inlineJob mask prompt)) := by
  cases way <;> cases prompt <;> rfl

theorem parse_inlineArgs (hv : presets ≠ some []) (way : Direction) :
    parse presets (way.name :: inlineArgs mask prompt) =
      .ok ⟨false, false, presets, way.command (inlineJob mask prompt)⟩ := by
  have hname : Reading.start.read way.name =
      .ok ⟨[Frame.start .program], Frame.start way.level, none, false⟩ := by
    cases way <;> rfl
  have hhelp : way.name ≠ Reading.helpCommand := by cases way <;> decide
  have hread : Reading.start.readAll (way.name :: inlineArgs mask prompt) =
      .ok ⟨[Frame.start .program], inlineFrame way.level mask prompt, none, false⟩ :=
    (Reading.readAll_cons hname (fun h => hhelp h.1) _).trans
      (Reading.readAll_inlineArgs way prompt)
  unfold parse
  exact Result.bind_eq_ok_iff.mpr ⟨_, hread,
    Result.bind_eq_ok_iff.mpr ⟨_, command_inlineFrame way, invocation_inline hv _ _⟩⟩

end Parse

end CommandLine

/-- **Arguments that are read as they are meant**: behind the name of either
    command they ask for the conversion of the standard input, and nothing
    else. -/
def Libraries.ReadsInline (l : Libraries) (presets : Option Text) (mask : Text)
    (prompt : Option Char) : Prop :=
  ∀ way : Direction, l.arguments presets (way.name :: CommandLine.inlineArgs mask prompt) =
    .ok ⟨false, false, presets, way.command (CommandLine.inlineJob mask prompt)⟩

/-- So they are read here, unless the variable for the preset file is empty,
    which is refused. -/
theorem readsInline_standard {presets : Option Text} (hv : presets ≠ some []) (mask : Text)
    (prompt : Option Char) : Libraries.standard.ReadsInline presets mask prompt :=
  fun way => CommandLine.parse_inlineArgs hv way

/-! ## 3. Runs -/

section Runs

variable (l : Libraries) (clipboard : Text → Except Text Unit) (v : Variables) (i : Invocation)
  (mask : Text) (prompt : Option Char) (w : World)

theorem run_printLines (lines : List Text) :
    (writeLines (World.host clipboard).print lines).run w =
      ((), { w with stdout := w.stdout ++ Text.unlines lines }) := by
  induction lines generalizing w with
  | nil =>
    show ((), w) = ((), { w with stdout := w.stdout ++ [] })
    rw [List.append_nil]
  | cons line rest ih =>
    rw [writeLines, StateT.run_bind]
    refine (ih { w with stdout := w.stdout ++ (line ++ ['\n']) }).trans ?_
    rw [List.append_assoc]
    rfl

theorem run_deliver_inline (quiet : Bool) (what copied : String) (lines : List Text) :
    ((CommandLine.inlineJob mask prompt).deliver (World.host clipboard) quiet what copied
        lines).run.run w =
      (.ok (), { w with stdout := w.stdout ++ Text.unlines lines }) := by
  have hwrite : (writeOutput (World.host clipboard) (CommandLine.inlineJob mask prompt).output
      lines).run.run w = (.ok (), { w with stdout := w.stdout ++ Text.unlines lines }) :=
    congrArg (fun r : Unit × World => (Except.ok r.1, r.2)) (run_printLines clipboard w lines)
  unfold LineJob.deliver
  rw [run_bind, hwrite]
  rfl

theorem run_config_inline {mask : Text} (hlength : mask.length ≤ maxMaskLength)
    (prompt : Option Char) :
    (i.config l (World.host clipboard) v (CommandLine.inlineJob mask prompt).choice).run.run w =
      (.ok (CommandLine.inlineConfig mask prompt), w) := by
  have hresolve : (CommandLine.inlineJob mask prompt).choice.resolve (.ok []) =
      .ok (CommandLine.inlineConfig mask prompt) := by
    unfold MaskChoice.resolve MaskChoice.base CommandLine.inlineJob
    simp only [if_neg (Nat.not_lt.mpr hlength)]
    rfl
  have hread : (resolveConfig l (World.host clipboard) v i.presets
      (CommandLine.inlineJob mask prompt).choice).run w =
        ((CommandLine.inlineJob mask prompt).choice.resolve (.ok []), w) := rfl
  unfold Invocation.config
  rw [run_orFail, hread, hresolve]
  rfl

theorem run_readInput_inline {stdin : Text} (hw : w.stdin = .ok stdin) :
    (readInput (World.host clipboard) (CommandLine.inlineJob mask prompt).input).run.run w =
      (.ok stdin, w) := by
  have hread : (readInput (World.host clipboard)
      (CommandLine.inlineJob mask prompt).input).run.run w =
        (w.stdin.mapError (.input none), w) := rfl
  rw [hread, hw]
  rfl

/-- **The standard input converted line by line**: every line is replaced by
    its display or by its value on the standard output, and nothing else is
    done. -/
theorem run_execute_inline {mask : Text} {prompt : Option Char}
    (hlength : mask.length ≤ maxMaskLength) {way : Direction}
    (hc : i.command = way.command (CommandLine.inlineJob mask prompt)) {stdin : Text}
    (hw : w.stdin = .ok stdin) :
    (i.execute l (World.host clipboard) v).run.run w =
      (.ok (), { w with stdout := w.stdout ++ Text.unlines ((Text.lines stdin).map
        (convert (CommandLine.inlineConfig mask prompt) way)) }) := by
  have hconfig := run_config_inline l clipboard v i w hlength prompt
  have hinput := run_readInput_inline clipboard mask prompt w hw
  unfold Invocation.execute
  rw [hc]
  cases way with
  | mask =>
    show (i.format l (World.host clipboard) v (CommandLine.inlineJob mask prompt) false).run.run w
      = _
    unfold Invocation.format
    rw [run_bind, hconfig]
    dsimp only
    rw [run_bind, hinput]
    exact run_deliver_inline clipboard mask prompt w _ _ _ _
  | unmask =>
    show (i.unmask l (World.host clipboard) v (CommandLine.inlineJob mask prompt) false
      false).run.run w = _
    unfold Invocation.unmask
    rw [run_bind, hconfig]
    dsimp only
    rw [run_bind, hinput]
    exact run_deliver_inline clipboard mask prompt w _ _ _ _

end Runs

namespace CommandLine

theorem runWith_inlineArgs {l : Libraries} {v : Variables} {mask : Text} {prompt : Option Char}
    (hread : l.ReadsInline v.presets mask prompt) (hlength : mask.length ≤ maxMaskLength)
    (clipboard : Text → Except Text Unit) (way : Direction) (stdin : Text) (d : Disk) :
    runWith l clipboard v (way.name :: inlineArgs mask prompt) (.ok stdin) d =
      (⟨0, Text.unlines ((Text.lines stdin).map (convert (inlineConfig mask prompt) way)), []⟩,
        d) := by
  rw [runWith_of_arguments (hread way), Invocation.run_perform,
    run_execute_inline l clipboard v _ _ hlength rfl rfl]
  rfl

/-- **Formatting and unmasking again changes no record.** Every line of the
    standard input is a record, and neither mask nor prompt has a line feed.
    Then `format` succeeds, and `unmask` with the same mask and prompt, fed
    with its output, prints the lines in order, each ended by a line feed,
    and nothing else. The mask is within the limit, and the variable for
    the preset file is not an empty one, which is refused. This is so with
    all libraries that read these arguments as they are meant, as those here
    do. -/
theorem run_unmask_format (v : Variables) (mask : Text) (prompt : Option Char) (stdin : Text)
    (d d' : Disk) (hv : v.presets ≠ some []) (hlength : mask.length ≤ maxMaskLength)
    (hmask : '\n' ∉ mask) (hprompt : prompt ≠ some '\n')
    (hrecords : ∀ line ∈ Text.lines stdin,
      Record (prompt.getD defaultPrompt) (Mask.compile mask).slots line) :
    Libraries.standard.ReadsInline v.presets mask prompt ∧
    ∀ (l : Libraries) (clipboard : Text → Except Text Unit),
      l.ReadsInline v.presets mask prompt →
      let formatted :=
        (runWith l clipboard v ("format".toList :: inlineArgs mask prompt) (.ok stdin) d).1
      formatted.code = 0 ∧
      runWith l clipboard v ("unmask".toList :: inlineArgs mask prompt) (.ok formatted.stdout) d' =
        (⟨0, Text.unlines (Text.lines stdin), []⟩, d') := by
  refine ⟨readsInline_standard hv mask prompt, fun l clipboard hread => ?_⟩
  intro formatted
  let c := inlineConfig mask prompt
  have hformatted : formatted = ⟨0, Text.unlines ((Text.lines stdin).map (convert c .mask)), []⟩ :=
    congrArg Prod.fst (runWith_inlineArgs hread hlength clipboard .mask stdin d)
  have hunmask (t : Text) :
      runWith l clipboard v ("unmask".toList :: inlineArgs mask prompt) (.ok t) d' =
        (⟨0, Text.unlines ((Text.lines t).map (convert c .unmask)), []⟩, d') :=
    runWith_inlineArgs hread hlength clipboard .unmask t d'
  have hp : '\n' ≠ prompt.getD defaultPrompt := by
    cases prompt with
    | none => decide
    | some p => exact fun h => hprompt (congrArg some h.symm)
  -- every display is one line again, so the lines that are read are the displays
  have hlines : ∀ l ∈ (Text.lines stdin).map (convert c .mask), IsLine l := by
    intro l hl
    obtain ⟨line, hline, rfl⟩ := List.mem_map.mp hl
    exact (hrecords line hline).isLine_format (Text.not_mem_of_mem_lines hline) hp
      fun s hs hliteral => hmask (mem_of_mem_slotsFrom hs hliteral)
  have hvalues : ((Text.lines stdin).map (convert c .mask)).map (convert c .unmask) =
      Text.lines stdin := by
    rw [List.map_map]
    exact (List.map_congr_left fun line hline => (hrecords line hline).unmask_format).trans
      (List.map_id' _)
  refine ⟨by rw [hformatted], ?_⟩
  rw [hunmask, hformatted, Text.lines_unlines hlines, hvalues]

/-- A mask with a blank as its prompt: what is trimmed off a display is not
    missed, and an empty line stays a record between two others. -/
theorem run_unmask_format_padded :
    let v : Variables := ⟨none, none, none⟩
    let mask := "(00) 0".toList
    let stdin := "123\r\n\n1".toList
    let written := "(12) 3\n(  )\n(1 )\n".toList
    let d := Disk.ofFiles "/".toList []
    (v.presets ≠ some [] ∧ mask.length ≤ maxMaskLength ∧ '\n' ∉ mask ∧ some ' ' ≠ some '\n' ∧
      (∀ line ∈ Text.lines stdin, Record ' ' (Mask.compile mask).slots line) ∧
      Libraries.standard.ReadsInline v.presets mask (some ' ')) ∧
    (run v ("format".toList :: inlineArgs mask (some ' ')) (.ok stdin) d).1 = ⟨0, written, []⟩ ∧
    run v ("unmask".toList :: inlineArgs mask (some ' ')) (.ok written) d =
      (⟨0, "123\n\n1\n".toList, []⟩, d) := by
  intro v mask stdin written d
  have hv : v.presets ≠ some [] := nofun
  have hlength : mask.length ≤ maxMaskLength := by decide
  have hmask : '\n' ∉ mask := by decide
  have hprompt : some ' ' ≠ some '\n' := by decide
  have hrecords : ∀ line ∈ Text.lines stdin, Record ' ' (Mask.compile mask).slots line := by decide
  have hwritten : (runWith Libraries.standard noClipboard v
      ("format".toList :: inlineArgs mask (some ' ')) (.ok stdin) d).1 = ⟨0, written, []⟩ := by
    decide +kernel
  obtain ⟨hinline, hruns⟩ :=
    run_unmask_format v mask (some ' ') stdin d d hv hlength hmask hprompt hrecords
  have hread := (hruns Libraries.standard noClipboard hinline).2
  rw [hwritten] at hread
  exact ⟨⟨hv, hlength, hmask, hprompt, hrecords, hinline⟩, hwritten, hread⟩

end CommandLine

end InputMask
