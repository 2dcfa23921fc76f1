/-
  File:      InputMask/Proofs/CommandLine/Effect.lean
  Subject:   What the run of a command line leaves behind.

  A command reads and checks, and then writes; but nothing in its form says
  so. It has to be shown of each command, step by step, that no step that can
  fail stands behind one that changes something.

  * `Reads`, `Speaks` -- steps that leave the whole world, or the disk, alone;
  * `Disk.Changed` -- a disk that differs at most in the output file;
  * `Safe` -- a step that leaves no trace when it fails, and a changed disk
    when it succeeds (`Safe.bind_reads`, `Safe.bind_speaks`);
  * `Invocation.safe_execute` -- so is every command, by its steps;
  * **`run_changes`** -- so a run that fails prints nothing and changes no
    file, and a run that succeeds changes at most the file named for output.
-/
import Mathlib.Data.List.Basic
import InputMask.Proofs.Disk.Write
import InputMask.CommandLine.Run
namespace InputMask

/-! ## 1. Steps that change nothing -/

section Steps

variable {α β : Type}

/-- **A step that reads**: the world is as it was, whatever the answer. -/
def Reads (x : StateM World α) : Prop := ∀ w, (x.run w).2 = w

/-- **A step that speaks**: the disk is as it was. -/
def Speaks (x : StateM World α) : Prop := ∀ w, (x.run w).2.disk = w.disk

theorem reads_pure (a : α) : Reads (pure a) := fun _ => rfl

theorem Reads.bind {x : StateM World α} {f : α → StateM World β} (hx : Reads x)
    (hf : ∀ a, Reads (f a)) : Reads (x >>= f) := fun w => (hf _ _).trans (hx w)

theorem Reads.speaks {x : StateM World α} (hx : Reads x) : Speaks x :=
  fun w => congrArg World.disk (hx w)

theorem Speaks.bind {x : StateM World α} {f : α → StateM World β} (hx : Speaks x)
    (hf : ∀ a, Speaks (f a)) : Speaks (x >>= f) := fun w => (hf _ _).trans (hx w)

theorem reads_orFail {ε : Type} (fail : ε → RunError) {answer : StateM World (Except ε α)}
    (h : Reads answer) : Reads (orFail fail answer).run :=
  h.bind fun _ => reads_pure _

end Steps

/-! ## 2. Steps that leave no trace when they fail -/

/-- **A disk that differs at most in the output file**, if there is one. -/
inductive Disk.Changed (out : Option Text) (d : Disk) : Disk → Prop where
  | same : Changed out d d
  | file {path : Text} {p : Place} {d' : Disk} (hout : out = some path)
      (hp : d.resolve path = .ok p) (h : SameAway p d d') : Changed out d d'

section Safe

variable {α β : Type} {out : Option Text}

/-- **A step without a trace**: failing, it leaves the world as it was;
    succeeding, it changes at most the output file. -/
def Safe (out : Option Text) (x : ExceptT RunError (StateM World) α) : Prop :=
  ∀ w, (∀ e, (x.run.run w).1 = .error e → (x.run.run w).2 = w) ∧
    Disk.Changed out w.disk (x.run.run w).2.disk

/-- A step and what follows it. -/
theorem run_bind (x : ExceptT RunError (StateM World) α)
    (f : α → ExceptT RunError (StateM World) β) (w : World) :
    (x >>= f).run.run w =
      match x.run.run w with
      | (.ok a, w') => (f a).run.run w'
      | (.error e, w') => (.error e, w') := by
  rw [ExceptT.run_bind, StateT.run_bind]
  split
  · rename_i h
    rw [h]
    rfl
  · rename_i h
    rw [h]
    rfl

/-- An answer of the system, or the error that it leads to. -/
theorem run_orFail {ε : Type} (fail : ε → RunError) (answer : StateM World (Except ε α))
    (w : World) :
    (orFail fail answer).run.run w = ((answer.run w).1.mapError fail, (answer.run w).2) := rfl

theorem Safe.of_reads {x : ExceptT RunError (StateM World) α} (h : Reads x.run) : Safe out x :=
  fun w => ⟨fun _ _ => h w, (h w).symm ▸ .same⟩

theorem Safe.of_speaks {x : StateM World α} (h : Speaks x) : Safe out (ExceptT.lift x) :=
  fun w => ⟨nofun, (h w).symm ▸ .same⟩

/-- **Behind a step that reads** whatever leaves no trace may follow. -/
theorem Safe.bind_reads {x : ExceptT RunError (StateM World) α}
    {f : α → ExceptT RunError (StateM World) β} (hx : Reads x.run) (hf : ∀ a, Safe out (f a)) :
    Safe out (x >>= f) := by
  intro w
  have hw := hx w
  rw [run_bind]
  cases hrun : x.run.run w with
  | mk answer w' =>
    rw [hrun] at hw
    obtain rfl : w' = w := hw
    cases answer with
    | ok a => exact hf a w'
    | error e => exact ⟨fun _ _ => rfl, .same⟩

/-- **Behind a step that may have written** only words may follow, which do
    not fail. -/
theorem Safe.bind_speaks {x : ExceptT RunError (StateM World) α} {y : α → StateM World β}
    (hx : Safe out x) (hy : ∀ a, Speaks (y a)) :
    Safe out (x >>= fun a => ExceptT.lift (y a)) := by
  intro w
  have hw := hx w
  rw [run_bind]
  cases hrun : x.run.run w with
  | mk answer w' =>
    rw [hrun] at hw
    cases answer with
    | ok a => exact ⟨nofun, (hy a w').symm ▸ hw.2⟩
    | error e => exact ⟨fun _ _ => hw.1 e rfl, hw.2⟩

end Safe

/-! ## 3. Reading -/

section Commands

variable (l : Libraries) (clipboard : Text → Except Text Unit) (v : Variables)

theorem reads_firstPresets (files : List Text) :
    Reads (firstPresets l (World.host clipboard) files) := by
  induction files with
  | nil => exact reads_pure _
  | cons path rest ih =>
    have hfile : Reads ((World.host clipboard).isFile path) := fun _ => rfl
    have hread : Reads ((World.host clipboard).readFile path) := fun _ => rfl
    refine hfile.bind fun found => ?_
    cases found with
    | true => exact hread.bind fun _ => reads_pure _
    | false => exact ih

theorem reads_userPresets (named : Option Text) :
    Reads (userPresets l (World.host clipboard) v named) := by
  cases named with
  | none => exact reads_firstPresets l clipboard _
  | some path =>
    have hread : Reads ((World.host clipboard).readFile path) := fun _ => rfl
    exact hread.bind fun _ => reads_pure _

theorem reads_config (i : Invocation) (c : MaskChoice) :
    Reads (i.config l (World.host clipboard) v c).run := by
  refine reads_orFail _ ?_
  unfold resolveConfig
  split
  · exact (reads_userPresets l clipboard v _).bind fun _ => reads_pure _
  · exact (reads_pure _).bind fun _ => reads_pure _

theorem reads_readInput (path : Option Text) :
    Reads (readInput (World.host clipboard) path).run := by
  refine reads_orFail _ ?_
  cases path <;> exact fun _ => rfl

/-! ## 4. Writing -/

theorem speaks_tell (severity : Severity) (t : Text) :
    Speaks ((World.host clipboard).tell severity t) := fun _ => rfl

theorem speaks_note (quiet : Bool) (severity : Severity) (t : Text) :
    Speaks (note (World.host clipboard) quiet severity t) := by
  unfold note
  split
  · exact (reads_pure _).speaks
  · exact speaks_tell clipboard severity t

theorem speaks_writeLines {write : Text → StateM World Unit} (h : ∀ t, Speaks (write t))
    (lines : List Text) : Speaks (writeLines write lines) := by
  induction lines with
  | nil => exact (reads_pure _).speaks
  | cons line rest ih => exact (h _).bind fun _ => ih

theorem speaks_printLines (lines : List Text) :
    Speaks (writeLines (World.host clipboard).print lines) :=
  speaks_writeLines (fun _ _ => rfl) lines

/-- **Lines in an open file** change only the file at its place. -/
theorem sameAway_writeLines (p : Place) (lines : List Text) (w : World) :
    Disk.SameAway p w.disk
      ((writeLines ((World.host clipboard).write p) lines).run w).2.disk := by
  induction lines generalizing w with
  | nil => exact .refl p _
  | cons line rest ih =>
    exact (Disk.sameAway_append w.disk p _).trans (ih { w with disk := w.disk.append p _ })

/-- **The output** fails before anything is written, or it is written to its
    file only. -/
theorem safe_writeOutput (out : Option Text) (lines : List Text) :
    Safe out (writeOutput (World.host clipboard) out lines) := by
  cases out with
  | none => exact .of_speaks (speaks_printLines clipboard lines)
  | some path =>
    intro w
    have hcreate : ((World.host clipboard).create path).run w = w.created (w.disk.create path) :=
      rfl
    unfold writeOutput
    dsimp only
    rw [run_bind, run_orFail, hcreate]
    cases hmake : w.disk.create path with
    | error fault => exact ⟨fun _ _ => rfl, .same⟩
    | ok made =>
      obtain ⟨p, d⟩ := made
      obtain ⟨hp, -, hmade⟩ := Disk.sameAway_create hmake
      exact ⟨nofun, .file rfl hp
        (hmade.trans (sameAway_writeLines clipboard p lines { w with disk := d }))⟩

theorem LineJob.speaks_tellOutput (j : LineJob) (quiet : Bool) (what : String)
    (lines : List Text) : Speaks (j.tellOutput (World.host clipboard) quiet what lines) := by
  unfold tellOutput
  split
  · exact speaks_note clipboard _ _ _
  · exact (reads_pure _).speaks

theorem LineJob.speaks_copyLines (j : LineJob) (quiet : Bool) (copied : String)
    (lines : List Text) : Speaks (j.copyLines (World.host clipboard) quiet copied lines) := by
  have hcopy (t : Text) : Reads ((World.host clipboard).copy t) := fun _ => rfl
  unfold copyLines
  split
  · refine (hcopy _).speaks.bind fun answer => ?_
    cases answer with
    | ok => exact speaks_note clipboard _ _ _
    | error why => exact speaks_tell clipboard _ _
  · exact (reads_pure _).speaks

theorem LineJob.safe_deliver (j : LineJob) (quiet : Bool) (what copied : String)
    (lines : List Text) :
    Safe j.output (j.deliver (World.host clipboard) quiet what copied lines) := by
  have htold : Safe j.output (writeOutput (World.host clipboard) j.output lines >>= fun _ =>
      ExceptT.lift (j.tellOutput (World.host clipboard) quiet what lines)) :=
    .bind_speaks (safe_writeOutput clipboard _ lines)
      fun _ => j.speaks_tellOutput clipboard quiet what lines
  have hall := htold.bind_speaks fun _ => j.speaks_copyLines clipboard quiet copied lines
  rwa [bind_assoc] at hall

/-- Refused keys are told, or the script fails before anything is told. -/
theorem EditJob.safe_judge (j : EditJob) (quiet : Bool) (total : Nat) (rejected : List Nat)
    {out : Option Text} : Safe out (j.judge (World.host clipboard) quiet total rejected) := by
  unfold judge
  split
  · exact .of_reads (reads_pure _)
  · split
    · exact .of_reads fun _ => rfl
    · exact .of_speaks (speaks_note clipboard _ _ _)

/-! ## 5. Commands -/

/-- The file that a command was told to write. -/
def Command.output? : Command → Option Text
  | format j _ => j.output
  | unmask j _ _ => j.output
  | inspect _ _ => none
  | listPresets _ => none
  | edit _ => none

namespace Invocation

variable (i : Invocation)

theorem safe_format (j : LineJob) (hidePrompt : Bool) :
    Safe j.output (i.format l (World.host clipboard) v j hidePrompt) :=
  .bind_reads (reads_config l clipboard v i _) fun _ =>
    .bind_reads (reads_readInput clipboard _) fun _ => j.safe_deliver clipboard _ _ _ _

theorem safe_unmask (j : LineJob) (keepLiterals keepPrompt : Bool) :
    Safe j.output (i.unmask l (World.host clipboard) v j keepLiterals keepPrompt) :=
  .bind_reads (reads_config l clipboard v i _) fun _ =>
    .bind_reads (reads_readInput clipboard _) fun _ => j.safe_deliver clipboard _ _ _ _

theorem safe_inspect (choice : MaskChoice) (json : Bool) :
    Safe none (i.inspect l (World.host clipboard) v choice json) :=
  .bind_reads (reads_config l clipboard v i _) fun _ => .of_speaks (speaks_printLines clipboard _)

theorem safe_listPresets (json : Bool) :
    Safe none (i.listPresets l (World.host clipboard) v json) :=
  .bind_reads (reads_orFail _ (reads_userPresets l clipboard v _)) fun _ =>
    .of_speaks (speaks_printLines clipboard _)

theorem safe_edit (j : EditJob) : Safe none (i.edit l (World.host clipboard) v j) :=
  .bind_reads (reads_config l clipboard v i _) fun _ =>
    .bind_reads (reads_orFail _ (reads_pure _)) fun _ =>
      .bind_speaks (j.safe_judge clipboard _ _ _) fun _ => speaks_printLines clipboard _

/-- **Every command leaves no trace when it fails**, and changes at most the
    file it was told to write. -/
theorem safe_execute : Safe i.command.output? (i.execute l (World.host clipboard) v) := by
  unfold execute
  cases i.command with
  | format j hidePrompt => exact i.safe_format l clipboard v j hidePrompt
  | unmask j keepLiterals keepPrompt => exact i.safe_unmask l clipboard v j keepLiterals keepPrompt
  | inspect choice json => exact i.safe_inspect l clipboard v choice json
  | listPresets json => exact i.safe_listPresets l clipboard v json
  | edit j => exact i.safe_edit l clipboard v j

/-- The exit code tells how the command went; an error is only told. -/
theorem run_perform (w : World) : (i.perform l (World.host clipboard) v).run w =
    match (i.execute l (World.host clipboard) v).run.run w with
    | (.ok (), w') => (0, w')
    | (.error e, w') => (1, { w' with messages := w'.messages ++ [(.error, e.message)] }) := by
  unfold perform
  rw [StateT.run_bind]
  split
  · rename_i h
    rw [h]
    rfl
  · rename_i h
    rw [h]
    rfl

end Invocation

end Commands

/-! ## 6. Runs -/

namespace CommandLine

theorem runWith_of_arguments {l : Libraries} {v : Variables} {args : List Text} {i : Invocation}
    (h : l.arguments v.presets args = .ok i) (clipboard : Text → Except Text Unit)
    (stdin : Except FileFault Text) (d : Disk) :
    runWith l clipboard v args stdin d =
      World.ended ((i.perform l (World.host clipboard) v).run (World.start stdin d)) := by
  unfold runWith perform
  rw [h]

/-- **What a run changes.** A command line that is accepted ends with code 0 or
    1. With code 1 nothing is printed and the disk is as it was. With code 0
    every file but the one that was named for output holds what it held,
    whether it is told by its place or by a path: only paths that lead where
    the named one does, step by step and by their names, find something else.
    This is so however arguments, preset files, JSON and tables are read and
    written, and whatever becomes of texts for the clipboard. -/
theorem run_changes (l : Libraries) (clipboard : Text → Except Text Unit) (v : Variables)
    (args : List Text) (stdin : Except FileFault Text) (d : Disk) {i : Invocation}
    (h : l.arguments v.presets args = .ok i) :
    let ending := (runWith l clipboard v args stdin d).1
    let after := (runWith l clipboard v args stdin d).2
    (ending.code = 0 ∨ ending.code = 1) ∧
    (ending.code = 1 → ending.stdout = [] ∧ after = d) ∧
    (ending.code = 0 →
      (∀ p, after.fileAt? p ≠ d.fileAt? p →
        ∃ path, i.command.output? = some path ∧ d.resolve path = .ok p) ∧
      (∀ q, after.contentAt? q ≠ d.contentAt? q →
        ∃ path, i.command.output? = some path ∧ d.resolve q = d.resolve path ∧
          Path.place d.base q = Path.place d.base path)) := by
  obtain ⟨hfailed, hchanged⟩ := i.safe_execute l clipboard v (World.start stdin d)
  rw [runWith_of_arguments h, i.run_perform]
  cases hrun : (i.execute l (World.host clipboard) v).run.run (World.start stdin d) with
  | mk answer w =>
    rw [hrun] at hfailed hchanged
    cases answer with
    | error e =>
      obtain rfl : w = World.start stdin d := hfailed e rfl
      exact ⟨.inr rfl, fun _ => ⟨rfl, rfl⟩, nofun⟩
    | ok =>
      refine ⟨.inl rfl, nofun, fun _ => ?_⟩
      cases hchanged with
      | same => exact ⟨fun _ hne => absurd rfl hne, fun _ hne => absurd rfl hne⟩
      | @file path p _ hout hresolve hsame =>
        have hp : d.resolve path = .ok p := hresolve
        refine ⟨fun q hne => ⟨path, hout, ?_⟩, fun q hne => ⟨path, hout, ?_⟩⟩
        · by_cases hq : q = p
          · rw [hq]
            exact hp
          · exact absurd (hsame.fileAt?_eq q hq) hne
        · have hq : d.resolve q = .ok p := hsame.contentAt?_ne hne
          exact ⟨hq.trans hp.symm,
            (Disk.resolve_eq_place hq).trans (Disk.resolve_eq_place hp).symm⟩

/-- A file is formatted into another one, which two paths lead to; then a
    refused key makes a script fail. -/
theorem run_changes_output :
    let l := Libraries.standard
    let v : Variables := ⟨none, none, none⟩
    let d := Disk.ofFiles "/home".toList
      [("in".toList, .text "12\n3\n".toList), ("/home/out".toList, .text "old".toList)]
    let format := ["format", "-m", "0-0", "-i", "../home/in", "-o", "out"].map String.toList
    let edit := ["edit", "-m", "0-0", "--strict", "1x"].map String.toList
    let written := runWith l noClipboard v format (.ok []) d
    let failed := runWith l noClipboard v edit (.ok []) d
    ((∃ i, l.arguments v.presets format = .ok i ∧ i.command.output? = some "out".toList) ∧
      ∃ i, l.arguments v.presets edit = .ok i) ∧
    (written.1.code = 0 ∧
      written.2.contentAt? "//home/./out".toList = some (.text "1-2\n3-_\n".toList) ∧
      ∀ q, written.2.contentAt? q ≠ d.contentAt? q →
        Path.place d.base q = ["out".toList, "home".toList]) ∧
    failed.1.code = 1 ∧ failed.1.stdout = [] ∧ failed.2 = d := by
  intro l v d format edit
  let job : LineJob :=
    ⟨⟨some "0-0".toList, none, none⟩, some "../home/in".toList, some "out".toList, false⟩
  let script : EditJob :=
    ⟨⟨some "0-0".toList, none, none⟩, "1x".toList, none, .display, false, .replay, true⟩
  have hformat : l.arguments v.presets format = .ok ⟨false, false, none, .format job false⟩ := by
    decide +kernel
  have hedit : l.arguments v.presets edit = .ok ⟨false, false, none, .edit script⟩ := by
    decide +kernel
  have hzero : (runWith l noClipboard v format (.ok []) d).1.code = 0 := by decide +kernel
  have hout : (runWith l noClipboard v format (.ok []) d).2.contentAt? "//home/./out".toList =
      some (.text "1-2\n3-_\n".toList) := by
    decide +kernel
  have hone : (runWith l noClipboard v edit (.ok []) d).1.code = 1 := by decide +kernel
  have hchanged := (run_changes l noClipboard v format (.ok []) d hformat).2.2 hzero
  have hnone := (run_changes l noClipboard v edit (.ok []) d hedit).2.1 hone
  refine ⟨⟨⟨_, hformat, rfl⟩, _, hedit⟩, ⟨hzero, hout, fun q hq => ?_⟩, hone, hnone⟩
  obtain ⟨path, hpath, -, hplace⟩ := hchanged.2 q hq
  cases hpath
  exact hplace

end CommandLine

end InputMask
