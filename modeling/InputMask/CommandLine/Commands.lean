/-
  File:      InputMask/CommandLine/Commands.lean
  Subject:   What the commands do, one step after the other.

  A command first finds its configuration, for which it may read a
  preset file; then it reads its input or its script, and then it
  writes. Each step stands where the command takes it: what was written
  before a step that fails stays written.
-/
import InputMask.CommandLine.Host
import InputMask.Disk
namespace InputMask

/-- The paths at which a preset file is looked for where none is
    named: in the directory of configurations, which is by default in
    the home directory, and in the home directory. -/
def Variables.presetFiles (v : Variables) : List Text :=
  let home := v.home.filter (· ≠ [])
  let configHome := match v.configHome.filter (·.head? = some '/') with
    | some dir => some dir
    | none => home.map (Path.join · ".config".toList)
  (configHome.map (Path.join · "maskedit".toList)).toList ++
    (home.map (Path.join · ".maskedit".toList)).toList
  |>.map (Path.join · "presets.yaml".toList)

/-- The lines that show a mask: its text, its display without input, how
    many slots it has, and its slots if there are any. -/
def Mask.summary (m : Mask) (table : Table → Text) (prompt : Char) : List Text :=
  ["Mask:   ".toList ++ m.source,
    "Empty:  ".toList ++ m.emptyText (some prompt),
    s!"Slots:  {m.length} ({m.placeholderCount} editable)".toList] ++
    (if m.isEmpty then [] else [table m.table])

/-- The line that shows a field. -/
def EditView.line (json : Json → Text) (f : Field) (rejected : List Nat) : EditView → Text
  | display => f.display
  | blurred => f.blur.display
  | value => f.value
  | report => json (Report.toJson ⟨f.display, f.value, f.caret, rejected⟩)

section Commands

variable {m : Type → Type} [Monad m] (l : Libraries) (h : Host m) (v : Variables)

/-! ## 1. Reading -/

/-- An answer of the system; where it is a fault, the command fails. -/
def orFail {ε α : Type} (fail : ε → RunError) (answer : m (Except ε α)) : ExceptT RunError m α :=
  ExceptT.mk do return (← answer).mapError fail

/-- The presets of the first of some files that is there. -/
def firstPresets : List Text → m (Except PresetError (List Preset))
  | [] => return .ok []
  | path :: rest => do
    if ← h.isFile path then return Preset.loadWith l.presets path (← h.readFile path)
    else firstPresets rest

/-- The user's presets: those of the file that is named, else those of
    the first file that is there. -/
def userPresets : Option Text → m (Except PresetError (List Preset))
  | some path => return Preset.loadNamedWith l.presets path (← h.readFile path)
  | none => firstPresets l h v.presetFiles

/-- The configuration that is asked for; the user's presets are read
    only where a preset is named. -/
def resolveConfig (named : Option Text) (c : MaskChoice) : m (Except PresetError Config) := do
  let user ← if c.namesPreset then userPresets l h v named else pure (.ok [])
  return c.resolve user

/-- The input file, or without one the standard input. -/
def readInput (path : Option Text) : ExceptT RunError m Text :=
  orFail (.input path) (path.elim h.readStdin h.readFile)

/-! ## 2. Writing -/

/-- Lines written one after the other, each ended by a line feed. -/
def writeLines (write : Text → m Unit) : List Text → m Unit
  | [] => pure ()
  | line :: rest => do
    write (line ++ ['\n'])
    writeLines write rest

/-- Lines in the output file, or without one on the standard output. -/
def writeOutput (path : Option Text) (lines : List Text) : ExceptT RunError m Unit :=
  match path with
  | some path => do
    let file ← orFail (.output path) (h.create path)
    ExceptT.lift (writeLines (h.write file) lines)
  | none => ExceptT.lift (writeLines h.print lines)

/-- A message that is no error, unless such messages are left out. -/
def note (quiet : Bool) (severity : Severity) (message : Text) : m Unit :=
  if quiet then pure () else h.tell severity message

/-- A message on the output file, if there is one; `what` says what the
    lines in it are. -/
def LineJob.tellOutput (j : LineJob) (quiet : Bool) (what : String) (lines : List Text) : m Unit :=
  match j.output with
  | some path => note h quiet .info (s!"Wrote {lines.length} {what} to ".toList ++ path)
  | none => pure ()

/-- Lines put on the clipboard, if they are wanted there, and a message
    on how it went; `copied` says that they were copied. -/
def LineJob.copyLines (j : LineJob) (quiet : Bool) (copied : String) (lines : List Text) : m Unit :=
  if j.clipboard then do
    match ← h.copy (Text.joinLines lines) with
    | .ok () => note h quiet .info copied.toList
    | .error why => h.tell .warning ("Failed to copy to clipboard: ".toList ++ why)
  else pure ()

/-- The lines that a job made, put where it says. -/
def LineJob.deliver (j : LineJob) (quiet : Bool) (what copied : String) (lines : List Text) :
    ExceptT RunError m Unit := do
  writeOutput h j.output lines
  ExceptT.lift (j.tellOutput h quiet what lines)
  ExceptT.lift (j.copyLines h quiet copied lines)

/-- What comes of refused keys: a strict script fails, else a message
    tells how many they are. -/
def EditJob.judge (j : EditJob) (quiet : Bool) (total : Nat) (rejected : List Nat) :
    ExceptT RunError m Unit :=
  match rejected with
  | [] => pure ()
  | first :: _ =>
    if j.strict then throw (.refusedKeys rejected.length total first)
    else ExceptT.lift (note h quiet .warning (refusedKeysMessage rejected.length total ++ ['.']))

/-! ## 3. Commands -/

namespace Invocation

variable (i : Invocation)

/-- The configuration of a command. -/
def config (c : MaskChoice) : ExceptT RunError m Config :=
  orFail .preset (resolveConfig l h v i.presets c)

/-- Every line of the input formatted. -/
def format (j : LineJob) (hidePrompt : Bool) : ExceptT RunError m Unit := do
  let c ← i.config l h v j.choice
  let c := { c with hidePrompt := hidePrompt || c.hidePrompt }
  let input ← readInput h j.input
  j.deliver h i.quiet "formatted lines" "Formatted output copied to clipboard."
    ((Text.lines input).map (convert c .mask))

/-- The value of every line of the input. -/
def unmask (j : LineJob) (keepLiterals keepPrompt : Bool) : ExceptT RunError m Unit := do
  let c ← i.config l h v j.choice
  let c := { c with keepLiterals := keepLiterals || c.keepLiterals }
  let mask := Mask.compile c.mask
  let options := { c.valueOptions with keepPrompt := keepPrompt }
  let input ← readInput h j.input
  j.deliver h i.quiet "values" "Unmasked output copied to clipboard."
    ((Text.lines input).map (mask.unmask options))

/-- What a mask is made of. -/
def inspect (choice : MaskChoice) (json : Bool) : ExceptT RunError m Unit := do
  let c ← i.config l h v choice
  let mask := Mask.compile c.mask
  ExceptT.lift <| writeLines h.print <|
    if json then [l.json mask.toJson] else mask.summary l.table c.prompt

/-- All presets. -/
def listPresets (json : Bool) : ExceptT RunError m Unit := do
  let user ← orFail .preset (userPresets l h v i.presets)
  let presets := Preset.merge Preset.builtin user
  ExceptT.lift <| writeLines h.print [
    if json then l.json (.arr (presets.map Preset.toJson)) else l.table (Preset.table presets)]

/-- A script played on a field. -/
def edit (j : EditJob) : ExceptT RunError m Unit := do
  let c ← i.config l h v j.choice
  let c := { c with hidePrompt := j.hidePrompt || c.hidePrompt }
  let keys ← orFail .script (pure (KeyScript.parse j.keys))
  let (f, rejected) := (Field.forScript c j.initial).play j.pasteMode keys
  j.judge h i.quiet keys.length rejected
  ExceptT.lift (writeLines h.print [j.view.line l.json f rejected])

/-- The command of an invocation. -/
def execute : ExceptT RunError m Unit :=
  match i.command with
  | .format j hidePrompt => i.format l h v j hidePrompt
  | .unmask j keepLiterals keepPrompt => i.unmask l h v j keepLiterals keepPrompt
  | .inspect choice json => i.inspect l h v choice json
  | .listPresets json => i.listPresets l h v json
  | .edit j => i.edit l h v j

/-- The command of an invocation, and the exit code: zero for success,
    one for an error, which is told. -/
def perform : m Nat := do
  match ← (i.execute l h v).run with
  | .ok () => return 0
  | .error e =>
    h.tell .error e.message
    return 1

end Invocation

/-! ## 4. Command lines -/

/-- How the program is called. -/
def usage : Text := Text.unlines <| List.map String.toList [
  "Usage: maskedit [-q] [-d] [--presets FILE] COMMAND",
  "",
  "Commands:",
  "  format   MASK [-i FILE] [-o FILE] [--hide-prompt] [-c]",
  "  unmask   MASK [-i FILE] [-o FILE] [--keep-literals] [--keep-prompt] [-c]",
  "  inspect  MASK [--json]",
  "  presets  list [--json]",
  "  edit     MASK [--initial VALUE] [--value | --blur | --json] [--hide-prompt]",
  "           [--paste-mode replay|resync] [--strict] KEYS",
  "",
  "MASK is -m MASK or -p NAME, and may be followed by --prompt CHAR."]

namespace CommandLine

/-- What is done where no command is run. -/
def Stop.perform : Stop → m Nat
  | help => do
    h.print usage
    return 0
  | version => do
    h.print "maskedit 0.1.0\n".toList
    return 0
  | refused => do
    h.tell .error ("the arguments are not understood\n\n".toList ++ usage)
    return 2

/-- A command line, and its exit code. -/
def perform (args : List Text) : m Nat :=
  match l.arguments v.presets args with
  | .error stop => stop.perform h
  | .ok i => i.perform l h v

end CommandLine

end Commands

end InputMask
