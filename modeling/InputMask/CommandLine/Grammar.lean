/-
  File:      InputMask/CommandLine/Grammar.lean
  Subject:   How the arguments of a command line are read.

  Arguments are read from left to right. A switch stands before or
  behind other arguments of its level; the name of a command opens the
  command's own level. A value stands in the argument behind its
  switch or, after `=`, in the same one; short switches may share an
  argument. Behind `--` nothing is a switch. The keys of a script may
  look like switches: while they are missing, what is no switch of
  the level is taken for them. A command line that breaks a rule is
  refused, whichever rule it is.
-/
import InputMask.CommandLine.Invocation
namespace InputMask.CommandLine

/-! ## 1. Switches and levels -/

/-- All switches. -/
inductive Switch where
  | quiet
  | debug
  | presets
  | help
  | version
  | mask
  | preset
  | prompt
  | inputFile
  | output
  | hidePrompt
  | clipboard
  | keepLiterals
  | keepPrompt
  | json
  | initial
  | value
  | blur
  | pasteMode
  | strict
  deriving DecidableEq, Repr

/-- What can be the value of a switch. -/
inductive ValueKind where
  /-- Any text that does not look like a switch. -/
  | text
  /-- Any text at all. -/
  | anyText
  /-- A path, which is not empty. -/
  | path
  /-- One character. -/
  | char
  /-- The name of a paste mode. -/
  | pasteMode
  deriving DecidableEq, Repr

namespace Switch

/-- What stands behind two dashes. -/
def long : Switch → String
  | quiet => "quiet"
  | debug => "debug"
  | presets => "presets"
  | help => "help"
  | version => "version"
  | mask => "mask"
  | preset => "preset"
  | prompt => "prompt"
  | inputFile => "input-file"
  | output => "output"
  | hidePrompt => "hide-prompt"
  | clipboard => "clipboard"
  | keepLiterals => "keep-literals"
  | keepPrompt => "keep-prompt"
  | json => "json"
  | initial => "initial"
  | value => "value"
  | blur => "blur"
  | pasteMode => "paste-mode"
  | strict => "strict"

/-- What stands behind one dash. -/
def short? : Switch → Option Char
  | quiet => some 'q'
  | debug => some 'd'
  | help => some 'h'
  | version => some 'V'
  | mask => some 'm'
  | preset => some 'p'
  | inputFile => some 'i'
  | output => some 'o'
  | clipboard => some 'c'
  | _ => none

/-- What the value of a switch is; most switches have none. -/
def value? : Switch → Option ValueKind
  | presets | inputFile | output => some .path
  | mask => some .anyText
  | preset | initial => some .text
  | prompt => some .char
  | pasteMode => some .pasteMode
  | _ => none

end Switch

/-- The names of the paste modes. -/
def pasteModes : List (Text × PasteMode) :=
  [("replay".toList, .replay), ("resync".toList, .resync)]

/-- Whether a text is a value of a kind. -/
def ValueKind.admits : ValueKind → Text → Bool
  | text, _ => true
  | anyText, _ => true
  | path, t => !t.isEmpty
  | char, t => t.length = 1
  | pasteMode, t => (pasteModes.lookup t).isSome

/-- The program as a whole, and its commands. -/
inductive Level where
  | program
  | format
  | unmask
  | inspect
  | presets
  | presetList
  | edit
  deriving DecidableEq, Repr

namespace Level

/-- The switches that choose a mask. -/
def maskSwitches : List Switch := [.mask, .preset, .prompt]

/-- The switches of a level that other levels may not have. -/
def ownSwitches : Level → List Switch
  | program => [.version]
  | format => maskSwitches ++ [.inputFile, .output, .hidePrompt, .clipboard]
  | unmask => maskSwitches ++ [.inputFile, .output, .keepLiterals, .keepPrompt, .clipboard]
  | inspect => maskSwitches ++ [.json]
  | presets => []
  | presetList => [.json]
  | edit =>
    maskSwitches ++ [.initial, .value, .blur, .json, .hidePrompt, .pasteMode, .strict]

/-- The switches of a level. -/
def switches (l : Level) : List Switch := [.quiet, .debug, .presets, .help] ++ l.ownSwitches

/-- The commands of a level. -/
def commands : Level → List (Text × Level)
  | program => [("format".toList, format), ("unmask".toList, unmask),
      ("inspect".toList, inspect), ("presets".toList, presets), ("edit".toList, edit)]
  | presets => [("list".toList, presetList)]
  | _ => []

/-- The switch of a level with a long name. -/
def longSwitch? (l : Level) (name : Text) : Option Switch :=
  l.switches.find? fun s => s.long.toList = name

/-- The switch of a level with a short name. -/
def shortSwitch? (l : Level) (letter : Char) : Option Switch :=
  l.switches.find? fun s => s.short? = some letter

end Level

/-! ## 2. Reading arguments -/

/-- Why a command line does not lead to a command. -/
inductive Stop where
  /-- Help is asked for. -/
  | help
  /-- The version is asked for. -/
  | version
  /-- A rule is broken. -/
  | refused
  deriving DecidableEq, Repr

/-- What an argument looks like. -/
inductive Shape where
  /-- The end of the switches. -/
  | escape
  /-- A long switch, with a value if one is attached. -/
  | long (name : Text) (value : Option Text)
  /-- Short switches, perhaps with a value. -/
  | short (letters : Text)
  /-- No switch. -/
  | plain
  deriving DecidableEq, Repr

/-- The long switch in an argument, without its dashes. -/
def Shape.ofLong (t : Text) : Shape :=
  match t.dropWhile (· ≠ '=') with
  | [] => .long t none
  | _ :: value => .long (t.takeWhile (· ≠ '=')) (some value)

/-- What an argument looks like. -/
def Shape.of : Text → Shape
  | ['-', '-'] => .escape
  | '-' :: '-' :: t => ofLong t
  | '-' :: c :: t => .short (c :: t)
  | _ => .plain

/-- What was read at one level. -/
structure Frame where
  /-- The level. -/
  level : Level
  /-- The switches with their values, the last first; a switch without
      a value has an empty one. -/
  given : List (Switch × Text)
  /-- The keys of a script. -/
  keys : Option Text
  deriving DecidableEq, Repr

namespace Frame

/-- Nothing read yet. -/
def start (l : Level) : Frame := ⟨l, [], none⟩

/-- Whether a switch was read. -/
def has (f : Frame) (s : Switch) : Bool := (f.given.lookup s).isSome

/-- Whether the next value can be the keys of a script. -/
def wantsKeys (f : Frame) : Bool := f.level = .edit && f.keys.isNone

/-- Whether an argument is read as a switch and not as a value. -/
def readsSwitch (f : Frame) (arg : Text) : Bool :=
  match Shape.of arg with
  | .escape => true
  | .long name _ => (f.level.longSwitch? name).isSome || !f.wantsKeys
  | .short letters => letters.all (fun c => (f.level.shortSwitch? c).isSome) || !f.wantsKeys
  | .plain => false

/-- The frame with a switch and its value added. -/
def give (f : Frame) (s : Switch) (value : Text) : Except Stop Frame :=
  match s with
  | .help => .error .help
  | .version => .error .version
  | s =>
    if f.has s || !(s.value?.all (·.admits value)) then .error .refused
    else .ok { f with given := (s, value) :: f.given }

/-- The frame with keys added. -/
def giveKeys (f : Frame) (keys : Text) : Except Stop Frame :=
  if f.wantsKeys then .ok { f with keys := some keys } else .error .refused

end Frame

/-- How far the arguments are read. -/
structure Reading where
  /-- The levels left for a command, the last first. -/
  outer : List Frame
  /-- The level in hand. -/
  frame : Frame
  /-- The switch whose value comes next. -/
  pending : Option Switch
  /-- Whether `--` was read. -/
  escaped : Bool
  deriving DecidableEq, Repr

namespace Reading

/-- Nothing read yet. -/
def start : Reading := ⟨[], Frame.start .program, none, false⟩

/-- Reading goes on with a frame and no value to come. -/
def resume (r : Reading) (frame : Except Stop Frame) : Except Stop Reading :=
  frame.map fun f => { r with frame := f, pending := none }

/-- Short switches of one argument. -/
def readShort (r : Reading) : Text → Except Stop Reading
  | [] => .ok r
  | letter :: rest =>
    match r.frame.level.shortSwitch? letter with
    | none => .error .refused
    | some s =>
      if s.value?.isNone then do (← r.resume (r.frame.give s [])).readShort rest
      else match rest with
        | [] => .ok { r with pending := some s }
        | '=' :: value => r.resume (r.frame.give s value)
        | value => r.resume (r.frame.give s value)

/-- A long switch. -/
def readLong (r : Reading) (name : Text) (value : Option Text) : Except Stop Reading :=
  match r.frame.level.longSwitch? name with
  | none => .error .refused
  | some s =>
    match s.value?, value with
    | none, none => r.resume (r.frame.give s [])
    | none, some _ => .error .refused
    | some _, none => .ok { r with pending := some s }
    | some _, some value => r.resume (r.frame.give s value)

/-- The next argument. -/
def read (r : Reading) (arg : Text) : Except Stop Reading :=
  if r.escaped then r.resume (r.frame.giveKeys arg)
  else match r.pending with
    | some s =>
      if s.value? = some .anyText || !r.frame.readsSwitch arg then r.resume (r.frame.give s arg)
      else .error .refused
    | none =>
      match r.frame.level.commands.lookup arg with
      | some l => .ok { r with outer := r.frame :: r.outer, frame := Frame.start l }
      | none =>
        if !r.frame.readsSwitch arg then r.resume (r.frame.giveKeys arg)
        else match Shape.of arg with
          | .escape => .ok { r with escaped := true }
          | .long name value => r.readLong name value
          | .short letters => r.readShort letters
          | .plain => .error .refused

/-- The command that asks for help with others. -/
def helpCommand : Text := "help".toList

/-- What comes of asking for help with the command of some names. -/
def helpWith (l : Level) : List Text → Stop
  | [] => .help
  | name :: rest =>
    match l.commands.lookup name with
    | some l => helpWith l rest
    | none =>
      if name = helpCommand ∧ l.commands ≠ [] ∧ rest = [] then .help else .refused

/-- All arguments. -/
def readAll (r : Reading) : List Text → Except Stop Reading
  | [] => if r.pending.isSome then .error .refused else .ok r
  | arg :: rest =>
    if arg = helpCommand ∧ r.escaped = false ∧ r.pending = none ∧ r.frame.level.commands ≠ [] then
      .error (helpWith r.frame.level rest)
    else do (← r.read arg).readAll rest

end Reading

/-! ## 3. Invocations -/

namespace Frame

/-- The value of a switch. -/
def value? (f : Frame) (s : Switch) : Option Text := f.given.lookup s

/-- The mask that was chosen: one of mask and preset must be given,
    and not both. -/
def choice (f : Frame) : Except Stop MaskChoice :=
  if f.has .mask = f.has .preset then .error .refused
  else .ok ⟨f.value? .mask, f.value? .preset, (f.value? .prompt).bind List.head?⟩

/-- The conversion of lines that was asked for. -/
def lineJob (f : Frame) : Except Stop LineJob := do
  return ⟨← f.choice, f.value? .inputFile, f.value? .output, f.has .clipboard⟩

/-- What is to be shown of a field; at most one view may be named. -/
def view (f : Frame) : Except Stop EditView :=
  match f.has .json, f.has .value, f.has .blur with
  | false, false, false => .ok .display
  | false, false, true => .ok .blurred
  | false, true, false => .ok .value
  | true, false, false => .ok .report
  | _, _, _ => .error .refused

/-- The script that is to be played. -/
def editJob (f : Frame) : Except Stop EditJob := do
  let some keys := f.keys | .error .refused
  let mode := ((f.value? .pasteMode).bind fun t => pasteModes.lookup t).getD .replay
  return ⟨← f.choice, keys, f.value? .initial, ← f.view, f.has .hidePrompt, mode, f.has .strict⟩

/-- The command of a level, if it is one. -/
def command (f : Frame) : Except Stop Command :=
  match f.level with
  | .program | .presets => .error .refused
  | .format => return .format (← f.lineJob) (f.has .hidePrompt)
  | .unmask => return .unmask (← f.lineJob) (f.has .keepLiterals) (f.has .keepPrompt)
  | .inspect => return .inspect (← f.choice) (f.has .json)
  | .presetList => return .listPresets (f.has .json)
  | .edit => return .edit (← f.editJob)

end Frame

/-- The invocation of what was read, the last level first. The preset
    file may also be named by a variable, which must then be a path if
    some level does not name one. -/
def invocation (presetsVariable : Option Text) (frames : List Frame) (command : Command) :
    Except Stop Invocation :=
  if presetsVariable = some [] ∧ frames.any (fun f => !f.has .presets) then .error .refused
  else
    let named := frames.findSome? (·.value? .presets)
    .ok ⟨frames.any (·.has .quiet), frames.any (·.has .debug), named <|> presetsVariable, command⟩

/-- The invocation that arguments ask for; the preset file may also be
    named by a variable. -/
def parse (presetsVariable : Option Text) (args : List Text) : Except Stop Invocation := do
  let r ← Reading.start.readAll args
  invocation presetsVariable (r.frame :: r.outer) (← r.frame.command)

end InputMask.CommandLine
