/-
  File:      InputMask/Proofs/Preset/Resolution.lean
  Subject:   Which configurations a mask or a preset's name can lead to.

  The limit on masks is kept in two places: a mask that is given is measured
  when it is resolved, the masks of a file when the file is loaded. Merging
  and looking up a name only pick presets, so nothing else need be measured.

  * `sound_of_userPresets` -- the user's presets are sound, whatever the
    system answers where preset files are read;
  * `Preset.chosen` -- the preset that a name stands for;
  * `base_of_mask`, `base_of_preset` -- all that resolving can give;
  * **`resolve_within_limit`** -- so every mask resolved is within the limit,
    and mask and prompt come from where they should.
-/
import InputMask.CommandLine.Run
import InputMask.Proofs.Preset.Check
import InputMask.Proofs.Preset.Merge
import InputMask.Result
namespace InputMask

/-! ## 1. Sound presets -/

section Answers

variable {σ : Type} {l : Libraries} {h : Host (StateM σ)} {v : Variables} {named : Option Text}
  {s : σ} {ps : List Preset}

theorem sound_of_firstPresets {files : List Text}
    (hok : ((firstPresets l h files).run s).1 = .ok ps) : ∀ p ∈ ps, p.Sound := by
  induction files generalizing s with
  | nil =>
    cases hok
    exact nofun
  | cons path rest ih =>
    rw [firstPresets, StateT.run_bind] at hok
    cases hfound : (h.isFile path).run s with
    | mk found s' =>
      rw [hfound] at hok
      cases found with
      | true => exact Preset.sound_of_loadWith hok
      | false => exact ih hok

/-- **The user's presets are sound**, from the file that is named, from one
    that is found, or from none, whatever the system answers. -/
theorem sound_of_userPresets (hok : ((userPresets l h v named).run s).1 = .ok ps) :
    ∀ p ∈ ps, p.Sound := by
  cases named with
  | some path => exact Preset.sound_of_loadWith (Result.mapError_eq_ok_iff.mp hok)
  | none => exact sound_of_firstPresets hok

end Answers

namespace Preset

/-! ## 2. Names -/

/-- **The preset a name stands for**: the last one of the user's presets that
    has it, else the first one of those that are always there. -/
def chosen (name : Text) (user : List Preset) : Option Preset :=
  (find? name user.reverse).or (find? name builtin)

theorem sound_of_chosen {name : Text} {user : List Preset} {p : Preset}
    (huser : ∀ q ∈ user, q.Sound) (h : chosen name user = some p) : p.Sound := by
  unfold chosen find? at h
  rcases Option.or_eq_some_iff.mp h with h | ⟨-, h⟩
  · exact huser p (List.mem_reverse.mp (List.mem_of_find?_eq_some h))
  · exact sound_of_problemsFrom problems_builtin p (List.mem_of_find?_eq_some h)

end Preset

namespace MaskChoice

/-! ## 3. Configurations -/

section Resolve

variable {c : MaskChoice} {user : Except PresetError (List Preset)} {config : Config}

theorem base_of_mask {mask : Text} (hc : c.mask = some mask) :
    c.base user = .ok config ↔ mask.length ≤ maxMaskLength ∧ Config.ofMask mask = config := by
  unfold base
  rw [hc]
  by_cases hlen : maxMaskLength < mask.length
  · simp [hlen, Nat.not_le.mpr hlen]
  · simp [hlen, Nat.le_of_not_lt hlen]

theorem base_of_preset (hc : c.mask = none) :
    c.base user = .ok config ↔ ∃ name ps p, c.preset = some name ∧ user = .ok ps ∧
      Preset.chosen name ps = some p ∧ p.toConfig = config := by
  unfold base
  rw [hc]
  cases hname : c.preset with
  | none => simp
  | some name =>
    simp only [Result.bind_eq_ok_iff, Result.pure_eq_ok_iff, Preset.find_eq_ok_iff,
      Preset.find?_merge, Preset.chosen, Option.some.injEq, exists_and_left, exists_eq_left']

theorem resolve_eq_ok_iff : c.resolve user = .ok config ↔
    ∃ base, c.base user = .ok base ∧
      { base with prompt := c.prompt.getD base.prompt } = config := by
  unfold resolve
  simp only [Result.bind_eq_ok_iff, Result.pure_eq_ok_iff]

end Resolve

/-- A configuration is resolved with what was read, if a preset is named. -/
theorem run_resolveConfig {σ : Type} (l : Libraries) (h : Host (StateM σ)) (v : Variables)
    (named : Option Text) (c : MaskChoice) (s : σ) :
    ((resolveConfig l h v named c).run s).1 =
      c.resolve (if c.namesPreset then ((userPresets l h v named).run s).1 else .ok []) := by
  unfold resolveConfig
  split <;> rfl

/-- **Every configuration resolved is within the limit.** Its mask has at
    most 256 characters and as many slots, with a mask given or a preset
    named, whatever the preset files hold and however they are read. A mask
    that is given is taken as it is; else the mask, which is not empty, is that
    of the preset the name stands for. The prompt is the one given, else the
    preset's, else the default one. -/
theorem resolve_within_limit {σ : Type} (l : Libraries) (h : Host (StateM σ)) (v : Variables)
    (named : Option Text) (c : MaskChoice) (s : σ) {config : Config}
    (hok : ((resolveConfig l h v named c).run s).1 = .ok config) :
    config.mask.length ≤ 256 ∧ (Mask.compile config.mask).length ≤ 256 ∧
    (∀ mask, c.mask = some mask →
      config.mask = mask ∧ config.prompt = c.prompt.getD defaultPrompt) ∧
    (c.mask = none → ∃ name user preset, c.preset = some name ∧
      ((userPresets l h v named).run s).1 = .ok user ∧
      Preset.chosen name user = some preset ∧ config.mask = preset.mask ∧ config.mask ≠ [] ∧
      config.prompt = c.prompt.getD (preset.prompt.getD defaultPrompt)) := by
  rw [run_resolveConfig] at hok
  obtain ⟨base, hbase, rfl⟩ := resolve_eq_ok_iff.mp hok
  dsimp only
  have hslots : base.mask.length ≤ 256 → (Mask.compile base.mask).length ≤ 256 :=
    (Nat.le_trans (length_slotsFrom_le .plain base.mask) ·)
  cases hm : c.mask with
  | some mask =>
    obtain ⟨hlen, rfl⟩ := (base_of_mask hm).mp hbase
    refine ⟨hlen, hslots hlen, ?_, nofun⟩
    rintro mask' ⟨⟩
    exact ⟨rfl, rfl⟩
  | none =>
    obtain ⟨name, user, preset, hname, huser, hchosen, rfl⟩ := (base_of_preset hm).mp hbase
    have hnames : c.namesPreset = true := by rw [namesPreset, hm, hname]; rfl
    rw [if_pos hnames] at huser
    have hsound := Preset.sound_of_chosen (sound_of_userPresets huser) hchosen
    exact ⟨hsound.length_le, hslots hsound.length_le, nofun,
      fun _ => ⟨name, user, preset, hname, huser, hchosen, rfl, hsound.nonempty, rfl⟩⟩

/-- A preset of a file in the place of one that is always there. -/
theorem resolve_within_limit_phone :
    let file := "presets: [\x7bname: us_phone, mask: 000.0000, prompt: '*'\x7d]".toList
    let l := Libraries.standard
    let h := World.host CommandLine.noClipboard
    let v : Variables := ⟨none, none, none⟩
    let named := some "own.yaml".toList
    let w := World.start (.ok []) (Disk.ofFiles "/home".toList [("own.yaml".toList, .text file)])
    let c : MaskChoice := ⟨none, some "us_phone".toList, none⟩
    let p : Preset := ⟨"us_phone".toList, none, "000.0000".toList, some '*', none, none, none⟩
    let config : Config := ⟨"000.0000".toList, '*', false, false⟩
    (((userPresets l h v named).run w).1 = .ok [p] ∧
      ((resolveConfig l h v named c).run w).1 = .ok config) ∧
    Preset.chosen "us_phone".toList [p] = some p ∧
    config.mask.length ≤ 256 ∧ (Mask.compile config.mask).length ≤ 256 ∧ config.mask ≠ [] := by
  intro file l h v named w c p config
  have huser : ((userPresets l h v named).run w).1 = .ok [p] := by decide +kernel
  have hchosen : Preset.chosen "us_phone".toList [p] = some p := rfl
  have hconfig : ((resolveConfig l h v named c).run w).1 = .ok config := by decide +kernel
  obtain ⟨hlen, hslots, -, hpreset⟩ := resolve_within_limit l h v named c w hconfig
  obtain ⟨_, _, _, -, -, -, -, hne, -⟩ := hpreset rfl
  exact ⟨⟨huser, hconfig⟩, hchosen, hlen, hslots, hne⟩

end MaskChoice

end InputMask
