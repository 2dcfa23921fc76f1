/-
  File:      InputMask/Proofs/KeyScript/RoundTrip.lean
  Subject:   Keys written as a script and read back.

  * `Key.Writable` -- a key that has a place in a script: its pasted text
    does not end early, and its range goes forward between positions;
  * `keyOfName_paste`, `keyOfName_select` -- the names that carry data;
  * `parseFrom_writeKey_append` -- a written key is read as that key,
    whatever stands behind it;
  * `writable_of_parseFrom` -- no other keys are read from a script;
  * **`parse_write`** -- so keys that have a place in a script are read back
    as they were written, and the keys of any script are of this kind.
-/
import Mathlib.Data.List.Basic
import InputMask.KeyScript
import InputMask.Result
namespace InputMask

/-! ## 1. Keys that have a place in a script -/

/-- **A key that a script can hold.** Pasted text ends at the first closing
    brace, so it has none; a range goes forward, and its ends are positions,
    that is, less than 2^64. -/
def Key.Writable : Key → Prop
  | select first stop => first ≤ stop ∧ stop < KeyScript.positionLimit
  | paste text => '}' ∉ text
  | _ => True

instance : DecidablePred Key.Writable
  | .select first stop =>
    inferInstanceAs (Decidable (first ≤ stop ∧ stop < KeyScript.positionLimit))
  | .paste text => inferInstanceAs (Decidable ('}' ∉ text))
  | .char _ | .backspace | .delete | .left | .right | .home | .toEnd | .cut => isTrue trivial

theorem Key.writable_char (c : Char) : (Key.char c).Writable := trivial

namespace KeyScript

/-! ## 2. Names that carry data -/

theorem keyOfName_paste (text : Text) : keyOfName (pasteWord ++ text) = .ok (.paste text) := by
  unfold keyOfName
  rw [dropHead?_eq_some_iff.mpr rfl]

theorem readPosition_write {n : Nat} (hn : n < positionLimit) :
    readPosition (Text.Decimal.write n) = some n := by
  have hdigit : ∀ c ∈ Text.Decimal.write n, c.isDigit = true :=
    fun c hc => Text.Decimal.isDigit_of_mem_write hc
  have hplus : ∀ rest, Text.Decimal.write n ≠ '+' :: rest := fun rest h =>
    absurd (hdigit '+' (h ▸ List.mem_cons_self)) (by decide)
  unfold readPosition
  rw [Text.trim_eq_self fun c hc => Text.Decimal.isBlank_of_isDigit (hdigit c hc)]
  simp [Text.Decimal.read?_write, hn]

/-- The dash between two positions is the first one: no digit is a dash. -/
theorem readRange_write {first stop : Nat} (hle : first ≤ stop) (hstop : stop < positionLimit) :
    readRange (Text.Decimal.write first ++ '-' :: Text.Decimal.write stop) =
      some (first, stop) := by
  have hdash : '-' ∉ Text.Decimal.write first := fun h =>
    absurd (Text.Decimal.isDigit_of_mem_write h) (by decide)
  unfold readRange
  rw [cutAt_eq_some_iff.mpr ⟨rfl, hdash⟩]
  simp [readPosition_write hstop, readPosition_write (Nat.lt_of_le_of_lt hle hstop), hle]

theorem keyOfName_select {first stop : Nat} (hle : first ≤ stop) (hstop : stop < positionLimit) :
    keyOfName (selectWord ++ (Text.Decimal.write first ++ '-' :: Text.Decimal.write stop)) =
      .ok (.select first stop) := by
  have hpaste : dropHead? pasteWord
      (selectWord ++ (Text.Decimal.write first ++ '-' :: Text.Decimal.write stop)) = none := rfl
  unfold keyOfName
  rw [hpaste, dropHead?_eq_some_iff.mpr rfl]
  simp only [readRange_write hle hstop]

/-! ## 3. Reading what was written -/

section Reading

variable (n : Nat) (t : Text)

theorem parseFrom_nil : parseFrom n [] = .ok [] := by
  rw [parseFrom]

theorem parseFrom_doubled :
    parseFrom n ('{' :: '{' :: t) = (parseFrom (n + 2) t).map (.char '{' :: ·) := by
  rw [parseFrom]

theorem parseFrom_plain {c : Char} (hc : c ≠ '{') :
    parseFrom n (c :: t) = (parseFrom (n + 1) t).map (.char c :: ·) := by
  rw [parseFrom]
  · rintro t' rfl
    exact absurd rfl hc
  · exact hc

theorem braced_append (name : Text) : braced name ++ t = '{' :: (name ++ '}' :: t) := by
  simp [braced]

/-- A name in braces is read as its key, or has none. A name that begins with
    an opening brace would be taken for a doubled brace. -/
theorem parseFrom_name {name : Text} (hhead : name.head? ≠ some '{') (hname : '}' ∉ name) :
    parseFrom n (braced name ++ t) =
      match keyOfName name with
      | .error e => .error e
      | .ok k => (parseFrom (n + (braced name).length) t).map (k :: ·) := by
  have hcut : cutAt '}' (name ++ '}' :: t) = some (name, t) :=
    cutAt_eq_some_iff.mpr ⟨rfl, hname⟩
  have hnot : ∀ t', name ++ '}' :: t = '{' :: t' → False := by
    intro t' h
    cases name with
    | nil => exact absurd (List.cons.inj h).1 (by decide)
    | cons c name => exact hhead (congrArg some (List.cons.inj h).1)
  have hlen : n + (braced name).length = n + name.length + 2 := by
    simp [braced]
    omega
  rw [braced_append, hlen, parseFrom.eq_3 n _ hnot]
  split
  · rename_i h
    rw [hcut] at h
    cases h
  · rename_i h
    rw [hcut] at h
    cases h
    rfl

theorem parseFrom_braced {name : Text} {k : Key} (hhead : name.head? ≠ some '{')
    (hname : '}' ∉ name) (hk : keyOfName name = .ok k) :
    parseFrom n (braced name ++ t) = (parseFrom (n + (braced name).length) t).map (k :: ·) := by
  rw [parseFrom_name n t hhead hname, hk]

/-- **How a key is written**: a character as itself, an opening brace doubled;
    any other key as a name in braces that stands for it. -/
theorem writeKey_cases {k : Key} (hk : k.Writable) :
    (∃ c, k = .char c) ∨ ∃ name, writeKey k = braced name ∧ name.head? ≠ some '{' ∧ '}' ∉ name ∧
      keyOfName name = .ok k := by
  cases k with
  | char c => exact Or.inl ⟨c, rfl⟩
  | select first stop =>
    obtain ⟨hle, hstop⟩ := hk
    refine Or.inr ⟨_, rfl, nofun, ?_, keyOfName_select hle hstop⟩
    have hword : '}' ∉ selectWord := by decide
    have hdigits : ∀ n, '}' ∉ Text.Decimal.write n := fun n h =>
      absurd (Text.Decimal.isDigit_of_mem_write h) (by decide)
    simp only [List.mem_append, List.mem_cons, hword, hdigits, false_or, or_false]
    decide
  | paste text =>
    refine Or.inr ⟨_, rfl, nofun, ?_, keyOfName_paste text⟩
    have hword : '}' ∉ pasteWord := by decide
    rw [List.mem_append]
    exact not_or.mpr ⟨hword, hk⟩
  | backspace | delete | left | right | home | toEnd | cut =>
    exact Or.inr ⟨_, rfl, by decide, by decide, rfl⟩

theorem parseFrom_writeKey_append {k : Key} (hk : k.Writable) :
    parseFrom n (writeKey k ++ t) = (parseFrom (n + (writeKey k).length) t).map (k :: ·) := by
  obtain ⟨c, rfl⟩ | ⟨name, hwrite, hhead, hname, hkey⟩ := writeKey_cases hk
  · by_cases hc : c = '{'
    · subst hc
      exact parseFrom_doubled n t
    · have hwrite : writeKey (.char c) = [c] := if_neg hc
      rw [hwrite]
      exact parseFrom_plain n t hc
  · rw [hwrite, parseFrom_braced n t hhead hname hkey]

theorem parseFrom_write {keys : List Key} (h : ∀ k ∈ keys, k.Writable) :
    parseFrom n (write keys) = .ok keys := by
  induction keys generalizing n with
  | nil => exact parseFrom_nil n
  | cons k keys ih =>
    obtain ⟨hk, hkeys⟩ := List.forall_mem_cons.mp h
    have hwrite : write (k :: keys) = writeKey k ++ write keys := List.flatMap_cons
    rw [hwrite, parseFrom_writeKey_append n (write keys) hk, ih _ hkeys]
    rfl

end Reading

/-! ## 4. Only such keys are read -/

theorem lt_of_readPosition {t : Text} {n : Nat} (h : readPosition t = some n) :
    n < positionLimit := by
  unfold readPosition at h
  obtain ⟨-, hn⟩ := Option.filter_eq_some_iff.mp h
  exact of_decide_eq_true hn

theorem le_and_lt_of_readRange {t : Text} {first stop : Nat}
    (h : readRange t = some (first, stop)) : first ≤ stop ∧ stop < positionLimit := by
  unfold readRange at h
  simp only [Option.bind_eq_bind, Option.bind_eq_some_iff, Option.ite_none_right_eq_some,
    Option.some.injEq, Prod.mk.injEq, Prod.exists] at h
  obtain ⟨_, _, _, a, _, b, hb, hle, rfl, rfl⟩ := h
  exact ⟨hle, lt_of_readPosition hb⟩

theorem writable_of_mem_namedKeys {name : Text} {k : Key} (h : (name, k) ∈ namedKeys) :
    k.Writable := by
  have hall : ∀ x ∈ namedKeys, x.2.Writable := by decide
  exact hall (name, k) h

theorem writable_of_keyOfName {name : Text} {k : Key} (hname : '}' ∉ name)
    (h : keyOfName name = .ok k) : k.Writable := by
  unfold keyOfName at h
  split at h
  · rename_i text htext
    cases h
    rw [dropHead?_eq_some_iff] at htext
    exact fun hm => hname (htext ▸ List.mem_append_right pasteWord hm)
  · split at h
    · split at h
      · rename_i hrange
        cases h
        exact le_and_lt_of_readRange hrange
      · cases h
    · split at h
      · rename_i hlookup
        cases h
        obtain ⟨front, back, hkeys, -⟩ := List.lookup_eq_some_iff.mp hlookup
        exact writable_of_mem_namedKeys (hkeys ▸ List.mem_append_right front List.mem_cons_self)
      · cases h

theorem writable_of_parseFrom {n : Nat} {t : Text} {keys : List Key}
    (h : parseFrom n t = .ok keys) : ∀ k ∈ keys, k.Writable := by
  -- a key read in front of keys that are all writable
  have later {k : Key} {n : Nat} {t : Text} {keys : List Key} (hk : k.Writable)
      (ih : ∀ {keys}, parseFrom n t = .ok keys → ∀ k ∈ keys, k.Writable)
      (h : (parseFrom n t).map (k :: ·) = .ok keys) : ∀ k ∈ keys, k.Writable := by
    obtain ⟨keys, hkeys, rfl⟩ := Result.map_eq_ok_iff.mp h
    exact List.forall_mem_cons.mpr ⟨hk, ih hkeys⟩
  fun_induction parseFrom n t generalizing keys with
  | case1 n =>
    cases h
    exact nofun
  | case2 n t ih => exact later (Key.writable_char '{') ih h
  | case3 n t _ hcut => cases h
  | case4 n t _ name rest hcut e hkey => cases h
  | case5 n t _ name rest hcut key hkey ih =>
    exact later (writable_of_keyOfName (cutAt_eq_some_iff.mp hcut).2 hkey) ih h
  | case6 n c t _ hc ih => exact later (Key.writable_char c) ih h

/-! ## 5. There and back -/

/-- **Scripts and their keys.** Keys that a script can hold are read back as
    they were written. The keys of any script are of this kind, so writing
    them anew and reading that script changes nothing. -/
theorem parse_write (keys : List Key) :
    ((∀ k ∈ keys, k.Writable) → parse (write keys) = .ok keys) ∧
    ∀ script, parse script = .ok keys →
      (∀ k ∈ keys, k.Writable) ∧ parse (write keys) = .ok keys := by
  refine ⟨fun h => parseFrom_write 0 h, fun script hscript => ?_⟩
  have h : ∀ k ∈ keys, k.Writable := writable_of_parseFrom hscript
  exact ⟨h, parseFrom_write 0 h⟩

/-- A doubled brace in front of a named key, a closing brace as a character, a
    brace in pasted text, and a range that is written with less once it was
    read. -/
theorem parse_write_braces :
    let keys : List Key := [.char '{', .left, .char '}', .paste "a\x7bb".toList, .select 1 3]
    let script := "\x7b\x7b\x7bLEFT\x7d\x7d\x7bPASTE:a\x7bb\x7d\x7bSELECT: +01 -3\x7d".toList
    (∀ k ∈ keys, k.Writable) ∧ parse script = .ok keys ∧
    write keys = "\x7b\x7b\x7bLEFT\x7d\x7d\x7bPASTE:a\x7bb\x7d\x7bSELECT:1-3\x7d".toList ∧
    parse (write keys) = .ok keys := by
  intro keys script
  have hkeys : ∀ k ∈ keys, k.Writable := by decide
  have hscript : parse script = .ok keys := by decide +kernel
  have hwrite : write keys =
      "\x7b\x7b\x7bLEFT\x7d\x7d\x7bPASTE:a\x7bb\x7d\x7bSELECT:1-3\x7d".toList := by
    decide +kernel
  obtain ⟨hparse, hagain⟩ := parse_write keys
  exact ⟨(hagain script hscript).1, hscript, hwrite, hparse hkeys⟩

end KeyScript

end InputMask
