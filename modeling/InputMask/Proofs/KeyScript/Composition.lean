/-
  File:      InputMask/Proofs/KeyScript/Composition.lean
  Subject:   Scripts put one behind the other, and where a fault lies.

  Reading a script stops behind the last key that can be read: at its end, at
  a name that no key has, or at a brace that is never closed. What stands
  behind a script adds to the first and the last of these, and to nothing in
  front of them; so the keys that were read stay, and a fault found later lies
  further on by the length of the text in front.

  * `ReadsAs` -- a text that is the texts of keys, one behind the other;
  * `Stop` -- what stands where reading stops, and what becomes of it there;
  * `parseFrom_append` -- keys in front of other text are read first, and
    `exists_stop`, which takes every script apart in this way;
  * **`parse_append`** -- the keys and the faults of two scripts together, and
    the scripts that end within a name.
-/
import InputMask.Proofs.KeyScript.RoundTrip
namespace InputMask

/-- The same fault of a text that starts some characters further on. -/
def KeyScriptError.moved (m : Nat) : KeyScriptError → KeyScriptError
  | unterminated n => unterminated (m + n)
  | unknownKey name => unknownKey name
  | invalidSelection range => invalidSelection range

/-- Only a brace that is not closed is told by its position. -/
theorem KeyScriptError.moved_of_not {e : KeyScriptError} (h : ∀ n, e ≠ .unterminated n) (m : Nat) :
    e.moved m = e := by
  cases e with
  | unterminated n => exact absurd rfl (h n)
  | unknownKey name => rfl
  | invalidSelection range => rfl

namespace KeyScript

/-! ## 1. Texts of keys -/

/-- A name as a script can hold it: it ends at the first closing brace, and
    one more brace at its start would make a doubled one. -/
structure NameText (name : Text) : Prop where
  head : name.head? ≠ some '{'
  closing : '}' ∉ name

/-- **The text of one key**: a doubled opening brace, another character, or
    the name of the key in braces. -/
inductive KeyText : Text → Key → Prop where
  | doubled : KeyText ['{', '{'] (.char '{')
  | plain {c : Char} (hc : c ≠ '{') : KeyText [c] (.char c)
  | named {name : Text} {k : Key} (hname : NameText name) (hk : keyOfName name = .ok k) :
      KeyText (braced name) k

/-- **A text that reads as keys**: their texts one behind the other. -/
inductive ReadsAs : Text → List Key → Prop where
  | nil : ReadsAs [] []
  | cons {u t : Text} {k : Key} {keys : List Key} (hu : KeyText u k) (h : ReadsAs t keys) :
      ReadsAs (u ++ t) (k :: keys)

/-- **What stands where reading stops**, and what reading gives from there:
    the end of the script, a name that no key has, or an opening brace that is
    never closed, which is told by its position. -/
inductive Stop : Text → (Nat → Except KeyScriptError (List Key)) → Prop where
  | finished : Stop [] fun _ => .ok []
  | misnamed {name : Text} {e : KeyScriptError} (hname : NameText name)
      (he : keyOfName name = .error e) (t : Text) : Stop (braced name ++ t) fun _ => .error e
  | unclosed {t : Text} (ht : NameText t) : Stop ('{' :: t) fun n => .error (.unterminated n)

section Reading

variable {n : Nat} {t u front rest : Text} {k : Key} {keys : List Key}
  {r : Nat → Except KeyScriptError (List Key)}

theorem keyOfName_ne_unterminated (name : Text) (n : Nat) :
    keyOfName name ≠ .error (.unterminated n) := by
  unfold keyOfName
  split
  · exact nofun
  · split
    · split <;> exact nofun
    · split <;> exact nofun

/-- What stands between an opening brace that is not doubled and the first
    closing one is a name. -/
theorem nameText_of_cutAt {name : Text} (hnot : ∀ t', t = '{' :: t' → False)
    (h : cutAt '}' t = some (name, rest)) : t = name ++ '}' :: rest ∧ NameText name := by
  obtain ⟨rfl, hclosing⟩ := cutAt_eq_some_iff.mp h
  refine ⟨rfl, fun hhead => ?_, hclosing⟩
  obtain ⟨name', rfl⟩ := List.head?_eq_some_iff.mp hhead
  exact hnot _ rfl

/-- A brace that is never closed is told by its position. -/
theorem parseFrom_unclosed (n : Nat) (h : NameText t) :
    parseFrom n ('{' :: t) = .error (.unterminated n) := by
  have hnot : ∀ t', t = '{' :: t' → False := by
    rintro t' rfl
    exact h.head rfl
  have hcut : cutAt '}' t = none := cutAt_eq_none_iff.mpr h.closing
  rw [parseFrom.eq_3 n _ hnot]
  split
  · rfl
  · rename_i hsome
    rw [hcut] at hsome
    cases hsome

theorem parseFrom_keyText_append (h : KeyText u k) (n : Nat) (t : Text) :
    parseFrom n (u ++ t) = (parseFrom (n + u.length) t).map (k :: ·) := by
  cases h with
  | doubled => exact parseFrom_doubled n t
  | plain hc => exact parseFrom_plain n t hc
  | named hname hk => exact parseFrom_braced n t hname.head hname.closing hk

/-- **Keys in front of other text are read first.** -/
theorem ReadsAs.parseFrom_append (h : ReadsAs front keys) (n : Nat) (t : Text) :
    parseFrom n (front ++ t) = (parseFrom (n + front.length) t).map (keys ++ ·) := by
  induction h generalizing n with
  | nil => cases hp : parseFrom n t <;> simp [hp, Except.map]
  | @cons u t' k keys hu _ ih =>
    rw [List.append_assoc, parseFrom_keyText_append hu, ih, List.length_append, Nat.add_assoc]
    cases parseFrom (n + (u.length + t'.length)) t <;> rfl

theorem Stop.parseFrom_eq (h : Stop rest r) (n : Nat) : parseFrom n rest = r n := by
  cases h with
  | finished => exact parseFrom_nil n
  | misnamed hname he t => rw [parseFrom_name n t hname.head hname.closing, he]
  | unclosed ht => exact parseFrom_unclosed n ht

/-- **Every script is the texts of keys**, up to where reading stops. -/
theorem exists_stop (script : Text) :
    ∃ front keys rest r, script = front ++ rest ∧ ReadsAs front keys ∧ Stop rest r := by
  -- one more key in front of a script that is taken apart
  have step {u t : Text} {k : Key} (hu : KeyText u k)
      (h : ∃ front keys rest r, t = front ++ rest ∧ ReadsAs front keys ∧ Stop rest r) :
      ∃ front keys rest r, u ++ t = front ++ rest ∧ ReadsAs front keys ∧ Stop rest r := by
    obtain ⟨front, keys, rest, r, rfl, hkeys, hstop⟩ := h
    exact ⟨_, _, rest, r, (List.append_assoc u front rest).symm, .cons hu hkeys, hstop⟩
  obtain ⟨n⟩ : Nonempty Nat := inferInstance
  fun_induction parseFrom n script with
  | case1 n => exact ⟨[], [], [], _, rfl, .nil, .finished⟩
  | case2 n t ih => exact step .doubled ih
  | case3 n t hnot hcut =>
    have hhead : t.head? ≠ some '{' := fun h => by
      obtain ⟨t', rfl⟩ := List.head?_eq_some_iff.mp h
      exact hnot t' rfl
    exact ⟨[], [], _, _, rfl, .nil, .unclosed ⟨hhead, cutAt_eq_none_iff.mp hcut⟩⟩
  | case4 n t hnot name rest hcut e hkey =>
    obtain ⟨rfl, hname⟩ := nameText_of_cutAt hnot hcut
    rw [← braced_append]
    exact ⟨[], [], _, _, rfl, .nil, .misnamed hname hkey rest⟩
  | case5 n t hnot name rest hcut key hkey ih =>
    obtain ⟨rfl, hname⟩ := nameText_of_cutAt hnot hcut
    rw [← braced_append]
    exact step (.named hname hkey) ih
  | case6 n c t _ hc ih => exact step (.plain hc) ih

/-! ## 2. Keys and faults -/

/-- What reading gives further on in a script is the same, but for the
    position of a brace. -/
theorem Stop.add (h : Stop rest r) (m n : Nat) : r (m + n) = (r n).mapError (·.moved m) := by
  cases h with
  | finished => rfl
  | @misnamed name e hname he t =>
    have hmoved : e.moved m = e :=
      KeyScriptError.moved_of_not (fun k hk => keyOfName_ne_unterminated name k (hk ▸ he)) m
    exact congrArg Except.error hmoved.symm
  | unclosed ht => rfl

/-- **Where a script starts** has a say in the positions of its faults and in
    nothing else. -/
theorem parseFrom_add (m n : Nat) (t : Text) :
    parseFrom (m + n) t = (parseFrom n t).mapError (·.moved m) := by
  obtain ⟨front, keys, rest, r, rfl, hkeys, hstop⟩ := exists_stop t
  rw [hkeys.parseFrom_append, hkeys.parseFrom_append, hstop.parseFrom_eq, hstop.parseFrom_eq,
    Nat.add_assoc, hstop.add]
  cases r (n + front.length) <;> rfl

/-- **A script is read as keys** exactly when it is their texts. -/
theorem parse_eq_ok_iff : parse t = .ok keys ↔ ReadsAs t keys := by
  constructor
  · intro h
    obtain ⟨front, keys', rest, r, rfl, hkeys, hstop⟩ := exists_stop t
    unfold parse at h
    rw [hkeys.parseFrom_append, hstop.parseFrom_eq] at h
    cases hstop with
    | finished =>
      cases h
      show ReadsAs (front ++ []) (keys' ++ [])
      rw [List.append_nil, List.append_nil]
      exact hkeys
    | misnamed hname he t => cases h
    | unclosed ht => cases h
  · intro h
    have hread := h.parseFrom_append 0 []
    rw [List.append_nil, parseFrom_nil] at hread
    exact hread.trans (congrArg Except.ok (List.append_nil keys))

/-- **Behind a script that is read** the other one is read, further on. -/
theorem parse_append_of_ok (h : parse front = .ok keys) (t : Text) :
    parse (front ++ t) = ((parse t).mapError (·.moved front.length)).map (keys ++ ·) := by
  have hread := (parse_eq_ok_iff.mp h).parseFrom_append 0 t
  rw [Nat.zero_add, ← Nat.add_zero front.length, parseFrom_add] at hread
  exact hread

/-- **A fault that is not an open brace** is found whatever follows. -/
theorem parse_append_of_fault {e : KeyScriptError} (h : parse front = .error e)
    (he : ∀ n, e ≠ .unterminated n) (t : Text) : parse (front ++ t) = .error e := by
  obtain ⟨front, keys, rest, r, rfl, hkeys, hstop⟩ := exists_stop front
  unfold parse at h ⊢
  rw [hkeys.parseFrom_append, hstop.parseFrom_eq] at h
  cases hstop with
  | finished => cases h
  | misnamed hname hname' rest =>
    cases h
    have hstop := Stop.misnamed hname hname' (rest ++ t)
    rw [List.append_assoc, List.append_assoc, hkeys.parseFrom_append, hstop.parseFrom_eq]
    rfl
  | unclosed ht =>
    cases h
    exact absurd rfl (he _)

/-- **A brace is never closed** where it stands behind keys, is not doubled
    and no closing brace follows. -/
theorem parse_eq_unterminated_iff {n : Nat} :
    parse t = .error (.unterminated n) ↔
      ∃ front keys rest, t = front ++ '{' :: rest ∧ front.length = n ∧ ReadsAs front keys ∧
        NameText rest := by
  constructor
  · intro h
    obtain ⟨front, keys, rest, r, rfl, hkeys, hstop⟩ := exists_stop t
    unfold parse at h
    rw [hkeys.parseFrom_append, hstop.parseFrom_eq] at h
    cases hstop with
    | finished => cases h
    | @misnamed name e hname he t =>
      cases h
      exact absurd he (keyOfName_ne_unterminated name n)
    | unclosed ht =>
      cases h
      exact ⟨front, keys, _, rfl, (Nat.zero_add _).symm, hkeys, ht⟩
  · rintro ⟨front, keys, rest, rfl, rfl, hkeys, hrest⟩
    unfold parse
    rw [hkeys.parseFrom_append, (Stop.unclosed hrest).parseFrom_eq, Nat.zero_add]
    rfl

end Reading

/-! ## 3. Scripts together -/

/-- **Scripts one behind the other.** Where the first is read, its keys stand
    in front of those of the second; a brace that the second does not close
    lies further on by the length of the first, and any other fault of the
    second is the fault of both. A fault of the first other than an open brace
    is found whatever follows. And a brace is told to be open just where it is
    not doubled, no closing brace follows and the text in front is read. -/
theorem parse_append (s t : Text) :
    (∀ keys, parse s = .ok keys →
      (∀ keys', parse t = .ok keys' → parse (s ++ t) = .ok (keys ++ keys')) ∧
      (∀ n, parse t = .error (.unterminated n) →
        parse (s ++ t) = .error (.unterminated (s.length + n))) ∧
      ∀ e, (∀ n, e ≠ .unterminated n) → parse t = .error e → parse (s ++ t) = .error e) ∧
    (∀ e, (∀ n, e ≠ .unterminated n) → parse s = .error e → parse (s ++ t) = .error e) ∧
    ∀ n, parse s = .error (.unterminated n) ↔
      s[n]? = some '{' ∧ s[n + 1]? ≠ some '{' ∧ '}' ∉ s.drop (n + 1) ∧
        ∃ keys, parse (s.take n) = .ok keys := by
  refine ⟨fun keys hs => ?_, fun e he hs => parse_append_of_fault hs he t, fun n => ?_⟩
  · have happend := parse_append_of_ok hs t
    refine ⟨fun keys' ht => ?_, fun n ht => ?_, fun e he ht => ?_⟩
    · rw [happend, ht]
      rfl
    · rw [happend, ht]
      rfl
    · rw [happend, ht]
      exact congrArg Except.error (KeyScriptError.moved_of_not he _)
  · rw [parse_eq_unterminated_iff]
    constructor
    · rintro ⟨front, keys, rest, rfl, rfl, hkeys, hrest⟩
      have hdrop : (front ++ '{' :: rest).drop (front.length + 1) = rest := by simp
      refine ⟨by simp, ?_, ?_, keys, ?_⟩
      · rw [← List.head?_drop, hdrop]
        exact hrest.head
      · rw [hdrop]
        exact hrest.closing
      · rw [List.take_left]
        exact parse_eq_ok_iff.mpr hkeys
    · rintro ⟨hbrace, hdoubled, hclosing, keys, hkeys⟩
      obtain ⟨hlt, hget⟩ := List.getElem?_eq_some_iff.mp hbrace
      have hsplit : s = s.take n ++ '{' :: s.drop (n + 1) := by
        rw [← hget, ← List.drop_eq_getElem_cons hlt, List.take_append_drop]
      rw [← List.head?_drop] at hdoubled
      exact ⟨s.take n, keys, s.drop (n + 1), hsplit, List.length_take_of_le (Nat.le_of_lt hlt),
        parse_eq_ok_iff.mp hkeys, hdoubled, hclosing⟩

/-- A doubled brace and a named key in front of a brace that is not closed, in
    front of a name that no key has, and behind it. -/
theorem parse_append_faults :
    let s := "a\x7b\x7b\x7bLEFT\x7d".toList
    let t := "b\x7bBS".toList
    let u := "c\x7bUP\x7d\x7bBS".toList
    (parse s = .ok [.char 'a', .char '{', .left] ∧ parse t = .error (.unterminated 1) ∧
      parse u = .error (.unknownKey "UP".toList)) ∧
    s.length = 9 ∧ parse (s ++ t) = .error (.unterminated 10) ∧
    parse (s ++ u) = .error (.unknownKey "UP".toList) ∧
    parse (u ++ s) = .error (.unknownKey "UP".toList) := by
  intro s t u
  have hs : parse s = .ok [.char 'a', .char '{', .left] := by decide +kernel
  have ht : parse t = .error (.unterminated 1) := by decide +kernel
  have hu : parse u = .error (.unknownKey "UP".toList) := by decide +kernel
  have hlength : s.length = 9 := by decide
  have hfault : ∀ n, KeyScriptError.unknownKey "UP".toList ≠ .unterminated n := fun n => nofun
  obtain ⟨-, hopen, -⟩ := (parse_append s t).1 _ hs
  obtain ⟨-, -, hsame⟩ := (parse_append s u).1 _ hs
  refine ⟨⟨hs, ht, hu⟩, hlength, ?_, hsame _ hfault hu, (parse_append u s).2.1 _ hfault hu⟩
  have h := hopen 1 ht
  rw [hlength] at h
  exact h

/-- A brace that the first script leaves open may be closed by the second. -/
example : parse "\x7bLE".toList = .error (.unterminated 0) ∧
    parse ("\x7bLE".toList ++ "FT\x7d".toList) = .ok [.left] := by
  decide +kernel

end KeyScript

end InputMask
