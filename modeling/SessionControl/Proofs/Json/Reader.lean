import SessionControl.Json.Reader
import Mathlib.Tactic.SplitIfs

/-!
# Reading what was written

A text, a number and `null` are read back from the way they are written, wherever a comma or a
closing brace follows; so an object of such members is read back from its whole text.

## Main definitions

- `Json.Follows` — the rest of a text after a member
- `Json.ReadsBack` — a value is read back from what it is written as

## Main statements

- `Json.readString_escape` — a text is read back up to its closing quote
- `Json.numberOf?_toDigits`, `Json.readUnsigned_toDigits` — and so is a number
- `Json.parse?_render_ofMembers` — an object is read back if its members are
-/

namespace SessionControl.Json

open Text (isDecimal digitValue? accumulate? numberOf?)

variable {v : Json} {cs rest : List Char} {fuel : Nat}

/-! ## Strings -/

/-- The escape of a control character stands for the character. -/
theorem unitOf_of_lt (n : Nat) (h : n < 32) :
    (numberOf? 16 ['0', '0', Nat.digitChar (n / 16), Nat.digitChar (n % 16)]).map unitOf =
      some (.char (Char.ofNat n)) := by
  revert n
  decide

theorem readEscape_control {c : Char} (h : c.toNat < 32) (rest : List Char) :
    readEscape ('u' :: '0' :: '0' :: Nat.digitChar (c.toNat / 16) :: Nat.digitChar (c.toNat % 16) ::
      rest) = some (.char c, rest) := by
  have hunit := unitOf_of_lt c.toNat h
  rw [Char.ofNat_toNat, Option.map_eq_some_iff] at hunit
  obtain ⟨n, hn, hchar⟩ := hunit
  rw [readEscape, hn, Option.map_some, hchar]

/-- A character of a text takes one step to read, escaped or not. -/
theorem readUnits_escape (fuel : Nat) (read : List Unit16) (c : Char) (rest : List Char) :
    readUnits (fuel + 1) read (escape c ++ rest) = readUnits fuel (.char c :: read) rest := by
  by_cases hnamed : c ∈ ['\x22', '\\', '\x08', '\x0c', '\n', '\r', '\t']
  · -- Each of these has an escape of its own.
    simp only [List.mem_cons, List.not_mem_nil, or_false] at hnamed
    obtain rfl | rfl | rfl | rfl | rfl | rfl | rfl := hnamed <;> rfl
  · simp only [List.mem_cons, List.not_mem_nil, or_false, not_or] at hnamed
    obtain ⟨hquote, hbackslash, hb, hf, hn, hr, ht⟩ := hnamed
    simp only [escape, hquote, hbackslash, hb, hf, hn, hr, ht, if_false]
    split
    · next hcontrol =>
      simp only [List.cons_append, List.nil_append, readUnits, readEscape_control hcontrol]
      rfl
    · next hplain =>
      simp [readUnits, hquote, hbackslash, hplain]

/-- The characters of a text are read up to its closing quote. -/
theorem readUnits_flatMap_escape (h : cs.length < fuel) (read : List Unit16) (rest : List Char) :
    readUnits fuel read (cs.flatMap escape ++ '\x22' :: rest) =
      some (read.reverse ++ cs.map .char, rest) := by
  induction cs generalizing fuel read with
  | nil =>
    obtain ⟨fuel, rfl⟩ := Nat.exists_eq_add_one_of_ne_zero (Nat.ne_zero_of_lt h)
    simp [readUnits]
  | cons c cs ih =>
    obtain ⟨fuel, rfl⟩ := Nat.exists_eq_add_one_of_ne_zero (Nat.ne_zero_of_lt h)
    rw [List.flatMap_cons, List.append_assoc, readUnits_escape, ih (Nat.lt_of_succ_lt_succ h)]
    simp

theorem joinUnits_map_char (cs : List Char) : joinUnits (cs.map .char) = some cs := by
  induction cs with
  | nil => rfl
  | cons c cs ih => rw [List.map_cons, joinUnits, ih, Option.map_some]

theorem length_le_length_flatMap_escape (cs : List Char) :
    cs.length ≤ (cs.flatMap escape).length := by
  have hescape : ∀ c, 1 ≤ (escape c).length := by
    intro c
    unfold escape
    split_ifs <;> simp
  induction cs with
  | nil => exact Nat.zero_le _
  | cons c cs ih =>
    rw [List.flatMap_cons, List.length_append, List.length_cons]
    have hc := hescape c
    omega

/-- A text is read back up to its closing quote, whatever follows. -/
theorem readString_escape (s : String) (rest : List Char) :
    readString (s.toList.flatMap escape ++ '\x22' :: rest) = some (some s, rest) := by
  have hlen := length_le_length_flatMap_escape s.toList
  rw [readString, readUnits_flatMap_escape (by rw [List.length_append]; omega)]
  simp [joinUnits_map_char]

/-! ## Numbers -/

/-- A digit is read as its distance from zero. -/
theorem digitValue?_of_isDigit {c : Char} (h : c.isDigit = true) :
    digitValue? 10 c = some (c.toNat - '0'.toNat) := by
  have hrange : 48 ≤ c.toNat ∧ c.toNat ≤ 57 := by
    simpa [Char.isDigit, UInt32.le_iff_toNat_le] using h
  simp [digitValue?, hrange]
  omega

theorem accumulate?_of_isDigit (h : ∀ c ∈ cs, c.isDigit = true) (acc : Nat) :
    accumulate? 10 acc cs = some (Nat.ofDigitChars 10 cs acc) := by
  induction cs generalizing acc with
  | nil => rw [accumulate?, Nat.ofDigitChars_nil]
  | cons c cs ih =>
    rw [List.forall_mem_cons] at h
    rw [accumulate?, digitValue?_of_isDigit h.1, Nat.ofDigitChars_cons, Nat.mul_comm 10 acc]
    exact ih h.2 _

theorem isDigit_of_mem_toDigits (n : Nat) : ∀ c ∈ Nat.toDigits 10 n, c.isDigit = true :=
  fun _ hc => Nat.isDigit_of_mem_toDigits (by decide) (Nat.le_refl 10) hc

/-- The digits of a number write the number. -/
theorem numberOf?_toDigits (n : Nat) : numberOf? 10 (Nat.toDigits 10 n) = some n := by
  have hne : (Nat.toDigits 10 n).isEmpty = false := by
    rw [List.isEmpty_eq_false_iff]
    exact Nat.toDigits_ne_nil
  rw [numberOf?, hne, if_neg Bool.false_ne_true, accumulate?_of_isDigit (isDigit_of_mem_toDigits n),
    Nat.ofDigitChars_toDigits (by decide) (Nat.le_refl 10)]

/-- Only zero begins with a zero. -/
theorem head?_toDigits_ne {n : Nat} (h : n ≠ 0) : (Nat.toDigits 10 n).head? ≠ some '0' := by
  induction n using Nat.base_induction 10 (by decide) with
  | single m hm => simpa [Nat.toDigits_of_lt_base hm] using h
  | digit m k hk hm ih =>
    rw [← Nat.toDigits_append_toDigits (by decide) hm hk, List.head?_append]
    have hfirst := ih (Nat.ne_of_gt hm)
    cases hhead : (Nat.toDigits 10 m).head? with
    | none => exact absurd (List.head?_eq_none_iff.mp hhead) Nat.toDigits_ne_nil
    | some c => simpa [hhead] using hfirst

/-- What follows a member of an object: a comma or the closing brace. -/
def Follows (rest : List Char) : Prop :=
  ∃ c cs, rest = c :: cs ∧ (c = ',' ∨ c = '\x7d')

theorem readDigits_toDigits (n : Nat) (h : Follows rest) :
    readDigits (Nat.toDigits 10 n ++ rest) = some (Nat.toDigits 10 n, rest) := by
  have hdecimal : ∀ c ∈ Nat.toDigits 10 n, isDecimal c = true := by
    intro c hc
    rw [isDecimal, digitValue?_of_isDigit (isDigit_of_mem_toDigits n c hc), Option.isSome_some]
  have hrest : rest.takeWhile isDecimal = [] := by
    obtain ⟨c, cs, rfl, rfl | rfl⟩ := h <;> rfl
  have hdigits : (Nat.toDigits 10 n ++ rest).takeWhile isDecimal = Nat.toDigits 10 n := by
    rw [List.takeWhile_append_of_pos hdecimal, hrest, List.append_nil]
  have hne : (Nat.toDigits 10 n).isEmpty = false :=
    List.isEmpty_eq_false_iff.mpr Nat.toDigits_ne_nil
  simp only [readDigits, hdigits, hne, List.drop_left]
  rfl

theorem readWhole_toDigits (n : Nat) (h : Follows rest) :
    readWhole (Nat.toDigits 10 n ++ rest) = some (Nat.toDigits 10 n, rest) := by
  have hzero : ¬((Nat.toDigits 10 n).length > 1 && (Nat.toDigits 10 n).head? == some '0') := by
    rw [Bool.and_eq_true, decide_eq_true_eq, beq_iff_eq]
    rintro ⟨hlen, hhead⟩
    by_cases hn : n = 0
    · rw [hn, Nat.toDigits_zero] at hlen
      exact Nat.lt_irrefl 1 hlen
    · exact head?_toDigits_ne hn hhead
  simp only [readWhole, readDigits_toDigits n h, hzero]
  rfl

/-- A number is read back up to what follows it. -/
theorem readUnsigned_toDigits (n : Nat) (h : Follows rest) :
    readUnsigned (Nat.toDigits 10 n ++ rest) = some (Nat.toDigits 10 n, rest) := by
  have hfraction : readFraction rest = some ([], rest) := by
    obtain ⟨c, cs, rfl, rfl | rfl⟩ := h <;> rfl
  have hexponent : readExponent rest = some ([], rest) := by
    obtain ⟨c, cs, rfl, rfl | rfl⟩ := h <;> rfl
  simp [readUnsigned, readWhole_toDigits n h, hfraction, hexponent]

theorem natural?_natural {n bound : Nat} (h : n < bound) : (natural n).natural? bound = some n := by
  rw [natural, natural?, Nat.toString_eq_ofList_toDigits, String.toList_ofList, numberOf?_toDigits]
  simp [h]

/-! ## Values -/

/-- A value is read back from what it is written as, wherever a member may end. -/
def ReadsBack (v : Json) : Prop :=
  ∀ fuel rest, Follows rest → readValue (fuel + 1) (v.render.toList ++ rest) = some (v, rest)

theorem toList_quote (s : String) (rest : List Char) :
    (quote s).toList ++ rest = '\x22' :: (s.toList.flatMap escape ++ '\x22' :: rest) := by
  simp [quote]

theorem readsBack_null : ReadsBack null := by
  intro fuel rest _
  rfl

theorem readsBack_ofText (s : String) : ReadsBack (ofText s) := by
  intro fuel rest _
  rw [ofText, render, Option.getD_some, toList_quote]
  simp [readValue, skipSpaces, isSpace, readString_escape]

/-- What begins with a digit is a number. -/
theorem readValue_of_isDigit {c : Char} (h : c.isDigit = true) (fuel : Nat) (cs : List Char) :
    readValue (fuel + 1) (c :: cs) =
      (readUnsigned (c :: cs)).map fun (literal, rest) =>
        (.number (String.ofList literal), rest) := by
  have hne : ∀ d : Char, d.isDigit = false → c ≠ d := by
    rintro d hd rfl
    rw [h] at hd
    cases hd
  have hspace : skipSpaces (c :: cs) = c :: cs := by
    rw [skipSpaces, List.dropWhile_cons_of_neg]
    simp [isSpace, hne]
  rw [readValue, hspace]
  split
  case h_1 heq => cases heq
  case h_8 =>
    unfold readNumber
    split
    · next heq => exact absurd (List.cons.inj heq).1 (hne _ rfl)
    · rfl
  all_goals
    rename_i heq
    exact absurd (List.cons.inj heq).1 (hne _ rfl)

theorem readsBack_natural (n : Nat) : ReadsBack (natural n) := by
  intro fuel rest hrest
  obtain ⟨c, cs, hdigits⟩ := List.exists_cons_of_ne_nil (Nat.toDigits_ne_nil (b := 10) (n := n))
  have hc : c.isDigit = true := isDigit_of_mem_toDigits n c (by simp [hdigits])
  have hread := readUnsigned_toDigits n hrest
  rw [hdigits] at hread
  rw [natural, render, Nat.toString_eq_ofList_toDigits, String.toList_ofList, hdigits,
    List.cons_append, readValue_of_isDigit hc, ← List.cons_append, hread, Option.map_some]

theorem readsBack_ofOption {o : Option String} : ReadsBack (ofOption ofText o) := by
  cases o with
  | none => exact readsBack_null
  | some s => exact readsBack_ofText s

/-! ## Objects -/

theorem toList_member (name : String) (v : Json) (rest : List Char) :
    (quote name ++ ":" ++ v.render).toList ++ rest =
      '\x22' :: (name.toList.flatMap escape ++ '\x22' :: ':' :: (v.render.toList ++ rest)) := by
  rw [String.append_assoc, String.toList_append, List.append_assoc, toList_quote]
  simp

/-- Up to what follows it a member is read back. -/
theorem readMembers_member (hv : v.ReadsBack) (name : String) (h : Follows rest) :
    readMembers (fuel + 2) ((quote name ++ ":" ++ v.render).toList ++ rest) =
      if rest.head? = some '\x7d' then some ([(some name, v)], rest.tail)
      else (readMembers (fuel + 1) rest.tail).map fun (ms, rest) =>
        ((some name, v) :: ms, rest) := by
  have hvalue := hv fuel rest h
  have hquote : ∀ cs, skipSpaces ('\x22' :: cs) = '\x22' :: cs := fun _ => rfl
  have hcolon : ∀ cs, skipSpaces (':' :: cs) = ':' :: cs := fun _ => rfl
  rw [toList_member, readMembers]
  simp only [hquote, readString_escape, hcolon, hvalue]
  obtain ⟨c, cs, rfl, rfl | rfl⟩ := h <;> rfl

/-- The members of an object, as they stand between the braces. -/
def memberTexts (ms : List (String × Json)) : String :=
  ",".intercalate (renderMembers (ms.map fun m => (some m.1, m.2)))

theorem toList_memberTexts_cons (m : String × Json) (ms : List (String × Json)) :
    (memberTexts (m :: ms)).toList = (quote m.1 ++ ":" ++ m.2.render).toList ++
      if ms.isEmpty then [] else ',' :: (memberTexts ms).toList := by
  cases ms with
  | nil => simp [memberTexts, renderMembers]
  | cons m' ms => simp [memberTexts, renderMembers]

theorem length_le_length_memberTexts (ms : List (String × Json)) :
    ms.length ≤ (memberTexts ms).toList.length := by
  induction ms with
  | nil => exact Nat.zero_le _
  | cons m ms ih =>
    rw [toList_memberTexts_cons, toList_member]
    cases ms with
    | nil => simp
    | cons m' ms =>
      simp only [List.isEmpty_cons, Bool.false_eq_true, if_false, List.length_cons,
        List.length_append] at ih ⊢
      omega

/-- The members of an object are read back, one after another. -/
theorem readMembers_memberTexts {ms : List (String × Json)} (hne : ms ≠ [])
    (hms : ∀ m ∈ ms, m.2.ReadsBack) (hfuel : ms.length < fuel) (rest : List Char) :
    readMembers fuel ((memberTexts ms).toList ++ '\x7d' :: rest) =
      some (ms.map fun m => (some m.1, m.2), rest) := by
  induction ms generalizing fuel with
  | nil => exact absurd rfl hne
  | cons m ms ih =>
    rw [List.forall_mem_cons] at hms
    rw [List.length_cons] at hfuel
    obtain ⟨fuel, rfl⟩ : ∃ k, fuel = k + 2 := ⟨fuel - 2, by omega⟩
    rw [toList_memberTexts_cons, List.append_assoc]
    cases ms with
    | nil => exact readMembers_member hms.1 m.1 ⟨'\x7d', rest, rfl, .inr rfl⟩
    | cons m' ms =>
      have hrest := ih (List.cons_ne_nil m' ms) hms.2 (Nat.lt_of_succ_lt_succ hfuel)
      rw [List.isEmpty_cons, if_neg Bool.false_ne_true, List.cons_append,
        readMembers_member hms.1 m.1 ⟨',', _, rfl, .inl rfl⟩, List.tail_cons, hrest]
      rfl

/-- What begins with a brace and then a quote is an object with members. -/
theorem readValue_brace (fuel : Nat) (cs : List Char) :
    readValue (fuel + 1) ('\x7b' :: '\x22' :: cs) =
      (readMembers fuel ('\x22' :: cs)).map fun (ms, rest) => (.object ms, rest) := by
  rw [readValue]
  rfl

/-- An object whose members are read back is read back from its text. -/
theorem parse?_render_ofMembers {ms : List (String × Json)} (hne : ms ≠ [])
    (hms : ∀ m ∈ ms, m.2.ReadsBack) :
    parse? (ofMembers ms).render = some (ofMembers ms) := by
  have htext : (ofMembers ms).render.toList = '\x7b' :: ((memberTexts ms).toList ++ ['\x7d']) := by
    simp [ofMembers, render, memberTexts]
  obtain ⟨cs, hcs⟩ : ∃ cs, (memberTexts ms).toList ++ ['\x7d'] = '\x22' :: cs := by
    obtain ⟨m, ms, rfl⟩ := List.exists_cons_of_ne_nil hne
    rw [toList_memberTexts_cons, List.append_assoc, toList_member]
    exact ⟨_, rfl⟩
  have hfuel : ms.length < 2 * ('\x7b' :: ((memberTexts ms).toList ++ ['\x7d'])).length + 1 := by
    have hlen := length_le_length_memberTexts ms
    rw [List.length_cons, List.length_append]
    omega
  simp only [parse?, htext, hcs]
  rw [readValue_brace, ← hcs, readMembers_memberTexts hne hms hfuel []]
  rfl

end SessionControl.Json
