import DecisionFlow.Json.Parse
import DecisionFlow.Json.Print

/-!
# Strings that are read back

- `Json.stringBody_escaped`: a character is read back from what is written for it.
- `Json.string_stringChars`: a text is read back from its JSON string.
-/

namespace DecisionFlow.Json

variable {fuel : Nat} {rest : List Char}

/-- What one character of a string leaves to be read. -/
def following (c : Char) (read : Except SyntaxError (List Char × List Char)) :
    Except SyntaxError (List Char × List Char) := do
  let (cs, rest) ← read
  return (c :: cs, rest)

/-- An escape stands for its character. -/
theorem stringBody_escape {c : Char} {chars : List Char} (h : escape chars = .ok (c, rest)) :
    stringBody (fuel + 1) ('\\' :: chars) = following c (stringBody fuel rest) := by
  rw [stringBody, h]
  rfl

/-- Any character but a quote, a backslash and a control character stands for itself. -/
theorem stringBody_literal {c : Char} (hquote : c ≠ '"') (hbackslash : c ≠ '\\')
    (hcontrol : ¬ c.toNat < 0x20) :
    stringBody (fuel + 1) (c :: rest) = following c (stringBody fuel rest) := by
  rw [stringBody]
  · rw [if_neg hcontrol]
    rfl
  · exact hquote
  · exact hbackslash

theorem hexDigit?_hexChar {n : Nat} (h : n < 16) : hexDigit? (hexChar n) = some n := by
  have hall : ∀ n < 16, hexDigit? (hexChar n) = some n := by decide
  exact hall n h

/-- A control character is read back from its code. -/
theorem escape_code {c : Char} (h : c.toNat < 0x20) :
    escape ('u' :: '0' :: '0' :: hexChar (c.toNat / 16) :: hexChar (c.toNat % 16) :: rest)
      = .ok (c, rest) := by
  have hhigh := hexDigit?_hexChar (show c.toNat / 16 < 16 by omega)
  have hlow := hexDigit?_hexChar (Nat.mod_lt c.toNat (show 0 < 16 by omega))
  have hzero : hexDigit? '0' = some 0 := by decide
  have hcode : ((0 * 16 + 0) * 16 + c.toNat / 16) * 16 + c.toNat % 16 = c.toNat := by omega
  have hhex : hexEscape ('0' :: '0' :: hexChar (c.toNat / 16) :: hexChar (c.toNat % 16) :: rest)
      = .ok (c.toNat, rest) := by
    simp only [hexEscape, hzero, hhigh, hlow, hcode]
  have hlone : ¬ (0xDC00 ≤ c.toNat ∧ c.toNat ≤ 0xDFFF) := by omega
  have hpair : c.toNat < 0xD800 ∨ 0xDBFF < c.toNat := by omega
  show unicodeEscape _ = _
  rw [unicodeEscape, hhex]
  simp only [bind, Except.bind, if_neg hlone, if_pos hpair, pure, Except.pure, Char.ofNat_toNat]

/-- **A character is read back from what is written for it.** -/
theorem stringBody_escaped (c : Char) :
    stringBody (fuel + 1) (escaped c ++ rest) = following c (stringBody fuel rest) := by
  unfold escaped
  split
  -- The last case has the characters without an escape of two characters of their own.
  case h_8 hquote hbackslash _ _ _ _ _ =>
    split
    case isTrue hcontrol => exact stringBody_escape (escape_code hcontrol)
    case isFalse hcontrol => exact stringBody_literal hquote hbackslash hcontrol
  all_goals exact stringBody_escape rfl

/-- Escaped characters are read back up to the closing quote. -/
theorem stringBody_flatMap (chars : List Char) (h : chars.length < fuel) :
    stringBody fuel (chars.flatMap escaped ++ '"' :: rest) = .ok (chars, rest) := by
  induction chars generalizing fuel with
  | nil =>
    obtain ⟨fuel, rfl⟩ : ∃ k, fuel = k + 1 :=
      ⟨fuel - 1, by rw [List.length_nil] at h; omega⟩
    rw [List.flatMap_nil, List.nil_append, stringBody]
  | cons c chars ih =>
    rw [List.length_cons] at h
    obtain ⟨fuel, rfl⟩ : ∃ k, fuel = k + 1 := ⟨fuel - 1, by omega⟩
    rw [List.flatMap_cons, List.append_assoc, stringBody_escaped, ih (by omega)]
    rfl

theorem escaped_length_pos (c : Char) : 0 < (escaped c).length := by
  unfold escaped
  split
  case h_8 =>
    split
    · exact Nat.zero_lt_succ _
    · exact Nat.zero_lt_succ _
  all_goals exact Nat.zero_lt_succ _

theorem length_le_length_flatMap (chars : List Char) :
    chars.length ≤ (chars.flatMap escaped).length := by
  induction chars with
  | nil => exact Nat.zero_le _
  | cons c chars ih =>
    have hpos := escaped_length_pos c
    rw [List.flatMap_cons, List.length_append, List.length_cons]
    omega

/-- **A text is read back from its string**, whatever follows. -/
theorem string_stringChars (s : String) (rest : List Char) :
    string (s.toList.flatMap escaped ++ '"' :: rest) = .ok (s, rest) := by
  have hlength := length_le_length_flatMap s.toList
  have hfuel : s.toList.length < (s.toList.flatMap escaped ++ '"' :: rest).length + 1 := by
    rw [List.length_append]
    omega
  rw [string, stringBody_flatMap s.toList hfuel]
  show Except.ok (String.ofList s.toList, rest) = _
  rw [String.ofList_toList]

end DecisionFlow.Json
