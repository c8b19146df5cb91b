import DecisionFlow.Json.Parse
import DecisionFlow.Json.Print
import DecisionFlow.Proofs.Text.Runs

/-!
# Numbers that are read back

A number is read as far as its characters go, so it is read alike whatever follows that cannot go on
a number. Whole numbers are read back from the digits that are written for them.

- `Json.Stops`, `Json.stops_readNumber`: reading a number stops where the number ends.
- `Number.ReadsBack`: numbers that are read back from their text.
- `Number.readsBack_int`: whole numbers are.
-/

namespace DecisionFlow.Json

open Text (Ends)

variable {more : List Char} {negative : Bool} {digits : Digits}

/-! ## Where numbers end -/

/-- Whether a character goes on a number. -/
def isNumeral (c : Char) : Bool := isDigit c || c == '.' || c == 'e' || c == 'E'

/-- A reader that reads a text alike in front of whatever does not go on a number. -/
def Stops {α : Type} (read : Reader α) : Prop :=
  ∀ chars a rest more, Ends isNumeral more → read chars = .ok (a, rest) →
    read (chars ++ more) = .ok (a, rest ++ more)

/-- What becomes of a test, if both sides of it carry over. -/
theorem ite_eq_ok_of_imp {α : Type} {p : Prop} [Decidable p]
    {x x' y y' : Except SyntaxError (α × List Char)} {r r' : α × List Char}
    (hx : x = .ok r → x' = .ok r') (hy : y = .ok r → y' = .ok r')
    (h : (if p then x else y) = .ok r) : (if p then x' else y') = .ok r' := by
  by_cases hp : p
  · rw [if_pos hp] at h ⊢
    exact hx h
  · rw [if_neg hp] at h ⊢
    exact hy h

theorem ends_isDigit (h : Ends isNumeral more) : Ends isDigit more :=
  h.mono fun c hc => by simp [isNumeral, hc]

theorem takeDigits_append (h : Ends isDigit more) (coefficient : Nat) (chars : List Char) :
    takeDigits coefficient (chars ++ more)
      = ((takeDigits coefficient chars).1, (takeDigits coefficient chars).2 ++ more) := by
  induction chars generalizing coefficient with
  | nil =>
    cases more with
    | nil => rfl
    | cons c tail =>
      have hc : digit? c = none := by simpa [isDigit] using h c tail rfl
      simp only [List.nil_append, takeDigits, hc]
  | cons c chars ih =>
    rw [List.cons_append, takeDigits, takeDigits]
    cases digit? c with
    | none => rfl
    | some d =>
      dsimp only
      split
      · exact ih _
      · rfl

theorem stops_finishFloat : Stops (finishFloat negative digits) := by
  intro chars n rest more _ h
  rw [finishFloat] at h ⊢
  cases hx : scaled? digits with
  | none =>
    rw [hx] at h
    cases h
  | some x =>
    rw [hx] at h
    cases h
    rfl

theorem stops_readPower {down : Bool} : Stops (readPower negative digits down) := by
  intro chars n rest more hmore h
  cases chars with
  | nil => cases h
  | cons c chars =>
    have htake := (ends_isDigit hmore).takeWhile_append (c :: chars)
    have hdrop := (ends_isDigit hmore).dropWhile_append (c :: chars)
    rw [List.cons_append] at htake hdrop
    simp only [readPower] at h
    simp only [List.cons_append, readPower, htake, hdrop]
    refine ite_eq_ok_of_imp ?noDigit
      (ite_eq_ok_of_imp ?small (ite_eq_ok_of_imp ?tooLarge ?vanishing)) h
    case noDigit | tooLarge => exact fun h => nomatch h
    case small => exact stops_finishFloat _ _ _ _ hmore
    case vanishing =>
      intro h
      cases h
      rfl

theorem stops_readSignedPower : Stops (readSignedPower negative digits) := by
  intro chars n rest more hmore h
  cases chars with
  | nil => cases h
  | cons c chars =>
    rw [List.cons_append]
    by_cases hplus : c = '+'
    · subst hplus
      exact stops_readPower _ _ _ _ hmore h
    by_cases hminus : c = '-'
    · subst hminus
      exact stops_readPower _ _ _ _ hmore h
    · have heq : ∀ tail, readSignedPower negative digits (c :: tail)
          = readPower negative digits false (c :: tail) := by
        intro tail
        simp [readSignedPower, hplus, hminus]
      rw [heq] at h ⊢
      exact stops_readPower _ _ _ _ hmore h

/-- What does not go on a number does not begin an exponent. -/
theorem not_exponent_of_not_numeral {c : Char} (h : isNumeral c = false) :
    (c == 'e' || c == 'E') = false := by
  simp only [isNumeral, Bool.or_eq_false_iff] at h
  rw [h.1.2, h.2]
  rfl

theorem not_point_of_not_numeral {c : Char} (h : isNumeral c = false) : (c == '.') = false := by
  simp only [isNumeral, Bool.or_eq_false_iff] at h
  exact h.1.1.2

/-- An exponent ends where no numeral goes on. -/
theorem stops_readExponent : Stops (readExponent negative digits) := by
  intro chars n rest more hmore h
  cases chars with
  | nil =>
    cases more with
    | nil => rwa [List.append_nil, List.append_nil]
    | cons d more =>
      rw [readExponent] at h
      rw [List.nil_append, readExponent, not_exponent_of_not_numeral (hmore d more rfl),
        if_neg Bool.false_ne_true]
      exact stops_finishFloat _ _ _ _ hmore h
  | cons c chars =>
    rw [readExponent] at h
    rw [List.cons_append, readExponent]
    exact ite_eq_ok_of_imp (stops_readSignedPower _ _ _ _ hmore) (stops_finishFloat _ _ _ _ hmore) h

/-- A fraction ends where no numeral goes on. -/
theorem stops_readFraction : Stops (readFraction negative digits) := by
  intro chars n rest more hmore h
  cases chars with
  | nil => cases h
  | cons c chars =>
    have htake := takeDigits_append (ends_isDigit hmore) digits.coefficient (c :: chars)
    rw [List.cons_append] at htake
    -- What follows counts on both sides of the difference.
    have htaken : (c :: (chars ++ more)).length
          - ((takeDigits digits.coefficient (c :: chars)).2 ++ more).length
        = (c :: chars).length - (takeDigits digits.coefficient (c :: chars)).2.length := by
      rw [← List.cons_append, List.length_append, List.length_append, Nat.add_sub_add_right]
    simp only [readFraction] at h
    simp only [List.cons_append, readFraction, htake, htaken]
    refine ite_eq_ok_of_imp ?noDigit ?digit h
    case noDigit => exact fun h => nomatch h
    case digit =>
      rw [(ends_isDigit hmore).dropWhile_append]
      exact stops_readExponent _ _ _ _ hmore

theorem stops_finishWhole {coefficient : Nat} : Stops (finishWhole negative coefficient) := by
  intro chars n rest more _ h
  simp only [finishWhole] at h ⊢
  cases hvalue : Number.ofInt? (if negative then -(coefficient : Int) else coefficient) with
  | none =>
    rw [hvalue] at h
    cases h
    rfl
  | some whole =>
    rw [hvalue] at h
    refine ite_eq_ok_of_imp (fun h => ?_) (fun h => ?_) h
    · cases h
      rfl
    · cases h
      rfl

/-- What is behind the whole part ends where no numeral goes on. -/
theorem stops_readTail {coefficient : Nat} : Stops (readTail negative coefficient) := by
  intro chars n rest more hmore h
  cases chars with
  | nil =>
    rw [readTail] at h
    cases more with
    | nil => rwa [List.append_nil, List.append_nil]
    | cons d more =>
      have hd := hmore d more rfl
      rw [List.nil_append, readTail, not_point_of_not_numeral hd, if_neg Bool.false_ne_true,
        not_exponent_of_not_numeral hd, if_neg Bool.false_ne_true]
      exact stops_finishWhole _ _ _ _ hmore h
  | cons c chars =>
    rw [readTail] at h
    rw [List.cons_append, readTail]
    refine ite_eq_ok_of_imp (stops_readFraction _ _ _ _ hmore) (ite_eq_ok_of_imp ?_ ?_) h
    · exact stops_readExponent (c :: chars) _ _ _ hmore
    · exact stops_finishWhole (c :: chars) _ _ _ hmore

/-- Whether a digit comes next is told by the numeral. -/
theorem digitNext_append (h : Ends isDigit more) (chars : List Char) :
    digitNext (chars ++ more) = digitNext chars := by
  cases chars with
  | cons c chars => rfl
  | nil =>
    cases more with
    | nil => rfl
    | cons d more => exact h d more rfl

/-- What is behind the digits ends where no numeral goes on. -/
theorem stops_readScale : Stops (readScale negative digits) := by
  intro chars n rest more hmore h
  cases chars with
  | nil =>
    rw [readScale] at h
    cases more with
    | nil => rwa [List.append_nil, List.append_nil]
    | cons d more =>
      rw [List.nil_append, readScale, not_point_of_not_numeral (hmore d more rfl),
        if_neg Bool.false_ne_true]
      exact stops_readExponent _ _ _ _ hmore h
  | cons c chars =>
    rw [readScale] at h
    rw [List.cons_append, readScale]
    exact ite_eq_ok_of_imp (stops_readFraction _ _ _ _ hmore)
      (stops_readExponent (c :: chars) _ _ _ hmore) h

theorem stops_readBeyond {coefficient : Nat} : Stops (readBeyond negative coefficient) := by
  intro chars n rest more hmore h
  rw [readBeyond] at h
  rw [readBeyond, (ends_isDigit hmore).takeWhile_append, (ends_isDigit hmore).dropWhile_append]
  exact stops_readScale _ _ _ _ hmore h

/-- **A number is read alike in front of whatever does not go on it.** -/
theorem stops_readNumber : Stops (readNumber negative) := by
  intro chars n rest more hmore h
  cases chars with
  | nil => cases h
  | cons c chars =>
    have htake := takeDigits_append (ends_isDigit hmore) 0 (c :: chars)
    rw [List.cons_append] at htake
    rw [readNumber] at h
    rw [List.cons_append, readNumber, digitNext_append (ends_isDigit hmore)]
    refine ite_eq_ok_of_imp (ite_eq_ok_of_imp ?leadingZero ?zero)
      (ite_eq_ok_of_imp ?digits ?noDigit) h
    case leadingZero | noDigit => exact fun h => nomatch h
    case zero => exact stops_readTail _ _ _ _ hmore
    case digits =>
      dsimp only
      rw [htake]
      dsimp only
      rw [digitNext_append (ends_isDigit hmore)]
      exact ite_eq_ok_of_imp (stops_readBeyond _ _ _ _ hmore) (stops_readTail _ _ _ _ hmore)

/-! ## Values that are numbers -/

/-- Space in front is skipped no matter what comes later. -/
theorem skipSpace_append {chars : List Char} (h : skipSpace chars ≠ []) :
    skipSpace (chars ++ more) = skipSpace chars ++ more := by
  have hspace : ¬ (chars.dropWhile isSpace).isEmpty = true := by
    rw [List.isEmpty_iff]
    exact h
  rw [skipSpace, List.dropWhile_append, if_neg hspace]
  rfl

/-- What is made of something read was read. -/
theorem map_eq_ok_iff {α β : Type} {x : Except SyntaxError (α × List Char)} {f : α → β}
    {b : β} {rest : List Char} :
    (do let (a, rest) ← x; return (f a, rest)) = .ok (b, rest) ↔
      ∃ a, x = .ok (a, rest) ∧ b = f a := by
  cases x with
  | error e =>
    constructor
    · intro h
      cases h
    · rintro ⟨a, h, -⟩
      cases h
  | ok r =>
    constructor
    · intro h
      cases h
      exact ⟨r.1, rfl, rfl⟩
    · rintro ⟨a, h, rfl⟩
      cases h
      rfl

theorem word_eq_ok {expected chars rest : List Char} {v v' : Value}
    (h : word expected v chars = .ok (v', rest)) : v' = v := by
  induction expected generalizing chars with
  | nil =>
    cases chars <;> cases h <;> rfl
  | cons e expected ih =>
    cases chars with
    | nil => cases h
    | cons c chars =>
      rw [word] at h
      split at h
      · exact ih h
      · cases h

/-- A value that begins with a digit is a number. -/
theorem value_of_isDigit {depth : Nat} {c : Char} {rest : List Char} {chars : List Char}
    (hchars : skipSpace chars = c :: rest) (hc : isDigit c = true) :
    value depth chars = do
      let (n, rest) ← readNumber false (c :: rest)
      return (.number n, rest) := by
  unfold value
  rw [hchars]
  split <;> rename_i heq <;> cases heq
  all_goals first
    | exact absurd hc (by decide)
    | rw [if_pos hc]

/-- Behind a minus comes a negative number. -/
theorem value_of_minus {depth : Nat} {rest chars : List Char}
    (hchars : skipSpace chars = '-' :: rest) :
    value depth chars = do
      let (n, rest) ← readNumber true rest
      return (.number n, rest) := by
  unfold value
  rw [hchars]
  rfl

/-- A number is read as a negative one after a minus sign, or as one that begins with a digit. -/
theorem value_eq_number {depth : Nat} {chars rest : List Char} {n : Number}
    (h : value depth chars = .ok (.number n, rest)) :
    (∃ tail, skipSpace chars = '-' :: tail ∧ readNumber true tail = .ok (n, rest)) ∨
      ∃ c tail, skipSpace chars = c :: tail ∧ isDigit c = true ∧
        readNumber false (c :: tail) = .ok (n, rest) := by
  unfold value at h
  split at h
  -- Words, strings and brackets give values of another kind.
  case h_1 => cases h
  case h_2 | h_3 | h_4 => cases word_eq_ok h
  case h_5 =>
    obtain ⟨s, -, h⟩ := map_eq_ok_iff.mp h
    cases h
  case h_6 | h_7 =>
    split at h
    · cases h
    · obtain ⟨a, -, h⟩ := map_eq_ok_iff.mp h
      cases h
  case h_8 tail hchars =>
    obtain ⟨n, hn, h⟩ := map_eq_ok_iff.mp h
    cases h
    exact .inl ⟨tail, hchars, hn⟩
  case h_9 c tail _ _ _ _ _ _ _ hchars =>
    split at h
    case isFalse => cases h
    case isTrue hc =>
      obtain ⟨n, hn, h⟩ := map_eq_ok_iff.mp h
      cases h
      exact .inr ⟨c, tail, hchars, hc, hn⟩

/-- A number is read wherever it stands, up to the end of its characters. -/
theorem value_number_append {depth depth' : Nat} {chars rest : List Char} {n : Number}
    (h : value depth chars = .ok (.number n, rest)) (hmore : Ends isNumeral more) :
    value depth' (chars ++ more) = .ok (.number n, rest ++ more) := by
  obtain ⟨tail, hchars, hread⟩ | ⟨c, tail, hchars, hc, hread⟩ := value_eq_number h
  · have hspace : skipSpace (chars ++ more) = '-' :: (tail ++ more) := by
      rw [skipSpace_append (by simp [hchars]), hchars, List.cons_append]
    rw [value_of_minus hspace, stops_readNumber _ _ _ _ hmore hread]
    rfl
  · have hspace : skipSpace (chars ++ more) = c :: (tail ++ more) := by
      rw [skipSpace_append (by simp [hchars]), hchars, List.cons_append]
    have hread' := stops_readNumber _ _ _ _ hmore hread
    rw [List.cons_append] at hread'
    rw [value_of_isDigit hspace hc, hread']
    rfl

/-! ## Whole numbers -/

theorem digit?_of_isDigit {c : Char} (h : c.isDigit = true) :
    digit? c = some (c.toNat - '0'.toNat) := by
  simp only [Char.isDigit, Bool.and_eq_true, decide_eq_true_eq] at h
  unfold digit?
  exact if_pos h

theorem isDigit_of_isDigit {c : Char} (h : c.isDigit = true) : isDigit c = true := by
  rw [isDigit, digit?_of_isDigit h]
  rfl

theorem le_ofDigitChars (digits : List Char) (start : Nat) :
    start ≤ Nat.ofDigitChars 10 digits start := by
  induction digits generalizing start with
  | nil => rw [Nat.ofDigitChars_nil]
  | cons c digits ih =>
    rw [Nat.ofDigitChars_cons]
    have hrest := ih (10 * start + (c.toNat - '0'.toNat))
    omega

/-- Digits are taken into the coefficient as long as the number fits 64 bits. -/
theorem takeDigits_eq {digits : List Char} (hdigits : ∀ c ∈ digits, c.isDigit = true)
    (start : Nat) (hfits : Nat.ofDigitChars 10 digits start < 0x10000000000000000) :
    takeDigits start digits = (Nat.ofDigitChars 10 digits start, []) := by
  induction digits generalizing start with
  | nil => rw [takeDigits, Nat.ofDigitChars_nil]
  | cons c digits ih =>
    obtain ⟨hc, hdigits⟩ := List.forall_mem_cons.mp hdigits
    rw [Nat.ofDigitChars_cons] at hfits ⊢
    -- Later digits only make the number larger, so it fits at every digit.
    have hnext := Nat.lt_of_le_of_lt (le_ofDigitChars digits _) hfits
    rw [takeDigits, digit?_of_isDigit hc]
    dsimp only
    rw [if_pos hnext]
    exact ih hdigits _ hfits

/-- The digits of a positive number do not begin with zero. -/
theorem exists_toDigits_eq_cons {k : Nat} (h : 0 < k) :
    ∃ c rest, Nat.toDigits 10 k = c :: rest ∧ c ≠ '0' := by
  induction k using Nat.strongRecOn with
  | ind k ih =>
    by_cases hlt : k < 10
    · refine ⟨k.digitChar, [], Nat.toDigits_of_lt_base hlt, fun hzero => ?_⟩
      have hval := Nat.toNat_digitChar_of_lt_ten hlt
      rw [hzero] at hval
      have hzeroVal : '0'.toNat = 48 := rfl
      omega
    · obtain ⟨c, rest, hcons, hc⟩ := ih (k / 10) (by omega) (by omega)
      refine ⟨c, rest ++ [(k % 10).digitChar], ?_, hc⟩
      rw [Nat.toDigits_of_base_le (by decide) (by omega), hcons, List.cons_append]

/-- Decimal digits are digits. -/
theorem isDigit_of_mem_toDigits {k : Nat} : ∀ c ∈ Nat.toDigits 10 k, c.isDigit = true :=
  fun _ hc => Nat.isDigit_of_mem_toDigits (by decide) (by decide) hc

theorem isDigit_head_toDigits {k : Nat} {c : Char} {rest : List Char}
    (h : Nat.toDigits 10 k = c :: rest) : isDigit c = true :=
  isDigit_of_isDigit (isDigit_of_mem_toDigits (k := k) c (h ▸ List.mem_cons_self))

/-- The digits of a number of 64 bits are read as a whole number. -/
theorem readNumber_toDigits {k : Nat} (h : k < 0x10000000000000000) :
    readNumber negative (Nat.toDigits 10 k) = finishWhole negative k [] := by
  obtain rfl | hpos := Nat.eq_zero_or_pos k
  · rfl
  · have htake := takeDigits_eq (isDigit_of_mem_toDigits (k := k)) 0
      (by rw [Nat.ofDigitChars_ten_toDigits]; exact h)
    rw [Nat.ofDigitChars_ten_toDigits] at htake
    obtain ⟨c, rest, hcons, hc⟩ := exists_toDigits_eq_cons hpos
    have hdigit := isDigit_head_toDigits hcons
    rw [hcons] at htake ⊢
    rw [readNumber, if_neg (by simpa using hc), if_pos hdigit, htake]
    rfl

/-- A whole number within the limits is an integer, unless it is a negated zero. -/
theorem finishWhole_eq_int {k : Nat} {n : Int} (hrange : Number.InRange n)
    (hn : n = if negative then -(k : Int) else k) (hk : ¬ (negative = true ∧ k = 0)) :
    finishWhole negative k [] = .ok (.int n hrange, []) := by
  subst hn
  simp only [finishWhole, Number.ofInt?]
  rw [dif_pos hrange]
  dsimp only
  rw [if_neg hk]

/-- A number does not begin with a bracket. -/
theorem value_number_head {depth : Nat} {chars rest : List Char} {n : Number}
    (h : value depth chars = .ok (.number n, rest)) :
    ∃ c tail, skipSpace chars = c :: tail ∧ c ≠ ']' ∧ c ≠ '}' := by
  obtain ⟨tail, hchars, -⟩ | ⟨c, tail, hchars, hc, -⟩ := value_eq_number h
  · exact ⟨'-', tail, hchars, by decide, by decide⟩
  · refine ⟨c, tail, hchars, ?_, ?_⟩
    · rintro rfl
      exact absurd hc (by decide)
    · rintro rfl
      exact absurd hc (by decide)

end DecisionFlow.Json

namespace DecisionFlow

open Json

/-- A number that is read back from its text. -/
def Number.ReadsBack (n : Number) : Prop := value 0 (numberText n).toList = .ok (.number n, [])

theorem Json.skipSpace_of_isDigit {c : Char} {rest : List Char} (hc : isDigit c = true) :
    skipSpace (c :: rest) = c :: rest := by
  have hspace : ¬ isSpace c = true := by
    intro hspace
    simp only [isSpace, Bool.or_eq_true, beq_iff_eq] at hspace
    obtain ((rfl | rfl) | rfl) | rfl := hspace
    all_goals exact absurd hc (by decide)
  rw [skipSpace, List.dropWhile_cons, if_neg hspace]

/-- **Whole numbers are read back from their digits.** -/
theorem Number.readsBack_int (n : Int) (h : Number.InRange n) : Number.ReadsBack (.int n h) := by
  rw [Number.ReadsBack, numberText, Int.toString_eq_repr]
  cases n with
  | ofNat k =>
    have hk : k < 0x10000000000000000 := by
      have hupper := h.2
      rw [Int.ofNat_eq_natCast] at hupper
      omega
    have hread : readNumber false (Nat.toDigits 10 k) = .ok (.int (.ofNat k) h, []) := by
      rw [readNumber_toDigits hk]
      exact finishWhole_eq_int h rfl (by simp)
    rw [Int.repr, Nat.repr_eq_ofList_toDigits, String.toList_ofList]
    obtain ⟨c, rest, hcons⟩ :=
      List.exists_cons_of_ne_nil (Nat.toDigits_ne_nil (n := k) (b := 10))
    have hc := isDigit_head_toDigits hcons
    rw [hcons] at hread ⊢
    rw [value_of_isDigit (skipSpace_of_isDigit hc) hc, hread]
    rfl
  | negSucc k =>
    have hk : k + 1 < 0x10000000000000000 := by
      have hlower := h.1
      omega
    have hread : readNumber true (Nat.toDigits 10 (k + 1)) = .ok (.int (.negSucc k) h, []) := by
      rw [readNumber_toDigits hk]
      exact finishWhole_eq_int h rfl (by simp)
    have htext : (Int.repr (.negSucc k)).toList = '-' :: Nat.toDigits 10 (k + 1) := by
      simp [Int.repr, Nat.repr_eq_ofList_toDigits]
    rw [htext, value_of_minus rfl, hread]
    rfl

end DecisionFlow
