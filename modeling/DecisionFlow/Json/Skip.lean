import DecisionFlow.Json.Parse

/-!
# Passing over JSON

A value that nobody asks for is passed over. It has to be well formed, but numbers may be of any
size, brackets may nest to any depth, and halves of surrogate pairs may stand alone.

- `Json.skip`: passes over a value.
-/

namespace DecisionFlow.Json

/-- Passes over the characters of a string after its opening quote, at most `fuel` of them. -/
def skipString : Nat → Reader Unit
  | 0, _ => .error .unexpectedEnd
  | fuel + 1, chars =>
    match chars with
    | [] => .error .unexpectedEnd
    | '"' :: rest => .ok ((), rest)
    | '\\' :: 'u' :: rest => do
      let (_, rest) ← hexEscape rest
      skipString fuel rest
    | '\\' :: rest => do
      let (_, rest) ← escape rest
      skipString fuel rest
    | c :: rest => if c.toNat < 0x20 then .error (.controlCharacter c) else skipString fuel rest

/-- Passes over one or more digits. -/
def skipDigits : Reader Unit
  | [] => .error .unexpectedEnd
  | c :: rest => if isDigit c then .ok ((), rest.dropWhile isDigit) else .error .badNumber

/-- Passes over the exponent of a number, if there is one. -/
def skipExponent : Reader Unit
  | 'e' :: '+' :: rest | 'E' :: '+' :: rest | 'e' :: '-' :: rest | 'E' :: '-' :: rest =>
    skipDigits rest
  | 'e' :: rest | 'E' :: rest => skipDigits rest
  | rest => .ok ((), rest)

/-- Passes over a number without its minus sign. -/
def skipNumber : Reader Unit := fun chars => do
  let (_, rest) ← match chars with
    | '0' :: c :: rest => if isDigit c then .error .badNumber else .ok ((), c :: rest)
    | chars => skipDigits chars
  match rest with
  | '.' :: rest =>
    let (_, rest) ← skipDigits rest
    skipExponent rest
  | rest => skipExponent rest

/-- Passes over exactly the characters of a word. -/
def skipWord (expected : String) : Reader Unit := fun chars => do
  let (_, rest) ← word expected.toList .null chars
  return ((), rest)

/-- Passes over a name, a colon and a value. -/
def skipField (skip : Reader Unit) : Reader Unit := fun chars =>
  match skipSpace chars with
  | '"' :: rest => do
    let (_, rest) ← skipString (rest.length + 1) rest
    match skipSpace rest with
    | ':' :: rest => skip rest
    | c :: _ => throw (.unexpectedCharacter c)
    | [] => throw .unexpectedEnd
  | c :: _ => .error (.unexpectedCharacter c)
  | [] => .error .unexpectedEnd

/-- Passes over a value of at most `fuel` characters. -/
def skip : Nat → Reader Unit
  | 0, _ => .error .unexpectedEnd
  | fuel + 1, chars =>
    match skipSpace chars with
    | [] => .error .unexpectedEnd
    | 'n' :: rest => skipWord "ull" rest
    | 't' :: rest => skipWord "rue" rest
    | 'f' :: rest => skipWord "alse" rest
    | '"' :: rest => skipString (rest.length + 1) rest
    | '[' :: rest => do
      let (_, rest) ← bracketed ']' (skip fuel) rest
      return ((), rest)
    | '{' :: rest => do
      let (_, rest) ← bracketed '}' (skipField (skip fuel)) rest
      return ((), rest)
    | '-' :: rest => skipNumber rest
    | c :: rest =>
      if isDigit c then skipNumber (c :: rest) else .error (.unexpectedCharacter c)

end DecisionFlow.Json
