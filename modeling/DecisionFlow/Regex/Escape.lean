import DecisionFlow.Regex
import DecisionFlow.Regex.CharClass
import DecisionFlow.Text.Case
import DecisionFlow.Text.Reader

/-!
# Escapes in patterns

- `Modes.filler`: what counts for nothing in a pattern.
- `Primitive`: what an escape stands for.
- `Primitive.escape`: reads an escape.
-/

namespace DecisionFlow

open Text (Reader)

/-- The characters without white space and comments in front; a comment goes on to the end of its
line. -/
def withoutFiller (inComment : Bool) : List Char → List Char
  | [] => []
  | c :: rest =>
    if inComment then withoutFiller (c != '\n') rest
    else if Text.isBlank c then withoutFiller false rest
    else if c == '#' then withoutFiller true rest
    else c :: rest

/-- The characters at the front that pass a test, with filler between them left out,
and the rest. -/
def spacedSpan (verbose inComment : Bool) (accepts : Char → Bool) :
    List Char → List Char × List Char
  | [] => ([], [])
  | c :: rest =>
    if verbose && inComment then spacedSpan verbose (c != '\n') accepts rest
    else if verbose && (Text.isBlank c || c == '#') then spacedSpan verbose (c == '#') accepts rest
    else if accepts c then
      let (taken, left) := spacedSpan verbose false accepts rest
      (c :: taken, left)
    else ([], c :: rest)

namespace Modes

/-- Skips what counts for nothing. -/
def filler (m : Modes) : Reader Unit := do
  if m.verbose then modify (withoutFiller false)

/-- Takes characters that pass a test, skipping filler after each. -/
def takeSpaced (m : Modes) (accepts : Char → Bool) : Reader (List Char) := do
  let (taken, rest) := spacedSpan m.verbose false accepts (← get)
  set rest
  return taken

/-- The start of a text or, in multi-line mode, of a line. -/
def start (m : Modes) : Look := if m.multiLine then .lineStart m.crlf else .textStart

/-- The end of a text or, in multi-line mode, of a line. -/
def finish (m : Modes) : Look := if m.multiLine then .lineEnd m.crlf else .textEnd

/-- A place with regard to words. -/
def word (m : Modes) (place : WordPlace) : Look := .word place m.unicode

/-- The characters that the dot stands for. -/
def dot (m : Modes) : Option CharClass :=
  if !m.unicode then none
  else if m.dotAll then some .full
  else some (Unicode.RangeSet.ofChars (if m.crlf then ['\n', '\r'] else ['\n'])).complement

end Modes

/-- What a character or an escape in a pattern stands for. -/
inductive Primitive where
  /-- A character, which may have been written as a byte of two hexadecimal digits. -/
  | literal (c : Char) (asByte : Bool)
  | charClass (set : CharClass)
  | look (condition : Look)

namespace Primitive

open Text.Reader Unicode

/-- The character of a code in hexadecimal digits. -/
def charOfHex? (digits : List Char) : Option Char :=
  let code := hexValue digits
  if digits.isEmpty then none
  else if h : code.isValidChar then some (Char.ofNatAux code h)
  else none

/-- Whether a character is a hexadecimal digit. -/
def isHex (c : Char) : Bool := (hexDigit? c).isSome

/-- Takes as many hexadecimal digits. -/
def hexDigits (m : Modes) : Nat → Reader (List Char)
  | 0 => return []
  | n + 1 => do
    let c ← next
    guard (isHex c)
    m.filler
    return c :: (← hexDigits m n)

/-- A character by its code: two, four or eight digits by the letter of the escape, or any number of
digits in braces. -/
def hex (m : Modes) (letter : Char) : Reader Primitive := do
  m.filler
  if ← skips '{' then
    m.filler
    let digits ← m.takeSpaced isHex
    expect '}'
    m.filler
    return .literal (← charOfHex? digits) false
  else
    let digits ← hexDigits m (if letter == 'x' then 2 else if letter == 'u' then 4 else 8)
    return .literal (← charOfHex? digits) (letter == 'x')

/-- Cuts a text at the first place where a separator stands. -/
def cut? (separator : List Char) : List Char → Option (List Char × List Char)
  | [] => none
  | c :: rest =>
    if separator.isPrefixOf (c :: rest) then some ([], (c :: rest).drop separator.length)
    else (cut? separator rest).map fun (before, after) => (c :: before, after)

/-- The class that is named in braces, and whether its complement is meant. -/
def propertyIn (name : List Char) : Option (CharClass × Bool) :=
  let valued := fun (property, value) =>
    CharClass.valued? (String.ofList property) (String.ofList value)
  if let some parts := cut? ['!', '='] name then (valued parts).map (·, true)
  else if let some parts := cut? [':'] name then (valued parts).map (·, false)
  else if let some parts := cut? ['='] name then (valued parts).map (·, false)
  else (CharClass.named? (String.ofList name)).map (·, false)

/-- A class by the name of a property: one letter, or any name in braces. -/
def property (m : Modes) (letter : Char) : Reader Primitive := do
  m.filler
  let (set, unequal) ← (do
    if ← skips '{' then
      m.filler
      let name ← m.takeSpaced (· != '}')
      expect '}'
      return (← propertyIn name)
    else
      let c ← next
      guard (c != '\\')
      m.filler
      return ((← CharClass.named? c.toString), false))
  guard m.unicode
  return .charClass (← m.complement ((letter == 'P') != unequal) (m.fold set))

/-- The places of words that are named in braces. -/
def wordPlace? : String → Option WordPlace
  | "start" => some .start
  | "end" => some .finish
  | "start-half" => some .startHalf
  | "end-half" => some .finishHalf
  | _ => none

/-- The characters of the names of word boundaries. -/
def isBoundaryName (c : Char) : Bool := c.isAlpha || c == '-'

/-- A word boundary, which may be named in braces. Braces with anything else in them are left to be
read as a repetition. -/
def wordBoundary (m : Modes) : Reader Primitive := do
  let plain := .look (m.word .boundary)
  let here ← get
  if !(← skips '{') then return plain
  m.filler
  match ← get with
  | [] => failure
  | c :: _ =>
    if !isBoundaryName c then
      set here
      return plain
    let name ← m.takeSpaced isBoundaryName
    expect '}'
    return .look (m.word (← wordPlace? (String.ofList name)))

/-- Reads what follows a backslash. -/
def escape (m : Modes) : Reader Primitive := do
  let c ← next
  if let some set := CharClass.shorthand? m c then return .charClass set
  match c with
  | 'x' | 'u' | 'U' => hex m c
  | 'p' | 'P' => property m c
  | 'a' => return .literal '\x07' false
  | 'f' => return .literal '\x0c' false
  | 't' => return .literal '\t' false
  | 'n' => return .literal '\n' false
  | 'r' => return .literal '\r' false
  | 'v' => return .literal '\x0b' false
  | 'A' => return .look .textStart
  | 'z' => return .look .textEnd
  | 'b' => wordBoundary m
  | 'B' => return .look (m.word .noBoundary)
  | '<' => return .look (m.word .start)
  | '>' => return .look (m.word .finish)
  | c =>
    guard (c.toNat < 128 && !c.isAlphanum)
    return .literal c false

end Primitive

end DecisionFlow
