import DecisionFlow.Unicode.Property
import DecisionFlow.Unicode.Script

/-!
# Breaks in text

The classes of characters that decide where graphemes, words and sentences end.

- `Break.grapheme`, `Break.word`, `Break.sentence`: the classes by their long and their short names.
-/

namespace DecisionFlow.Unicode.Break

open GeneralCategory

/-- The characters of a script by its short name. -/
def script (name : String) : RangeSet :=
  ((Script.named.find? (·.1.head? == some name)).map (·.2)).getD .empty

/-- Characters that end a line alone. -/
def lineEnds : RangeSet := .ofLines ["A D 85 2028-2029"]

/-- The class of one code. -/
def justOne (code : Nat) : RangeSet := .ofCodes [code]

/-! ## Graphemes -/

/-- Characters that extend the grapheme before them. -/
def extend : RangeSet := graphemeExtend.union emojiModifier

/-- Spacing marks that begin a grapheme of their own. -/
def loneMark : RangeSet := .ofLines [
  "102B-102C 1038 1062-1064 1067-106D 1083 1087-108C 108F 109A-109C 1A61 1A63-1A64 AA7B AA7D",
  "11720-11721"]

/-- Spacing marks, and vowels that are written behind a consonant. -/
def spacing : RangeSet :=
  ((spacingMark.union (.ofLines ["E33 EB3"])).diff loneMark).diff extend

/-- Characters that the next one joins. -/
def prepended : RangeSet :=
  prependedConcatenationMark.union (.ofLines [
    "D4E 111C2-111C3 113D1 1193F 11941 11A3A 11A84-11A89 11D46 11F02"])

/-- Characters that are not seen and stand alone. -/
def graphemeControl : RangeSet :=
  (RangeSet.unions [lineSeparator, paragraphSeparator, control, format,
    unassigned.inter defaultIgnorableCodePoint]).diff
    (.unions [.ofLines ["A D 200C-200D"], prepended, extend])

/-- Syllables of Hangul without a final consonant: every 28th one. -/
def openSyllable : RangeSet := .ofCodes ((List.range 399).map fun n => 0xAC00 + 28 * n)

/-- Syllables of Hangul. -/
def syllable : RangeSet := .ofLines ["AC00-D7A3"]

/-- Classes for the ends of graphemes. -/
def grapheme : List (List String × RangeSet) := [
  (["Control", "CN"], graphemeControl),
  (["CR"], justOne 0xD),
  (["Extend", "EX"], extend),
  (["L"], .ofLines ["1100-115F A960-A97C"]),
  (["LF"], justOne 0xA),
  (["LV"], openSyllable),
  (["LVT"], syllable.diff openSyllable),
  (["Prepend", "PP"], prepended),
  (["Regional_Indicator", "RI"], regionalIndicator),
  (["SpacingMark", "SM"], spacing),
  (["T"], .ofLines ["11A8-11FF D7CB-D7FB"]),
  (["V"], .ofLines ["1160-11A7 D7B0-D7C6 16D63 16D67-16D6A"]),
  (["ZWJ"], justOne 0x200D)]

/-! ## Words -/

/-- Characters that belong to the one before them. -/
def attached : RangeSet := .unions [graphemeExtend, spacingMark, emojiModifier]

/-- Letters of Hebrew. -/
def hebrewLetter : RangeSet := (script "Hebr").inter otherLetter

/-- Katakana, and marks that are written with it. -/
def katakana : RangeSet :=
  (script "Kana").union (.ofLines ["3031-3035 309B-309C 30A0 30FC FF70"])

/-- Characters of scripts that put no space between words. -/
def unspaced : RangeSet := .ofLines [
  "E01-E3A E40-E4E E81-E82 E84 E86-E8A E8C-EA3 EA5 EA7-EBD EC0-EC4 EC6 EC8-ECE EDC-EDF",
  "1000-103F 1050-108F 109A-109F 1780-17D3 17D7 17DC-17DD 1950-196D 1970-1974 1980-19AB",
  "19B0-19C9 19DA 19DE-19DF 1A20-1A5E 1A60-1A7C 1AA0-1AAD A9E0-A9EF A9FA-A9FE AA60-AAC2",
  "AADB-AADF 11700-1171A 1171D-1172B 1173A-1173B 1173F-11746"]

/-- Characters that count as letters and are not alphabetic. -/
def letterLike : RangeSet := .ofLines [
  "2C2-2C5 2D2-2D7 2DE-2DF 2E5-2EB 2ED 2EF-2FF 55A-55C 55E 58A 5F3 70F A708-A716 A720-A721",
  "A789-A78A AB5B"]

/-- Letters of words. -/
def wordLetter : RangeSet :=
  (alphabetic.union letterLike).diff
    (.unions [ideographic, katakana, unspaced, script "Hira", attached, hebrewLetter])

/-- Marks for numbers, which stand in front of their digits. -/
def numberMark : RangeSet := prependedConcatenationMark.diff (justOne 0x70F)

/-- Classes for the ends of words. -/
def word : List (List String × RangeSet) := [
  (["ALetter", "LE"], wordLetter),
  (["CR"], justOne 0xD),
  (["Double_Quote", "DQ"], justOne 0x22),
  (["Extend"], attached),
  (["ExtendNumLet", "EX"], connectorPunctuation.union (justOne 0x202F)),
  (["Format", "FO"], (format.diff (.ofLines ["200B-200D"])).diff
    (.unions [graphemeExtend, prependedConcatenationMark])),
  (["Hebrew_Letter", "HL"], hebrewLetter),
  (["Katakana", "KA"], katakana),
  (["LF"], justOne 0xA),
  (["MidLetter", "ML"], .ofLines ["3A B7 387 55F 5F4 2027 FE13 FE55 FF1A"]),
  (["MidNum", "MN"], .ofLines [
    "2C 3B 37E 589 60C-60D 66C 7F8 2044 FE10 FE14 FE50 FE54 FF0C FF1B"]),
  (["MidNumLet", "MB"], .ofLines ["2E 2018-2019 2024 FE52 FF07 FF0E"]),
  (["Newline", "NL"], .ofLines ["B-C 85 2028-2029"]),
  (["Numeric", "NU"], .unions [decimalNumber, justOne 0x66B, numberMark]),
  (["Regional_Indicator", "RI"], regionalIndicator),
  (["Single_Quote", "SQ"], justOne 0x27),
  (["WSegSpace"], spaceSeparator.diff (.ofLines ["A0 2007 202F"])),
  (["ZWJ"], justOne 0x200D)]

/-! ## Sentences -/

/-- Marks that belong to the character before them. -/
def trailing : RangeSet := .unions [graphemeExtend, spacingMark, justOne 0x200D]

/-- Small letters. -/
def small : RangeSet :=
  (lowercase.diff graphemeExtend).diff (.ofLines ["10D0-10FA 10FD-10FF"])

/-- Capital letters. -/
def capital : RangeSet :=
  (uppercase.union titlecaseLetter).diff (.ofLines ["1C90-1CBA 1CBD-1CBF"])

/-- Points that may end a sentence or an abbreviation. -/
def point : RangeSet := .ofLines ["2E 2024 FE52 FF0E"]

/-- Brackets and quotation marks. -/
def closing : RangeSet :=
  (RangeSet.unions [openPunctuation, closePunctuation, initialPunctuation, finalPunctuation,
    .ofLines ["22 27 275B-2760 2E00-2E01 2E06-2E08 2E0B 1F676-1F678"]]).diff
    (point.union sentenceTerminal)

/-- Classes for the ends of sentences. -/
def sentence : List (List String × RangeSet) := [
  (["ATerm", "AT"], point),
  (["Close", "CL"], closing),
  (["CR"], justOne 0xD),
  (["Extend", "EX"], trailing),
  (["Format", "FO"], (format.diff (.ofLines ["200C-200D"])).diff (trailing.union numberMark)),
  (["OLetter", "LE"],
    (alphabetic.union (justOne 0x5F3)).diff (.unions [small, capital, trailing])),
  (["LF"], justOne 0xA),
  (["Lower", "LO"], small),
  (["Numeric", "NU"], .unions [decimalNumber, .ofLines ["66B-66C"], numberMark]),
  (["SContinue", "SC"], .ofLines [
    "2C-2D 3A-3B 37E 55D 60C-60D 7F8 1802 1808 2013-2014 3001 FE10-FE11 FE13-FE14 FE31-FE32",
    "FE50-FE51 FE54-FE55 FE58 FE63 FF0C-FF0D FF1A-FF1B FF64"]),
  (["Sep", "SE"], .ofLines ["85 2028-2029"]),
  (["Sp"], whiteSpace.diff lineEnds),
  (["STerm", "ST"], sentenceTerminal.diff point),
  (["Upper", "UP"], capital)]

end DecisionFlow.Unicode.Break
