/-
# Boundaries in text

For the search of boundaries between characters, words and sentences the
standard gives every character a class, which it defines by other properties.
The classes are those of Unicode 16; characters without a class of their own
form none that can be named.

Key definitions: `Segment.grapheme?`, `Segment.word?`, `Segment.sentence?`.
-/
import Facetry.Pattern.Property.Script
import Facetry.Pattern.Property.Trait

namespace Facetry.Pattern.Segment

open CharSet (ofListing unionAll)

/-- The line feed. -/
def lineFeed : CharSet := ofListing "A"

/-- The carriage return. -/
def carriageReturn : CharSet := ofListing "D"

/-- The joiner that leaves no width. -/
def zeroWidthJoiner : CharSet := ofListing "200D"

/-- The format characters that extend nothing. -/
def format : CharSet :=
  (Category.format.set.diff (ofListing "200C-200D")).diff Trait.graphemeExtend

/-- The signs that enclose the digits after them. -/
def numberSigns : CharSet := Trait.prependedConcatenationMark.set.diff (ofListing "70F")

/-- The digits of numbers, with their signs and the decimal separator of Arabic. -/
def digits : CharSet :=
  unionAll [Category.decimalNumber.set, numberSigns, ofListing "66B 19DA"]

/-- Characters that extend the one before them, with those that stand beside it. -/
def extending : CharSet := Trait.graphemeExtend.union Category.spacingMark.set

/-! ### Characters as people see them -/

/-- The syllables of Hangul without a final consonant. -/
def openSyllables : CharSet := ofListing "AC00-D788/1C"

/-- The set of a class for boundaries between characters, by its name in plain form. -/
def grapheme? : String → Option CharSet
  | "cr" => some carriageReturn
  | "lf" => some lineFeed
  | "zwj" => some zeroWidthJoiner
  | "cn" | "control" =>
    let ignored := Category.unassigned.set.inter Trait.defaultIgnorable
    let controls := Trait.ofCategories [.control, .lineSeparator, .paragraphSeparator]
    some ((unionAll [format, controls, ignored]).diff
      (unionAll [lineFeed, carriageReturn, Trait.prependedConcatenationMark.set]))
  | "ex" | "extend" => some (Trait.graphemeExtend.union Trait.emojiModifier.set)
  | "ri" | "regionalindicator" => some Trait.regionalIndicator.set
  | "pp" | "prepend" =>
    some (Trait.prependedConcatenationMark.set.union (ofListing
      "D4E 111C2-111C3 113D1 1193F 11941 11A3A 11A84-11A89 11D46 11F02"))
  | "sm" | "spacingmark" =>
    let other := ofListing "102B-102C 1038 1062-1064 1067-106D 1083 1087-108C 108F 109A-109C 1A61
      1A63-1A64 AA7B AA7D 11720-11721"
    some (((Category.spacingMark.set.union (ofListing "E33 EB3")).diff Trait.graphemeExtend).diff
      other)
  | "l" => some (ofListing "1100-115F A960-A97C")
  | "v" => some (ofListing "1160-11A7 D7B0-D7C6 16D63 16D67-16D6A")
  | "t" => some (ofListing "11A8-11FF D7CB-D7FB")
  | "lv" => some openSyllables
  | "lvt" => some ((ofListing "AC00-D7A3").diff openSyllables)
  | _ => none

/-! ### Words -/

/-- The characters of scripts, by their names. -/
def scripts (names : List String) : CharSet :=
  unionAll (names.filterMap fun n => (Script.named? n).map (·.set))

/-- The characters of Katakana, with those that it shares. -/
def katakana : CharSet :=
  (scripts ["kana"]).union (ofListing "3031-3035 309B-309C 30A0 30FC FF70")

/-- The letters of Hebrew. -/
def hebrew : CharSet := (scripts ["hebr"]).inter Category.otherLetter.set

/-- The letters of words. -/
def wordLetters : CharSet :=
  let added := ofListing "2C2-2C5 2D2-2D7 2DE-2DF 2E5-2EB 2ED 2EF-2FF 55A-55C 55E 58A 5F3 70F
    A708-A716 A720-A721 A789-A78A AB5B"
  let unspaced := scripts ["hira", "thai", "laoo", "mymr", "khmr", "tale", "talu", "lana", "tavt",
    "ahom"]
  (Trait.alphabetic.union added).diff
    (unionAll [Trait.ideographic.set, katakana, hebrew, extending, unspaced])

/-- The set of a class for boundaries between words, by its name in plain form. -/
def word? : String → Option CharSet
  | "cr" => some carriageReturn
  | "lf" => some lineFeed
  | "zwj" => some zeroWidthJoiner
  | "nl" | "newline" => some (ofListing "B-C 85 2028-2029")
  | "dq" | "doublequote" => some (ofListing "22")
  | "sq" | "singlequote" => some (ofListing "27")
  | "extend" =>
    some ((unionAll [extending, Trait.emojiModifier.set]).diff zeroWidthJoiner)
  | "ex" | "extendnumlet" => some (ofListing "5F 202F 203F-2040 2054 FE33-FE34 FE4D-FE4F FF3F")
  | "fo" | "format" =>
    some (format.diff (Trait.prependedConcatenationMark.set.union (ofListing "200B")))
  | "ka" | "katakana" => some katakana
  | "hl" | "hebrewletter" => some hebrew
  | "le" | "aletter" => some wordLetters
  | "mb" | "midnumlet" => some (ofListing "2E 2018-2019 2024 FE52 FF07 FF0E")
  | "ml" | "midletter" => some (ofListing "3A B7 387 55F 5F4 2027 FE13 FE55 FF1A")
  | "mn" | "midnum" =>
    some (ofListing "2C 3B 37E 589 60C-60D 66C 7F8 2044 FE50 FE54 FF0C FF1B")
  | "nu" | "numeric" => some digits
  | "ri" | "regionalindicator" => some Trait.regionalIndicator.set
  | "wsegspace" => some (ofListing "20 1680 2000-2006 2008-200A 205F 3000")
  | _ => none

/-! ### Sentences -/

/-- The full stops, which may also end something smaller. -/
def fullStops : CharSet := ofListing "2E 2024 FE52 FF0E"

/-- The marks that end a sentence. -/
def terminators : CharSet := Trait.sentenceTerminal.set.diff fullStops

/-- The small letters, but for those of Georgian. -/
def small : CharSet :=
  (Trait.lowercase.diff Trait.graphemeExtend).diff (ofListing "10D0-10FA 10FD-10FF")

/-- The capital letters, but for those of Georgian. -/
def capital : CharSet :=
  (Trait.uppercase.union Category.titlecaseLetter.set).diff (ofListing "1C90-1CBA 1CBD-1CBF")

/-- The ends of lines that are neither line feed nor carriage return. -/
def separators : CharSet := ofListing "85 2028-2029"

/-- The set of a class for boundaries between sentences, by its name in plain form. -/
def sentence? : String → Option CharSet
  | "cr" => some carriageReturn
  | "lf" => some lineFeed
  | "ex" | "extend" => some (extending.union zeroWidthJoiner)
  | "se" | "sep" => some separators
  | "fo" | "format" => some (format.diff numberSigns)
  | "sp" => some (Trait.whiteSpace.set.diff (unionAll [separators, lineFeed, carriageReturn]))
  | "lo" | "lower" => some small
  | "up" | "upper" => some capital
  | "le" | "oletter" =>
    some ((Trait.alphabetic.union (ofListing "5F3")).diff (unionAll [small, capital, extending]))
  | "nu" | "numeric" => some (digits.union (ofListing "66C"))
  | "at" | "aterm" => some fullStops
  | "st" | "sterm" => some terminators
  | "sc" | "scontinue" =>
    some (ofListing "2C-2D 3A-3B 37E 55D 60C-60D 7F8 1802 1808 2013-2014 3001 FE10-FE11 FE13-FE14
      FE31-FE32 FE50-FE51 FE54-FE55 FE58 FE63 FF0C-FF0D FF1A-FF1B FF64")
  | "cl" | "close" =>
    let brackets := Trait.ofCategories
      [.openPunctuation, .closePunctuation, .initialPunctuation, .finalPunctuation]
    let quotes := ofListing "22 27 275B-2760 2E00-2E01 2E06-2E08 2E0B 1F676-1F678"
    some ((brackets.union quotes).diff (unionAll [fullStops, terminators]))
  | _ => none

end Facetry.Pattern.Segment
