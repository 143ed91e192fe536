/-
# Sets of characters in patterns

A set is the list of its ranges of codes, in increasing order, where no two
ranges touch; so a set has one representation. Surrogates are in no set.

The tables of the Unicode properties are written as text, a word for each
range: `41` is one code, `41-5A` a range, and `100-136/2` every second code of
a range, all in hexadecimal.

Key definitions: `CharSet`, `CharSet.contains`, `CharSet.ofRanges`,
`CharSet.compl`, `CharSet.ofListing`.
-/
import Facetry.Text.Numeral
import Facetry.Text.Ranges

namespace Facetry.Pattern

/-- A set of characters. -/
structure CharSet where
  ranges : List (Nat × Nat)
  deriving DecidableEq, Repr, Inhabited

namespace CharSet

/-- The set of no character. -/
def empty : CharSet := ⟨[]⟩

/-- Whether the character with the code belongs to the set. -/
def containsCode (s : CharSet) (n : Nat) : Bool := Text.inRanges n s.ranges

/-- Whether `c` belongs to the set. -/
def contains (s : CharSet) (c : Char) : Bool := s.containsCode c.toNat

/-- Whether the set holds no character. -/
def isEmpty (s : CharSet) : Bool := s.ranges.isEmpty

/-- The only character of the set, if there is just one. -/
def single? (s : CharSet) : Option Char :=
  match s.ranges with
  | [(first, last)] => if first = last then some (Char.ofNat first) else none
  | _ => none

/-! ### Operations -/

/-- The ranges, which are in increasing order, with those joined that touch. -/
def join : List (Nat × Nat) → List (Nat × Nat)
  | [] => []
  | [range] => [range]
  | (a, b) :: (c, d) :: rest =>
    if c ≤ b + 1 then join ((a, max b d) :: rest) else (a, b) :: join ((c, d) :: rest)
termination_by ranges => ranges.length

/-- The parts of a range outside the surrogates. -/
def withoutSurrogates (range : Nat × Nat) : List (Nat × Nat) :=
  let (first, last) := range
  [(first, min last 0xD7FF), (max first 0xE000, last)].filter fun r => r.1 ≤ r.2

/-- The union of the ranges. -/
def ofRanges (ranges : List (Nat × Nat)) : CharSet :=
  ⟨join ((ranges.flatMap withoutSurrogates).mergeSort fun r s => r.1 ≤ s.1)⟩

/-- The codes from `first` to `last`. -/
def range (first last : Nat) : CharSet := ofRanges [(first, last)]

/-- The set of one character. -/
def single (c : Char) : CharSet := ⟨[(c.toNat, c.toNat)]⟩

/-- The set of all characters. -/
def all : CharSet := range 0 0x10FFFF

/-- The characters of either set. -/
def union (s t : CharSet) : CharSet := ⟨join (s.ranges.merge t.ranges fun r s => r.1 ≤ s.1)⟩

/-- The characters of any of the sets. -/
def unionAll (sets : List CharSet) : CharSet := ofRanges (sets.flatMap (·.ranges))

/-- The codes from `start` on that lie in none of the ranges, which are in increasing order. -/
def gaps (start : Nat) : List (Nat × Nat) → List (Nat × Nat)
  | [] => if start ≤ 0x10FFFF then [(start, 0x10FFFF)] else []
  | (first, last) :: rest =>
    if start < first then (start, first - 1) :: gaps (last + 1) rest else gaps (last + 1) rest

/-- The characters that are not in the set. -/
def compl (s : CharSet) : CharSet := ⟨(gaps 0 s.ranges).flatMap withoutSurrogates⟩

/-- The characters of both sets. -/
def inter (s t : CharSet) : CharSet := (s.compl.union t.compl).compl

/-- The characters of the first set that are not in the second. -/
def diff (s t : CharSet) : CharSet := s.inter t.compl

/-- The characters of one of the sets only. -/
def symmDiff (s t : CharSet) : CharSet := (s.diff t).union (t.diff s)

/-! ### Listings -/

/-- The parts of a text between the separators. -/
def splitAt (separator : Char) (cs : List Char) : List (List Char) :=
  let (part, parts) := cs.foldr (fun c (part, parts) =>
    if c == separator then ([], part :: parts) else (c :: part, parts)) ([], [])
  part :: parts

/-- The words of a listing. -/
def words (listing : String) : List (List Char) :=
  (splitAt ' ' (listing.toList.map fun c => if c == '\n' then ' ' else c)).filter (!·.isEmpty)

/-- The code written in hexadecimal. -/
def codeOf (digits : List Char) : Nat :=
  digits.foldl (fun n c => 16 * n + (Text.hexValue? c).getD 0) 0

/-- The ranges that a word of a listing stands for. -/
def rangesOf (word : List Char) : List (Nat × Nat) :=
  match splitAt '-' word with
  | [first] => [(codeOf first, codeOf first)]
  | [first, last] =>
    match splitAt '/' last with
    | [last, stride] =>
      let stride := codeOf stride
      (List.range ((codeOf last - codeOf first) / stride + 1)).map fun i =>
        (codeOf first + i * stride, codeOf first + i * stride)
    | _ => [(codeOf first, codeOf last)]
  | _ => []

/-- The set with a listing. -/
def ofListing (listing : String) : CharSet := ofRanges ((words listing).flatMap rangesOf)

/-! ### Sets of ASCII -/

/-- The decimal digits. -/
def asciiDigits : CharSet := ofListing "30-39"

/-- The white space. -/
def asciiBlanks : CharSet := ofListing "9-D 20"

/-- The word characters. -/
def asciiWord : CharSet := ofListing "30-39 41-5A 5F 61-7A"

/-- The set with a bracketed POSIX name such as `alpha`. -/
def ofPosixName? : String → Option CharSet
  | "alnum" => some (ofListing "30-39 41-5A 61-7A")
  | "alpha" => some (ofListing "41-5A 61-7A")
  | "ascii" => some (ofListing "0-7F")
  | "blank" => some (ofListing "9 20")
  | "cntrl" => some (ofListing "0-1F 7F")
  | "digit" => some asciiDigits
  | "graph" => some (ofListing "21-7E")
  | "lower" => some (ofListing "61-7A")
  | "print" => some (ofListing "20-7E")
  | "punct" => some (ofListing "21-2F 3A-40 5B-60 7B-7E")
  | "space" => some asciiBlanks
  | "upper" => some (ofListing "41-5A")
  | "word" => some asciiWord
  | "xdigit" => some (ofListing "30-39 41-46 61-66")
  | _ => none

end CharSet
end Facetry.Pattern
