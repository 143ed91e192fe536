/-
# Characters as bytes

In UTF-8 a character takes one to four bytes. A range of codes splits into
ranges of which each is a product: a character belongs to it if its first byte
lies in one range of bytes, its second byte in another, and so on.

Key definitions: `utf8`, `CharSet.byteRanges`.
-/
import Facetry.Pattern.CharSet

namespace Facetry.Pattern

/-- The bytes of the character with the code `n`. -/
def utf8 (n : Nat) : List Nat :=
  if n < 0x80 then [n]
  else if n < 0x800 then [0xC0 + n / 0x40, 0x80 + n % 0x40]
  else if n < 0x10000 then [0xE0 + n / 0x1000, 0x80 + n / 0x40 % 0x40, 0x80 + n % 0x40]
  else
    [0xF0 + n / 0x40000, 0x80 + n / 0x1000 % 0x40, 0x80 + n / 0x40 % 0x40, 0x80 + n % 0x40]

/-- A range of bytes for each place. -/
abbrev ByteRanges := List (Nat × Nat)

/-- Where a range of codes must be split in blocks of a size: after its first block or before its
last one, if these are not whole. -/
def splitInBlocks? (first last size : Nat) : Option Nat :=
  if first / size = last / size then none
  else if first % size ≠ 0 then some ((first / size + 1) * size)
  else if last % size ≠ size - 1 then some (last / size * size)
  else none

/-- The first code of the second part of a range of codes that is no product. -/
def split? (first last : Nat) : Option Nat :=
  match [0x80, 0x800, 0x10000].find? fun n => first < n && n ≤ last with
  | some n => some n
  | none =>
    if last < 0x80 then none
    else [0x40, 0x1000, 0x40000].findSome? (splitInBlocks? first last)

/-- The products that make up the range of codes, which is split at most `fuel` times over. -/
def productsOf : Nat → Nat → Nat → List ByteRanges
  | 0, _, _ => []
  | fuel + 1, first, last =>
    match split? first last with
    | none => [(utf8 first).zip (utf8 last)]
    | some n => productsOf fuel first (n - 1) ++ productsOf fuel n last

/-- The products that make up the set, in the order of the codes. No part of a range is split more
than nine times over. -/
def CharSet.byteRanges (s : CharSet) : List ByteRanges :=
  s.ranges.flatMap fun r => productsOf 10 r.1 r.2

end Facetry.Pattern
