/-
# Patterns and their matches

A pattern is a regular expression over characters with assertions about the
place between two of them. Only whether a text has a match is asked, so of
greedy and lazy repetition one is enough, and a group matches what is in it.

Matching follows all ways at once: `ends` sends a set of places to the set of
places where a match begun there can end. A repetition without bound is
followed until a round adds no place, and so is a long one: after one round
more than the text has characters the places stay the same.

Key definitions: `Pattern`, `Pattern.ends`, `Pattern.matchesIn`.
-/
import Facetry.Pattern.CharSet

namespace Facetry

/-- An assertion about a place in the text. -/
inductive Pattern.Anchor
  | textStart
  | textEnd
  | lineStart (crlf : Bool)
  | lineEnd (crlf : Bool)
  | wordBoundary (word : Pattern.CharSet)
  | notWordBoundary (word : Pattern.CharSet)
  | wordStart (word : Pattern.CharSet)
  | wordEnd (word : Pattern.CharSet)
  | wordStartHalf (word : Pattern.CharSet)
  | wordEndHalf (word : Pattern.CharSet)
  deriving DecidableEq, Repr

/-- A regular expression. Groups are numbered in the order of their opening parentheses. -/
inductive Pattern
  | empty
  | literal (text : List Char)
  | chars (set : Pattern.CharSet)
  | anchor (a : Pattern.Anchor)
  | sequence (p q : Pattern)
  | either (p q : Pattern)
  | repeated (p : Pattern) (least : Nat) (most : Option Nat)
  | group (number : Nat) (p : Pattern)
  deriving DecidableEq, Repr, Inhabited

namespace Pattern

/-- Whether the assertion holds between the character `before` and the character `after`. -/
def Anchor.holds (before after : Option Char) : Anchor → Bool
  | textStart => before.isNone
  | textEnd => after.isNone
  | lineStart false => before.isNone || before == some '\n'
  | lineEnd false => after.isNone || after == some '\n'
  | lineStart true =>
    before.isNone || before == some '\n' || (before == some '\r' && after != some '\n')
  | lineEnd true =>
    after.isNone || after == some '\r' || (after == some '\n' && before != some '\r')
  | wordBoundary w => before.any w.contains != after.any w.contains
  | notWordBoundary w => before.any w.contains == after.any w.contains
  | wordStart w => !before.any w.contains && after.any w.contains
  | wordEnd w => before.any w.contains && !after.any w.contains
  | wordStartHalf w => !before.any w.contains
  | wordEndHalf w => !after.any w.contains

/-! ### Sets of places

A set of places is a list in increasing order. -/

/-- The places of both sets. -/
def merge : List Nat → List Nat → List Nat
  | [], ys => ys
  | x :: xs, [] => x :: xs
  | x :: xs, y :: ys =>
    if x < y then x :: merge xs (y :: ys)
    else if y < x then y :: merge (x :: xs) ys
    else x :: merge xs ys

/-- The places of the first set that are not in the second. -/
def without : List Nat → List Nat → List Nat
  | [], _ => []
  | x :: xs, [] => x :: xs
  | x :: xs, y :: ys =>
    if x < y then x :: without xs (y :: ys)
    else if y < x then without (x :: xs) ys
    else without xs ys

/-- The places after exactly `count` steps. Once a step changes nothing, none will. -/
def iterate (step : List Nat → List Nat) : Nat → List Nat → List Nat
  | 0, places => places
  | count + 1, places =>
    let next := step places
    if next = places then places else iterate step count next

/-- The places that up to `rounds` further steps lead to: those of `found`, and those that steps
from `fresh` add to them. A step is made once from each place, and those of `left` have made it. -/
def reach (step : List Nat → List Nat) : Nat → (left fresh found : List Nat) → List Nat
  | 0, _, _, found => found
  | rounds + 1, left, fresh, found =>
    let next := step fresh
    let left := merge left fresh
    let new := without next left
    if new.isEmpty then merge found next
    else reach step rounds left new (merge found next)

/-- The place after the text `word`, if that text stands at the place. -/
def after? (text : Array Char) : List Char → Nat → Option Nat
  | [], place => some place
  | c :: word, place => if text[place]? = some c then after? text word (place + 1) else none

/-- The places where a match that starts at one of `places` can end. -/
def ends (text : Array Char) : Pattern → List Nat → List Nat
  | empty, places => places
  | literal word, places => places.filterMap (after? text word)
  | chars set, places =>
    places.filterMap fun i => if text[i]?.any set.contains then some (i + 1) else none
  | anchor a, places =>
    places.filter fun i => a.holds (if i = 0 then none else text[i - 1]?) text[i]?
  | sequence p q, places => ends text q (ends text p places)
  | either p q, places => merge (ends text p places) (ends text q places)
  | repeated p least most, places =>
    let rounds := text.size + 1
    match least, most with
    | 0, none => reach (ends text p) rounds [] places places
    | least + 1, none =>
      reach (ends text p) rounds [] (iterate (ends text p) (min least rounds) places) []
    | least, some most =>
      let start := iterate (ends text p) (min least rounds) places
      reach (ends text p) (min (most - least) rounds) [] start start
  | group _ p, places => ends text p places

/-- Whether the pattern matches somewhere in the text. -/
def matchesIn (p : Pattern) (text : String) : Bool :=
  let chars := text.toList.toArray
  !(p.ends chars (List.range (chars.size + 1))).isEmpty

end Pattern
end Facetry
