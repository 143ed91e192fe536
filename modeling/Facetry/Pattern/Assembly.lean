/-
# Patterns put together

Patterns are put together in their plainest form: neighbouring literals are
one literal, a set of one character is a literal, a choice between characters
is a set, and what all alternatives begin with stands before them. A sequence
is a chain to the right of at least two parts that are no sequences and not
empty; alternatives are a chain to the right of patterns that are no
alternatives themselves.

Key definitions: `Pattern.ofSet`, `Pattern.concat`, `Pattern.oneOf`, `Pattern.times`.
-/
import Facetry.Pattern

namespace Facetry.Pattern

/-! ### Lengths -/

/-- The fewest characters that a match takes, if every part of the pattern can match. -/
def minLength? : Pattern → Option Nat
  | empty => some 0
  | literal text => some text.length
  | chars set => if set.isEmpty then none else some 1
  | anchor _ => some 0
  | sequence p q => do return (← p.minLength?) + (← q.minLength?)
  | either p q => do return min (← p.minLength?) (← q.minLength?)
  | repeated p least _ => p.minLength?.map (· * least)
  | group _ p => p.minLength?

/-- The most characters that a match takes, if there is a bound and every part of the pattern can
match. -/
def maxLength? : Pattern → Option Nat
  | empty => some 0
  | literal text => some text.length
  | chars set => if set.isEmpty then none else some 1
  | anchor _ => some 0
  | sequence p q => do return (← p.maxLength?) + (← q.maxLength?)
  | either p q => do return max (← p.maxLength?) (← q.maxLength?)
  | repeated p _ most => do return (← p.maxLength?) * (← most)
  | group _ p => p.maxLength?

/-! ### Sets and repetitions -/

/-- The pattern of one character of the set. -/
def ofSet (set : CharSet) : Pattern :=
  match set.single? with
  | some c => literal [c]
  | none => chars set

/-- The pattern from `least` to `most` times. What takes no characters is needed once at most. -/
def times (p : Pattern) (least : Nat) (most : Option Nat) : Pattern :=
  let (least, most) : Nat × Option Nat :=
    if p.maxLength? == some 0 then (min least 1, some (min (most.getD 1) 1)) else (least, most)
  if most == some 0 then empty
  else if least == 1 && most == some 1 then p
  else repeated p least most

/-! ### Sequences -/

/-- The parts of a sequence. -/
def parts : Pattern → List Pattern
  | empty => []
  | sequence p q => p :: q.parts
  | p => [p]

/-- The parts with neighbouring literals made one. -/
def joinLiterals : List Pattern → List Pattern
  | [] => []
  | literal text :: ps =>
    match joinLiterals ps with
    | literal text' :: ps => literal (text ++ text') :: ps
    | ps => literal text :: ps
  | p :: ps => p :: joinLiterals ps

/-- The sequence of the parts. -/
def chain : List Pattern → Pattern
  | [] => empty
  | [p] => p
  | p :: ps => sequence p (chain ps)

/-- The patterns one after the other. -/
def concat (ps : List Pattern) : Pattern := chain (joinLiterals (ps.flatMap parts))

/-! ### Alternatives -/

/-- The alternatives of a pattern. -/
def alternatives : Pattern → List Pattern
  | either p q => p :: q.alternatives
  | p => [p]

/-- The choice between the alternatives; there is no match if there is none. -/
def choice : List Pattern → Pattern
  | [] => chars .empty
  | [p] => p
  | p :: ps => either p (choice ps)

/-- The only character of a literal. -/
def onlyChar? : Pattern → Option Char
  | literal [c] => some c
  | _ => none

/-- The set of a pattern of one character that is not a literal. -/
def set? : Pattern → Option CharSet
  | chars set => some set
  | _ => none

/-- Whether the pattern is a sequence. -/
def isSequence : Pattern → Bool
  | sequence _ _ => true
  | _ => false

/-- What both lists begin with. -/
def sharedStart : List Pattern → List Pattern → List Pattern
  | p :: ps, q :: qs => if p = q then p :: sharedStart ps qs else []
  | _, _ => []

/-- What all the lists begin with. -/
def startOfAll : List (List Pattern) → List Pattern
  | [] => []
  | [ps] => ps
  | ps :: rest => sharedStart ps (startOfAll rest)

/-- The choice between at least two alternatives, with what they share set before it. Each round
of `fuel` shortens the alternatives. -/
def oneOfAtLeastTwo : Nat → List Pattern → Pattern
  | 0, ps => choice ps
  | fuel + 1, ps =>
    match ps.mapM onlyChar?, ps.mapM set? with
    | some cs, _ => ofSet (.unionAll (cs.map .single))
    | none, some sets => ofSet (.unionAll sets)
    | none, none =>
      let start := startOfAll (ps.map parts)
      if ps.all isSequence && !start.isEmpty then
        let rests := ps.map fun p => concat (p.parts.drop start.length)
        concat (start ++ [oneOfAtLeastTwo fuel (rests.flatMap alternatives)])
      else choice ps

/-- One of the alternatives. -/
def oneOf (ps : List Pattern) : Pattern :=
  match ps.flatMap alternatives with
  | [] => choice []
  | [p] => p
  | ps => oneOfAtLeastTwo (ps.foldr (fun p n => p.parts.length + n) 1) ps

end Facetry.Pattern
