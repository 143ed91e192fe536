/-
# Member sequences

The order of members is given by sequences such as `1.10`, whose components
are compared one by one: as numbers where both are numbers of 64 bits, and as
texts otherwise. A sequence comes before its own continuations.

Key definitions: `Sequence.components`, `Sequence.compare`.
-/
import Facetry.Text.Blank
import Facetry.Text.Cut
import Facetry.Text.Numeral

namespace Facetry.Sequence

open Text

/-- The components of a sequence. -/
def components (s : String) : List (List Char) := cut '.' s.toList

/-- The number that a component stands for, if it is one of 64 bits. -/
def number? (component : List Char) : Option Nat :=
  readNatBelow? (Nat.pow 2 64) (trimChars component)

/-- The order of two components. -/
def compareComponent (a b : List Char) : Ordering :=
  match number? a, number? b with
  | some m, some n => Ord.compare m n
  | _, _ => Ord.compare (String.ofList a) (String.ofList b)

/-- The order of two lists of components. -/
def compareComponents : List (List Char) → List (List Char) → Ordering
  | [], [] => .eq
  | [], _ :: _ => .lt
  | _ :: _, [] => .gt
  | a :: as, b :: bs => (compareComponent a b).then (compareComponents as bs)

/-- The order of two sequences. -/
def compare (a b : String) : Ordering := compareComponents (components a) (components b)

end Facetry.Sequence
