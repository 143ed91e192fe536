/-
# Sets of characters listed by range

The Unicode properties that the library asks for are tables: a property is the
list of its ranges in increasing order. Where letters alternate between two
cases, a run with a stride of two stands for many ranges of one character.
A case map is a list of such runs, each moved as a whole.

Key definitions: `inRanges`, `Run`, `inRuns`, `Shift`, `shifted`.
-/
namespace Facetry.Text

/-- Whether `n` lies in one of the ranges `(first, last)`, which are listed in increasing order. -/
def inRanges (n : Nat) : List (Nat × Nat) → Bool
  | [] => false
  | (first, last) :: rest => if n < first then false else n ≤ last || inRanges n rest

/-- The numbers `first`, `first + stride`, … up to `last`. -/
structure Run where
  first : Nat
  last : Nat
  stride : Nat

/-- Whether `n` lies on one of the runs, which are listed in increasing order. -/
def inRuns (n : Nat) : List Run → Bool
  | [] => false
  | run :: rest =>
    if n < run.first then false
    else if n ≤ run.last then (n - run.first) % run.stride == 0
    else inRuns n rest

/-- A run that is moved as a whole, its first number to `target`. -/
structure Shift where
  first : Nat
  last : Nat
  stride : Nat
  target : Nat

/-- Where the runs, listed in increasing order, move `n`; a number on no run stays. -/
def shifted (n : Nat) : List Shift → Nat
  | [] => n
  | run :: rest =>
    if n < run.first then n
    else if n ≤ run.last then
      if (n - run.first) % run.stride == 0 then run.target + (n - run.first) else n
    else shifted n rest

/-- The numbers that the runs move to `n`. -/
def preimages (n : Nat) : List Shift → List Nat
  | [] => []
  | run :: rest =>
    if run.target ≤ n && n - run.target ≤ run.last - run.first
        && (n - run.target) % run.stride == 0
    then (run.first + (n - run.target)) :: preimages n rest
    else preimages n rest

end Facetry.Text
