/-
# Numbers with 53 binary digits

A `Binary64` is the magnitude of a finite double: `significand · 2 ^ exponent`.
`ofRatio` rounds a quotient of two numbers to the nearest one, ties to the
even significand. `shortest` is the way back: of the decimals that round to a
number, the one with the fewest digits, and of those the nearest.

A decimal literal is read in two rounded steps: its digits and its power of
ten are rounded first, then their product or quotient (`ofScaled`). The result
can differ from the literal's nearest double in the last place.

Key definitions: `Binary64`, `Binary64.ofRatio`, `Binary64.ofScaled`, `Binary64.shortest`.
-/
import Facetry.Decimal

namespace Facetry

/-- The magnitude `significand · 2 ^ exponent`. -/
structure Binary64 where
  significand : Nat
  exponent : Int
  deriving DecidableEq, Repr, Inhabited

namespace Binary64

open Text

/-- The exponent of the smallest positive number. -/
def minExponent : Int := -1074

/-- The largest exponent. -/
def maxExponent : Int := 971

/-- Zero. -/
def zero : Binary64 := ⟨0, minExponent⟩

/-- The quotient rounded to the nearest whole number, a half to the even neighbour. -/
def roundQuotient (num den : Nat) : Nat :=
  let q := num / den
  let twice := 2 * (num % den)
  if twice < den then q
  else if den < twice then q + 1
  else if q % 2 = 0 then q else q + 1

/-- The largest `k` with `2 ^ k ≤ num / den`, for positive `num` and `den`. -/
def binaryOrder (num den : Nat) : Int :=
  let k : Int := (Nat.log2 num : Int) - (Nat.log2 den : Int)
  let fits := if 0 ≤ k then den * Nat.pow 2 k.toNat ≤ num else den ≤ num * Nat.pow 2 (-k).toNat
  if fits then k else k - 1

/-- `num / den` rounded to the nearest number; none if that is beyond the largest one. -/
def ofRatio (num den : Nat) : Option Binary64 :=
  if num = 0 then some zero
  else
    let e := max minExponent (binaryOrder num den - 52)
    let q := if 0 ≤ e then roundQuotient num (den * Nat.pow 2 e.toNat)
      else roundQuotient (num * Nat.pow 2 (-e).toNat) den
    let (q, e) := if q = Nat.pow 2 53 then (Nat.pow 2 52, e + 1) else (q, e)
    if maxExponent < e then none else some ⟨q, e⟩

/-- The number as a quotient of whole numbers. -/
def toRatio (b : Binary64) : Nat × Nat :=
  if 0 ≤ b.exponent then (b.significand * Nat.pow 2 b.exponent.toNat, 1)
  else (b.significand, Nat.pow 2 (-b.exponent).toNat)

/-- The rounded product. -/
def mul (a b : Binary64) : Option Binary64 :=
  let (n, d) := a.toRatio
  let (n', d') := b.toRatio
  ofRatio (n * n') (d * d')

/-- The rounded quotient, for a positive divisor. -/
def div (a b : Binary64) : Option Binary64 :=
  let (n, d) := a.toRatio
  let (n', d') := b.toRatio
  ofRatio (n * d') (d * n')

/-- The power of ten, rounded. -/
def powerOfTen (k : Nat) : Binary64 := (ofRatio (Nat.pow 10 k) 1).getD zero

/-- `b / 10 ^ k`, at most 308 places at a time, each step rounded. -/
def scaleDown (b : Binary64) (k : Nat) : Option Binary64 :=
  if k ≤ 308 then b.div (powerOfTen k)
  else if b.significand = 0 then some b
  else (b.div (powerOfTen 308)).bind fun b' => scaleDown b' (k - 308)
termination_by k
decreasing_by omega

/-- `coefficient · 10 ^ exponent`, rounded as a literal is; none beyond the largest number. -/
def ofScaled (coefficient : Nat) (exponent : Int) : Option Binary64 :=
  (ofRatio coefficient 1).bind fun b =>
    if exponent < 0 then scaleDown b (-exponent).toNat
    else if exponent ≤ 308 then b.mul (powerOfTen exponent.toNat)
    else if b.significand = 0 then some b
    else none

/-- The largest `k` with `10 ^ k ≤ num / den`, for positive `num` and `den`. -/
def decimalOrder (num den : Nat) : Int :=
  if den ≤ num then ((digitsOf (num / den)).length : Int) - 1
  else
    let k := (digitsOf (den / num)).length
    if den ≤ num * Nat.pow 10 (k - 1) then -((k : Int) - 1) else -(k : Int)

/-- The points `(low, high)` of the interval of reals that round to `b`, in units of
`2 ^ (exponent - 2)`, and the number itself in the same unit. -/
def roundingInterval (b : Binary64) : Nat × Nat × Nat :=
  let m := 4 * b.significand
  let low := if b.significand = Nat.pow 2 52 ∧ b.exponent ≠ minExponent then m - 1 else m - 2
  (low, m + 2, m)

/-- The decimal with the digits `x` on the grid `10 ^ k`, if it rounds to `b`. -/
def onGrid (b : Binary64) (k : Int) (x : Nat) : Bool :=
  let (low, high, _) := b.roundingInterval
  let (unitNum, unitDen) : Nat × Nat :=
    if 0 ≤ b.exponent - 2 then (Nat.pow 2 (b.exponent - 2).toNat, 1)
    else (1, Nat.pow 2 (2 - b.exponent).toNat)
  let (gridNum, gridDen) : Nat × Nat :=
    if 0 ≤ k then (Nat.pow 10 k.toNat, 1) else (1, Nat.pow 10 (-k).toNat)
  let v := x * gridNum * unitDen
  let l := low * unitNum * gridDen
  let h := high * unitNum * gridDen
  if b.significand % 2 = 0 then l ≤ v && v ≤ h else l < v && v < h

/-- The shortest decimal among the grids with `count` digits or more, for a positive number:
on each grid its two neighbours are tried, the nearer first, of two equally near the even one. -/
def shortestFrom (b : Binary64) (order : Int) : Nat → Nat → Nat × Int
  | 0, _ => (b.significand, b.exponent)
  | fuel + 1, count =>
    let k : Int := order - (count : Int) + 1
    let (n, d) := b.toRatio
    let (n, d) : Nat × Nat :=
      if 0 ≤ k then (n, d * Nat.pow 10 k.toNat) else (n * Nat.pow 10 (-k).toNat, d)
    let near := roundQuotient n d
    let far := if near = n / d then near + 1 else n / d
    if b.onGrid k near then (near, k)
    else if b.onGrid k far then (far, k)
    else shortestFrom b order fuel (count + 1)

/-- The shortest decimal that rounds to `b`, with the given sign. -/
def shortest (negative : Bool) (b : Binary64) : Decimal :=
  if b.significand = 0 then ⟨negative, 0, 0⟩
  else
    let (n, d) := b.toRatio
    let (coefficient, exponent) := shortestFrom b (decimalOrder n d) 17 1
    Decimal.reduced negative coefficient exponent

end Binary64
end Facetry
