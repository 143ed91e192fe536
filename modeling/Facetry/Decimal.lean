/-
# Decimal numbers and their text

A `Decimal` is a coefficient with a power of ten, in lowest terms: a number has
one representation. Its text is positional from 0.00001 up to below 10^16, with
at least one place after the point, and scientific outside that range, where a
positive exponent carries its sign.

Key definitions: `Decimal`, `Decimal.text`.
-/
import Facetry.Text.Numeral

namespace Facetry

open Text

/-- The number `± coefficient · 10 ^ exponent`. -/
structure Decimal where
  negative : Bool
  coefficient : Nat
  exponent : Int
  deriving DecidableEq, Repr, Inhabited

namespace Decimal

/-- The number zero. -/
def zero : Decimal := ⟨false, 0, 0⟩

/-- The coefficient without its last zeros, and their number. -/
def stripZeros : Nat → Nat → Nat × Nat
  | 0, n => (n, 0)
  | fuel + 1, n =>
    if n ≠ 0 ∧ n % 10 = 0 then
      let (m, k) := stripZeros fuel (n / 10)
      (m, k + 1)
    else (n, 0)

/-- The number `± coefficient · 10 ^ exponent` in lowest terms. -/
def reduced (negative : Bool) (coefficient : Nat) (exponent : Int) : Decimal :=
  if coefficient = 0 then ⟨negative, 0, 0⟩
  else
    let (m, k) := stripZeros coefficient coefficient
    ⟨negative, m, exponent + k⟩

/-- The text of the absolute value, from the digits of the coefficient and the exponent.
`point` counts the digits before the decimal point. -/
def magnitudeText (digits : List Char) (exponent : Int) : List Char :=
  let point : Int := digits.length + exponent
  if 0 ≤ exponent ∧ point ≤ 16 then
    digits ++ List.replicate exponent.toNat '0' ++ ".0".toList
  else if 0 < point ∧ point ≤ 16 then
    digits.take point.toNat ++ '.' :: digits.drop point.toNat
  else if -5 < point ∧ point ≤ 0 then
    "0.".toList ++ List.replicate (-point).toNat '0' ++ digits
  else
    let mantissa := match digits with
      | [] => []
      | [d] => [d]
      | d :: rest => d :: '.' :: rest
    let power := point - 1
    let sign := if 0 ≤ power then '+' else '-'
    mantissa ++ 'e' :: sign :: digitsOf power.natAbs

/-- The text of the number. -/
def text (d : Decimal) : String :=
  String.ofList ((if d.negative then ['-'] else []) ++
    if d.coefficient = 0 then "0.0".toList else magnitudeText (digitsOf d.coefficient) d.exponent)

end Decimal
end Facetry
