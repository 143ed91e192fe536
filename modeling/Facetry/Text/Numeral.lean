/-
# Whole numbers and their decimal text

A number is written with the digits of ASCII and read from nothing else: at
least one digit, after an optional sign. `readNat?` takes a plus sign only and
`readInt?` either sign; a bound that the number must keep is the reader's to
check.

Key definitions: `digitsOf`, `natText`, `intText`, `readNat?`, `readInt?`, `grouped`.
-/
namespace Facetry.Text

/-- The decimal digits of `n`. -/
def digitsOf (n : Nat) : List Char := Nat.toDigits 10 n

/-- The decimal text of `n`. -/
def natText (n : Nat) : String := String.ofList (digitsOf n)

/-- The decimal text of a number, a minus sign before its digits if it is negative. -/
def intText : Int → String
  | .ofNat n => natText n
  | .negSucc n => "-" ++ natText (n + 1)

/-- The value of a decimal digit. -/
def digitValue (c : Char) : Nat := c.toNat - '0'.toNat

/-- The value of a hexadecimal digit. -/
def hexValue? (c : Char) : Option Nat :=
  if '0' ≤ c ∧ c ≤ '9' then some (c.toNat - '0'.toNat)
  else if 'a' ≤ c ∧ c ≤ 'f' then some (c.toNat - 'a'.toNat + 10)
  else if 'A' ≤ c ∧ c ≤ 'F' then some (c.toNat - 'A'.toNat + 10)
  else none

/-- The number whose decimal digits are `cs`. -/
def ofDigits (cs : List Char) : Nat := cs.foldl (fun n c => 10 * n + digitValue c) 0

/-- The number written as `cs`, which holds digits only and at least one. -/
def digits? (cs : List Char) : Option Nat :=
  if cs.isEmpty || !cs.all Char.isDigit then none else some (ofDigits cs)

/-- The number written as `cs`, with or without a plus sign. -/
def readNat? : List Char → Option Nat
  | '+' :: cs => digits? cs
  | cs => digits? cs

/-- The number written as `cs`, with or without a sign. -/
def readInt? : List Char → Option Int
  | '-' :: cs => (digits? cs).map fun n => -(n : Int)
  | '+' :: cs => (digits? cs).map fun n => (n : Int)
  | cs => (digits? cs).map fun n => (n : Int)

/-- The number below `bound` written as `cs`. -/
def readNatBelow? (bound : Nat) (cs : List Char) : Option Nat :=
  (readNat? cs).filter (· < bound)

/-- Whether a number fits in `bits` bits with a sign. -/
def fitsSigned (bits : Nat) (i : Int) : Bool :=
  -(Nat.pow 2 (bits - 1) : Nat) ≤ i && i < (Nat.pow 2 (bits - 1) : Nat)

/-- The digits with a comma before every third digit from the right, but for the first. -/
def groupDigits : List Char → List Char
  | [] => []
  | c :: cs =>
    if cs.length % 3 = 0 ∧ cs ≠ [] then c :: ',' :: groupDigits cs else c :: groupDigits cs

/-- The decimal text of a number with its thousands grouped by commas. -/
def grouped : Int → String
  | .ofNat n => String.ofList (groupDigits (digitsOf n))
  | .negSucc n => String.ofList ('-' :: groupDigits (digitsOf (n + 1)))

end Facetry.Text
