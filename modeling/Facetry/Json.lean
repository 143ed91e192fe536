/-
# JSON values

A value as written: an object is the list of its fields in the order of the
text, and a name may repeat. `canonical` is the value that such a text stands
for: the fields of every object in increasing order of name, and of a repeated
name the last one.

A well-formed text can have parts that stand for no value, such as a number
that is too large. Such a part is `unreadable`: whoever ignores it is not
disturbed, and whoever reads it refuses it.

Numbers are whole numbers from -2^63 up to below 2^64, or decimals; a decimal
is kept as the shortest text that reads back as the same double, so equal
numbers are written the same way.

Key definitions: `Json`, `Json.Number`, `Json.canonical`, `Json.sameAs`.
-/
import Facetry.Decimal
import Facetry.NameMap

namespace Facetry

/-- A number of a JSON text. `negative n` is the number `-n`, for a positive `n`. -/
inductive Json.Number
  | natural (n : Nat)
  | negative (n : Nat)
  | decimal (d : Decimal)
  deriving DecidableEq, Repr, Inhabited

/-- A JSON value, or a part of a text that stands for none. -/
inductive Json
  | unreadable
  | null
  | bool (b : Bool)
  | number (n : Json.Number)
  | string (s : String)
  | array (items : List Json)
  | object (fields : List (String × Json))
  deriving Repr, Inhabited

namespace Json

mutual

/-- Whether two values are equal. -/
def decEq : (a b : Json) → Decidable (a = b)
  | unreadable, unreadable => .isTrue rfl
  | null, null => .isTrue rfl
  | bool a, bool b => if h : a = b then .isTrue (h ▸ rfl) else .isFalse (by simp [h])
  | number a, number b => if h : a = b then .isTrue (h ▸ rfl) else .isFalse (by simp [h])
  | string a, string b => if h : a = b then .isTrue (h ▸ rfl) else .isFalse (by simp [h])
  | array a, array b =>
    match decEqItems a b with
    | .isTrue h => .isTrue (h ▸ rfl)
    | .isFalse h => .isFalse (by simp [h])
  | object a, object b =>
    match decEqFields a b with
    | .isTrue h => .isTrue (h ▸ rfl)
    | .isFalse h => .isFalse (by simp [h])
  | unreadable, null | unreadable, bool _ | unreadable, number _ | unreadable, string _
  | unreadable, array _ | unreadable, object _
  | null, unreadable | bool _, unreadable | number _, unreadable | string _, unreadable
  | array _, unreadable | object _, unreadable
  | null, bool _ | null, number _ | null, string _ | null, array _ | null, object _
  | bool _, null | bool _, number _ | bool _, string _ | bool _, array _ | bool _, object _
  | number _, null | number _, bool _ | number _, string _ | number _, array _
  | number _, object _
  | string _, null | string _, bool _ | string _, number _ | string _, array _
  | string _, object _
  | array _, null | array _, bool _ | array _, number _ | array _, string _
  | array _, object _
  | object _, null | object _, bool _ | object _, number _ | object _, string _
  | object _, array _ => .isFalse (by simp)

/-- Whether two lists of values are equal. -/
def decEqItems : (a b : List Json) → Decidable (a = b)
  | [], [] => .isTrue rfl
  | x :: xs, y :: ys =>
    match decEq x y, decEqItems xs ys with
    | .isTrue h, .isTrue h' => .isTrue (h ▸ h' ▸ rfl)
    | .isFalse h, _ => .isFalse (by simp [h])
    | _, .isFalse h => .isFalse (by simp [h])
  | [], _ :: _ | _ :: _, [] => .isFalse (by simp)

/-- Whether two lists of fields are equal. -/
def decEqFields : (a b : List (String × Json)) → Decidable (a = b)
  | [], [] => .isTrue rfl
  | (n, x) :: xs, (m, y) :: ys =>
    match decEq x y, decEqFields xs ys with
    | .isTrue h, .isTrue h' =>
      if hn : n = m then .isTrue (h ▸ h' ▸ hn ▸ rfl) else .isFalse (by simp [hn])
    | .isFalse h, _ => .isFalse (by simp [h])
    | _, .isFalse h => .isFalse (by simp [h])
  | [], _ :: _ | _ :: _, [] => .isFalse (by simp)

end

instance : DecidableEq Json := decEq

mutual

/-- The value with the fields of every object in order and each name once. -/
def canonical : Json → Json
  | array items => array (canonicalItems items)
  | object fields => object (NameMap.ofList (canonicalFields fields)).entries
  | other => other

/-- Each item in canonical form. -/
def canonicalItems : List Json → List Json
  | [] => []
  | x :: xs => x.canonical :: canonicalItems xs

/-- Each field's value in canonical form. -/
def canonicalFields : List (String × Json) → List (String × Json)
  | [] => []
  | (n, x) :: xs => (n, x.canonical) :: canonicalFields xs

end

mutual

/-- Whether every part of the value is readable. -/
def isReadable : Json → Bool
  | unreadable => false
  | array items => areReadableItems items
  | object fields => areReadableFields fields
  | _ => true

/-- Whether every item is readable. -/
def areReadableItems : List Json → Bool
  | [] => true
  | x :: xs => x.isReadable && areReadableItems xs

/-- Whether every field's value is readable. -/
def areReadableFields : List (String × Json) → Bool
  | [] => true
  | (_, x) :: xs => x.isReadable && areReadableFields xs

end

mutual

/-- The value with zero in place of every negative zero. -/
def withoutNegativeZero : Json → Json
  | number (.decimal d) => number (.decimal (if d.coefficient = 0 then .zero else d))
  | array items => array (withoutNegativeZeroItems items)
  | object fields => object (withoutNegativeZeroFields fields)
  | other => other

/-- Each item with zero in place of every negative zero. -/
def withoutNegativeZeroItems : List Json → List Json
  | [] => []
  | x :: xs => x.withoutNegativeZero :: withoutNegativeZeroItems xs

/-- Each field's value with zero in place of every negative zero. -/
def withoutNegativeZeroFields : List (String × Json) → List (String × Json)
  | [] => []
  | (n, x) :: xs => (n, x.withoutNegativeZero) :: withoutNegativeZeroFields xs

end

/-- Whether two canonical values are equal, where the two zeros among the decimals count as
one. -/
def sameAs (a b : Json) : Bool := a.withoutNegativeZero == b.withoutNegativeZero

/-- The whole number `i`. -/
def ofInt : Int → Json
  | .ofNat n => number (.natural n)
  | .negSucc n => number (.negative (n + 1))

/-- The whole number `n`. -/
def ofNat (n : Nat) : Json := number (.natural n)

/-- The list of texts. -/
def ofStrings (xs : List String) : Json := array (xs.map string)

/-- The value, or null for none. -/
def ofOption {α : Type} (f : α → Json) : Option α → Json
  | none => null
  | some a => f a

/-- The text, if the value is a string. -/
def string? : Json → Option String
  | string s => some s
  | _ => none

/-- The truth value, if the value is one. -/
def bool? : Json → Option Bool
  | bool b => some b
  | _ => none

/-- The number, if the value is a whole number from zero on. -/
def nat? : Json → Option Nat
  | number (.natural n) => some n
  | _ => none

/-- The number, if the value is a whole number. -/
def int? : Json → Option Int
  | number (.natural n) => some n
  | number (.negative n) => some (-(n : Int))
  | _ => none

/-- The value of the field, if the value is an object that has it. -/
def field? (name : String) : Json → Option Json
  | object fields => fields.lookup name
  | _ => none

end Json
end Facetry
