/-
# Reading JSON

A text is cut into tokens, and the tokens are folded into a value with a stack
of the arrays and objects that are still open. Both passes consume their input
from the left, so both end.

A number with more digits than fit in 64 bits keeps the leading ones that do.
Unreadable are a number beyond the largest double, a string with half of a pair
of surrogates, an object with such a name, and an array or object inside 127
others.

Key definitions: `Json.Number.ofLiteral`, `Json.tokens?`, `Json.parse?`.
-/
import Facetry.Json
import Facetry.Decimal.Binary64

namespace Facetry
namespace Json

open Text

/-! ### Numbers -/

/-- The largest number of 64 bits. -/
def maxWord : Nat := Nat.pow 2 64 - 1

/-- Appends digits to `n` while the result fits in 64 bits; also the digits left over. -/
def appendDigits (n : Nat) : List Char → Nat × List Char
  | [] => (n, [])
  | c :: cs =>
    if 10 * n + digitValue c ≤ maxWord then appendDigits (10 * n + digitValue c) cs
    else (n, c :: cs)

/-- The parts of a number's text: sign, digits before and after the point, and the power of ten.
The fraction is missing, not empty, where there is no point. -/
structure Number.Literal where
  negative : Bool
  whole : List Char
  fraction : Option (List Char)
  power : Option Int

/-- The sign and the digits of a power of ten. -/
def powerOf? (cs : List Char) : Option Int :=
  let (negative, digits) : Bool × List Char :=
    match cs with
    | '-' :: rest => (true, rest)
    | '+' :: rest => (false, rest)
    | rest => (false, rest)
  if digits.isEmpty || !digits.all Char.isDigit then none
  else some (if negative then -(ofDigits digits : Int) else ofDigits digits)

/-- The parts of a number's text, if it is one: no zero leads other digits, and digits follow a
point and an exponent mark. -/
def Number.literal? (cs : List Char) : Option Number.Literal :=
  let (minus, cs) : Bool × List Char :=
    match cs with
    | '-' :: rest => (true, rest)
    | rest => (false, rest)
  let whole := cs.takeWhile Char.isDigit
  let rest := cs.dropWhile Char.isDigit
  let (fraction, rest) : Option (List Char) × List Char :=
    match rest with
    | '.' :: rest => (some (rest.takeWhile Char.isDigit), rest.dropWhile Char.isDigit)
    | rest => (none, rest)
  if whole.isEmpty || (whole.head? == some '0' && whole.length != 1) || fraction == some [] then
    none
  else
    match rest with
    | [] => some ⟨minus, whole, fraction, none⟩
    | mark :: rest =>
      if mark == 'e' || mark == 'E' then
        (powerOf? rest).map fun power => ⟨minus, whole, fraction, some power⟩
      else none

/-- The double with the given leading digits and power of ten, as the shortest decimal. -/
def Number.scaled (negative : Bool) (coefficient : Nat) (exponent : Int) : Option Number :=
  (Binary64.ofScaled coefficient exponent).map fun b => .decimal (b.shortest negative)

/-- The number that a literal stands for, if it is not too large. -/
def Number.ofLiteral (l : Number.Literal) : Option Number :=
  let (n, dropped) := appendDigits 0 l.whole
  match l.fraction, l.power with
  | none, none =>
    if dropped.isEmpty then
      if !l.negative then some (.natural n)
      else if 1 ≤ n ∧ n ≤ Nat.pow 2 63 then some (.negative n)
      else scaled true n 0
    else scaled l.negative n dropped.length
  | _, _ =>
    let fraction := l.fraction.getD []
    let (n', left) := appendDigits n fraction
    let places : Int := (fraction.length : Int) - (left.length : Int)
    scaled l.negative n' ((dropped.length : Int) - places + l.power.getD 0)

/-- The value that a literal stands for. -/
def Number.Literal.value (l : Literal) : Json := ((Number.ofLiteral l).map number).getD unreadable

/-! ### Tokens -/

/-- A token of a JSON text. -/
inductive Token
  | arrayOpen
  | arrayClose
  | objectOpen
  | objectClose
  | comma
  | colon
  | scalar (j : Json)
  | text (s : Option String)
  deriving Inhabited

/-- The number with four hexadecimal digits. -/
def hexWord? (a b c d : Char) : Option Nat := do
  return (((← hexValue? a) * 16 + (← hexValue? b)) * 16 + (← hexValue? c)) * 16 + (← hexValue? d)

/-- The character that a one-letter escape stands for. -/
def shortEscape? : Char → Option Char
  | '"' => some '"'
  | '\\' => some '\\'
  | '/' => some '/'
  | 'b' => some '\x08'
  | 'f' => some '\x0c'
  | 'n' => some '\n'
  | 'r' => some '\r'
  | 't' => some '\t'
  | _ => none

/-- The code of an escaped second surrogate at the start of the text, and the rest. -/
def secondSurrogate? : List Char → Option (Nat × List Char)
  | '\\' :: 'u' :: a :: b :: c :: d :: rest =>
    match hexWord? a b c d with
    | some m => if 0xDC00 ≤ m ∧ m < 0xE000 then some (m, rest) else none
    | none => none
  | _ => none

/-- What follows a second surrogate is shorter than its text. -/
theorem length_of_secondSurrogate? {cs rest : List Char} {m : Nat}
    (h : secondSurrogate? cs = some (m, rest)) : rest.length < cs.length := by
  unfold secondSurrogate? at h
  split at h <;> simp_all
  split at h <;> simp_all
  omega

/-- Reads a string's characters up to the closing quote: the characters, last first, and the rest.
A pair of escaped surrogates is one character; after half of a pair there are no characters. -/
def stringBody? (done : Option (List Char)) : List Char → Option (Option (List Char) × List Char)
  | [] => none
  | '"' :: rest => some (done, rest)
  | '\\' :: 'u' :: a :: b :: c :: d :: rest =>
    match hexWord? a b c d with
    | none => none
    | some n =>
      if n < 0xD800 ∨ 0xE000 ≤ n then stringBody? (done.map (Char.ofNat n :: ·)) rest
      else if 0xDC00 ≤ n then stringBody? none rest
      else
        match h : secondSurrogate? rest with
        | some (m, rest') =>
          have := length_of_secondSurrogate? h
          stringBody?
            (done.map (Char.ofNat (0x10000 + (n - 0xD800) * 0x400 + (m - 0xDC00)) :: ·)) rest'
        | none => stringBody? none rest
  | '\\' :: c :: rest =>
    match shortEscape? c with
    | none => none
    | some c' => stringBody? (done.map (c' :: ·)) rest
  | c :: rest => if c.toNat < 0x20 then none else stringBody? (done.map (c :: ·)) rest
termination_by cs => cs.length

/-- What follows a string is shorter than its text. -/
theorem length_of_stringBody? {done body : Option (List Char)} {cs rest : List Char}
    (h : stringBody? done cs = some (body, rest)) : rest.length < cs.length := by
  fun_induction stringBody? done cs <;> simp_all <;> omega

/-- Whether `c` can stand inside a number. -/
def isNumberChar (c : Char) : Bool :=
  c.isDigit || c == '-' || c == '+' || c == '.' || c == 'e' || c == 'E'

/-- The tokens of a text. -/
def tokens? : List Char → Option (List Token)
  | [] => some []
  | c :: rest =>
    if c == ' ' || c == '\t' || c == '\n' || c == '\r' then tokens? rest
    else if c == '[' then (tokens? rest).map (.arrayOpen :: ·)
    else if c == ']' then (tokens? rest).map (.arrayClose :: ·)
    else if c == '\x7b' then (tokens? rest).map (.objectOpen :: ·)
    else if c == '\x7d' then (tokens? rest).map (.objectClose :: ·)
    else if c == ',' then (tokens? rest).map (.comma :: ·)
    else if c == ':' then (tokens? rest).map (.colon :: ·)
    else if c == '"' then
      match h : stringBody? (some []) rest with
      | none => none
      | some (body, rest') =>
        have := length_of_stringBody? h
        (tokens? rest').map (.text (body.map fun cs => String.ofList cs.reverse) :: ·)
    else if "null".toList.isPrefixOf (c :: rest) then
      (tokens? (rest.drop 3)).map (.scalar null :: ·)
    else if "true".toList.isPrefixOf (c :: rest) then
      (tokens? (rest.drop 3)).map (.scalar (bool true) :: ·)
    else if "false".toList.isPrefixOf (c :: rest) then
      (tokens? (rest.drop 4)).map (.scalar (bool false) :: ·)
    else
      match Number.literal? (c :: rest.takeWhile isNumberChar) with
      | none => none
      | some n =>
        have : (rest.dropWhile isNumberChar).length ≤ rest.length :=
          (rest.dropWhile_sublist isNumberChar).length_le
        (tokens? (rest.dropWhile isNumberChar)).map (.scalar n.value :: ·)
termination_by cs => cs.length
decreasing_by all_goals simp only [List.length_cons, List.length_drop]; omega

/-! ### Values -/

/-- An array or object that is still open, with what it holds so far, last first; an unreadable
name is missing. -/
inductive Frame
  | items (held : List Json)
  | fields (held : List (Option String × Json)) (name : Option String)

/-- What may come next. -/
inductive Expect
  | value
  | valueOrClose
  | itemEnd
  | name
  | nameOrClose
  | colon

/-- A reading that is still going on, or has come to the end of its value. -/
inductive Progress
  | reading (frames : List Frame) (next : Expect)
  | complete (j : Json)

/-- The largest number of arrays and objects that may be open at once. -/
def maxDepth : Nat := 127

/-- The reading after the value `j` has ended inside the frames. -/
def Progress.ended (j : Json) : List Frame → Progress
  | [] => .complete j
  | .items held :: frames => .reading (.items (j :: held) :: frames) .itemEnd
  | .fields held name :: frames => .reading (.fields ((name, j) :: held) name :: frames) .itemEnd

/-- The object with the fields, unless a name is missing. -/
def ofFields (fields : List (Option String × Json)) : Json :=
  match fields.mapM fun (name, j) => name.map (·, j) with
  | some fields => object fields
  | none => unreadable

/-- The reading after an array or object has ended inside the frames, of which there must not be
too many. -/
def Progress.closed (j : Json) (frames : List Frame) : Progress :=
  ended (if (frames.drop (maxDepth - 1)).isEmpty then j else unreadable) frames

/-- The reading after one more token. -/
def Progress.step : Progress → Token → Option Progress
  | .complete _, _ => none
  | .reading frames next, token =>
    match next, token, frames with
    | .value, .scalar j, _ | .valueOrClose, .scalar j, _ => some (ended j frames)
    | .value, .text s, _ | .valueOrClose, .text s, _ =>
      some (ended ((s.map string).getD unreadable) frames)
    | .value, .arrayOpen, _ | .valueOrClose, .arrayOpen, _ =>
      some (.reading (.items [] :: frames) .valueOrClose)
    | .value, .objectOpen, _ | .valueOrClose, .objectOpen, _ =>
      some (.reading (.fields [] none :: frames) .nameOrClose)
    | .valueOrClose, .arrayClose, .items held :: outer
    | .itemEnd, .arrayClose, .items held :: outer => some (closed (array held.reverse) outer)
    | .nameOrClose, .objectClose, .fields held _ :: outer
    | .itemEnd, .objectClose, .fields held _ :: outer => some (closed (ofFields held.reverse) outer)
    | .itemEnd, .comma, .items _ :: _ => some (.reading frames .value)
    | .itemEnd, .comma, .fields _ _ :: _ => some (.reading frames .name)
    | .name, .text s, .fields held _ :: outer
    | .nameOrClose, .text s, .fields held _ :: outer =>
      some (.reading (.fields held s :: outer) .colon)
    | .colon, .colon, _ => some (.reading frames .value)
    | _, _, _ => none

/-- The value that the tokens spell from a state of the reading. -/
def Progress.run : Progress → List Token → Option Json
  | .complete j, [] => some j
  | .reading _ _, [] => none
  | p, token :: rest => (p.step token).bind fun p' => run p' rest

/-- The value that a text spells, if it is one JSON value and nothing else. -/
def parse? (s : String) : Option Json :=
  (tokens? s.toList).bind fun tokens => Progress.run (.reading [] .value) tokens

end Json
end Facetry
