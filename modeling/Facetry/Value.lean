/-
# Values

Four kinds of values are known without a class of the model: truth values,
whole numbers of 32 and 64 bits, and texts. Each kind says how a value is
entered, shown, and written for storage. Showing or writing loses nothing:
what is written is read back, and what is shown can be entered again.

A number is entered with or without commas between its digits; a truth value
by any beginning of its name.

Key definitions: `Value.Kind`, `Value`, `Value.Kind.parseEntry`, `Value.Kind.title`,
`Value.Kind.encode`, `Value.Kind.decode`.
-/
import Facetry.Text.Blank
import Facetry.Text.Case
import Facetry.Text.Numeral
import Facetry.Variant

namespace Facetry

open Text

/-- A kind of value. -/
inductive Value.Kind
  | boolean
  | integer
  | long
  | string
  deriving DecidableEq, Repr

/-- A value. -/
inductive Value
  | boolean (b : Bool)
  | integer (n : Int32)
  | long (n : Int64)
  | string (s : String)
  deriving DecidableEq

namespace Value

/-- The name of a kind. -/
def Kind.name : Kind → String
  | boolean => "boolean"
  | integer => "integer"
  | long => "long"
  | string => "string"

/-- The kinds with their names. -/
def Kind.choices : List (String × Kind) :=
  [("boolean", .boolean), ("integer", .integer), ("long", .long), ("string", .string)]

/-- The kind of the values of a class, if they are of one. -/
def Kind.ofClass? : String → Option Kind
  | "boolean" | "java.lang.Boolean" => some boolean
  | "int" | "java.lang.Integer" => some integer
  | "long" | "java.lang.Long" => some long
  | "java.lang.String" => some string
  | _ => none

/-- The kind of a value. -/
def kind : Value → Kind
  | boolean _ => .boolean
  | integer _ => .integer
  | long _ => .long
  | string _ => .string

/-- Why stored text is no value. -/
inductive DecodeReason
  | otherLetter (c : Char)
  | notOneLetter (count : Nat)
  | notWhole (data : String)
  deriving DecidableEq, Repr

/-- Why there is no value, or no text for one. -/
inductive Error
  | badEntry (kind : Kind) (entry : String)
  | badData (kind : Kind) (reason : DecodeReason)
  | wrongKind (expected actual : Kind)
  deriving DecidableEq, Repr

/-- The wording of a reason. -/
def DecodeReason.text : DecodeReason → String
  | otherLetter c => "expected 'T' or 'F' but got '" ++ String.singleton c ++ "'"
  | notOneLetter count => "expected 1 character, got " ++ natText count
  | notWhole data => "'" ++ data ++ "' is not a whole number"

/-- The wording of an error. -/
def Error.message : Error → String
  | badEntry kind entry => "Cannot parse '" ++ entry ++ "' as " ++ kind.name
  | badData kind reason => "Invalid encoded " ++ kind.name ++ " data: " ++ reason.text
  | wrongKind expected actual => "Expected a " ++ expected.name ++ " value but got " ++ actual.name

/-- The number written as `cs`, if it fits in `bits` bits. -/
def signed? (bits : Nat) (cs : List Char) : Option Int := (readInt? cs).filter (fitsSigned bits)

/-- The number entered as `cs`, whose commas are left out. -/
def enteredNumber? (bits : Nat) (cs : List Char) : Option Int :=
  signed? bits (cs.filter (· != ','))

/-- The truth value whose name, in lower case, starts with `cs`. -/
def enteredTruth? (cs : List Char) : Option Bool :=
  let small := cs.flatMap lowerChar
  if small.isPrefixOf "true".toList then some true
  else if small.isPrefixOf "false".toList then some false
  else none

namespace Kind

/-- The value that a person entered; a blank entry is no value. -/
def parseEntry (kind : Kind) (entry : String) : Except Error (Option Value) :=
  let chars := trimChars entry.toList
  if chars.isEmpty then .ok none
  else
    let value? : Option Value :=
      match kind with
      | boolean => (enteredTruth? chars).map .boolean
      | integer => (enteredNumber? 32 chars).map fun n => .integer (Int32.ofInt n)
      | long => (enteredNumber? 64 chars).map fun n => .long (Int64.ofInt n)
      | string => some (.string entry)
    match value? with
    | some value => .ok (some value)
    | none => .error (.badEntry kind (String.ofList chars))

/-- The text that shows a value; a value of another kind, like none, shows nothing. -/
def title : Kind → Option Value → String
  | boolean, some (.boolean true) => "True"
  | boolean, some (.boolean false) => "False"
  | integer, some (.integer n) => grouped n.toInt
  | long, some (.long n) => grouped n.toInt
  | string, some (.string s) => s
  | _, _ => ""

/-- The stored text of a value of the kind. -/
def encode : Kind → Value → Except Error String
  | boolean, .boolean true => .ok "T"
  | boolean, .boolean false => .ok "F"
  | integer, .integer n => .ok (intText n.toInt)
  | long, .long n => .ok (intText n.toInt)
  | string, .string s => .ok s
  | kind, value => .error (.wrongKind kind value.kind)

/-- The value with the stored text. -/
def decode (kind : Kind) (data : String) : Except Error Value :=
  match kind with
  | boolean =>
    match data.toList with
    | ['T'] => .ok (.boolean true)
    | ['F'] => .ok (.boolean false)
    | [c] => .error (.badData kind (.otherLetter c))
    | cs => .error (.badData kind (.notOneLetter cs.length))
  | integer =>
    match signed? 32 data.toList with
    | some n => .ok (.integer (Int32.ofInt n))
    | none => .error (.badData kind (.notWhole data))
  | long =>
    match signed? 64 data.toList with
    | some n => .ok (.long (Int64.ofInt n))
    | none => .error (.badData kind (.notWhole data))
  | string => .ok (.string data)

/-- The value of a field that nobody has filled in. -/
def default? : Kind → Option Value
  | boolean => some (.boolean false)
  | integer => some (.integer 0)
  | long => some (.long 0)
  | string => none

/-- How many characters a field for values of the kind shows. -/
def typicalLength : Kind → Nat
  | boolean => 5
  | integer => 11
  | long => 20
  | string => 25

end Kind
end Value
end Facetry
