/-
# Reading records from JSON

A record is an object with known fields; other fields are ignored, and a known
field must not repeat. An array stands for the fields in their order; of some
records the last ones can be left out there.

A value is refused because it does not have the expected form, or because of a
text inside it, which the error then tells.

Key definitions: `Json.ReadError`, `Json.Record`, `Json.record`.
-/
import Facetry.Json
import Facetry.TypeRef
import Facetry.Variant

namespace Facetry
namespace Json

/-- Why a JSON value is refused. -/
inductive ReadError
  | form
  | variant (e : Variant.Error)
  | type (e : TypeRef.ParseError)
  deriving DecidableEq, Repr

/-- The wording of the error, where a text is to blame. -/
def ReadError.message? : ReadError → Option String
  | form => none
  | variant e => some e.message
  | type e => some e.message

/-- A reader of JSON values. -/
abbrev Reader (α : Type) : Type := Json → Except ReadError α

/-- The known fields that are present. -/
abbrev Record : Type := List (String × Json)

/-- The known fields of a record. -/
def record (names : List String) : Reader Record
  | object fields =>
    let known := fields.filter fun f => names.contains f.1
    if (known.map (·.1)).Nodup then .ok known else .error .form
  | array items => if items.length ≤ names.length then .ok (names.zip items) else .error .form
  | _ => .error .form

/-- The known fields of a record that an array must spell in full. -/
def fullRecord (names : List String) : Reader Record
  | array items =>
    if items.length = names.length then .ok (names.zip items) else .error .form
  | j => record names j

/-- The value of a field that must be present. -/
def Record.required {α : Type} (r : Record) (name : String) (read : Reader α) :
    Except ReadError α :=
  match r.lookup name with
  | some j => read j
  | none => .error .form

/-- The value of a field, or a default if it is left out. -/
def Record.withDefault {α : Type} (r : Record) (name : String) (read : Reader α) (default : α) :
    Except ReadError α :=
  match r.lookup name with
  | some j => read j
  | none => .ok default

/-- Reads a string. -/
def readString : Reader String
  | string s => .ok s
  | _ => .error .form

/-- Reads a truth value. -/
def readBool : Reader Bool
  | bool b => .ok b
  | _ => .error .form

/-- Reads a whole number from zero on. -/
def readNat : Reader Nat
  | number (.natural n) => .ok n
  | _ => .error .form

/-- Reads null as nothing. -/
def readOption {α : Type} (read : Reader α) : Reader (Option α)
  | null => .ok none
  | j => (read j).map some

/-- Reads the items of an array. -/
def readList {α : Type} (read : Reader α) : Reader (List α)
  | array items => items.mapM read
  | _ => .error .form

/-- Reads the fields of an object; of a repeated field the last counts. -/
def readMap {α : Type} (read : Reader α) : Reader (NameMap α)
  | object fields => (fields.mapM fun e => (read e.2).map (e.1, ·)).map NameMap.ofList
  | _ => .error .form

/-- Reads any value, in canonical form. -/
def readAny : Reader Json := fun j => if j.isReadable then .ok j.canonical else .error .form

/-- Reads the name of a choice. -/
def readVariant {α : Type} (choices : List (String × α)) : Reader α
  | string s => (Variant.read choices s).mapError .variant
  | _ => .error .form

/-- Reads a type in its written form. -/
def readType : Reader TypeRef
  | string s => (TypeRef.parse s).mapError .type
  | _ => .error .form

end Json
end Facetry
