/-
# Identifiers of elements

What a facet or a failure is about: a class, one of its members, or a parameter
of an action. Identifiers are ordered by class, then member, then parameter,
where a missing part comes first.

Key definitions: `Identifier`, `Identifier.text`, `Identifier.compare`.
-/
import Facetry.Json.Record
import Facetry.Text.Numeral

namespace Facetry

/-- A class, a member of it, or a parameter of that member. -/
structure Identifier where
  className : String
  member : Option String
  parameter : Option Nat
  deriving DecidableEq, Repr

namespace Identifier

/-- The class itself. -/
def ofClass (className : String) : Identifier := ⟨className, none, none⟩

/-- A member of the class. -/
def ofMember (className member : String) : Identifier := ⟨className, some member, none⟩

/-- A parameter of a member of the class. -/
def ofParameter (className member : String) (index : Nat) : Identifier :=
  ⟨className, some member, some index⟩

/-- Whether a class is meant. -/
def isClass (i : Identifier) : Bool := i.member.isNone

/-- The written form: the class, then the member after a hash, then the parameter in brackets. -/
def text (i : Identifier) : String :=
  i.className ++ (match i.member with
    | some m => "#" ++ m
    | none => "") ++ (match i.parameter with
    | some n => "[" ++ Text.natText n ++ "]"
    | none => "")

/-- The order of two values that may be missing: a missing one comes first. -/
def compareOption {α : Type} (compare : α → α → Ordering) : Option α → Option α → Ordering
  | none, none => .eq
  | none, some _ => .lt
  | some _, none => .gt
  | some a, some b => compare a b

/-- The order of two identifiers. -/
def compare (a b : Identifier) : Ordering :=
  (Ord.compare a.className b.className).then
    ((compareOption Ord.compare a.member b.member).then
      (compareOption Ord.compare a.parameter b.parameter))

/-- The identifier as JSON; missing parts are left out. -/
def toJson (i : Identifier) : Json :=
  .object (("class_name", .string i.className) ::
    (match i.member with
      | some m => [("member", .string m)]
      | none => []) ++
    (match i.parameter with
      | some n => [("parameter", .ofNat n)]
      | none => []))

/-- Reads an identifier. -/
def ofJson : Json.Reader Identifier := fun j => do
  let r ← Json.fullRecord ["class_name", "member", "parameter"] j
  return {
    className := ← r.required "class_name" Json.readString
    member := ← r.withDefault "member" (Json.readOption Json.readString) none
    parameter := ← r.withDefault "parameter" (Json.readOption Json.readNat) none }

end Identifier
end Facetry
