/-
# Classes as JSON

The canonical form of a class lists its fields in a fixed order; what is
missing is left out, and types are in their written form. The digest of the
canonical form is the fingerprint of the class: it tells a changed declaration
from an unchanged one.

Key definitions: `Class.toJson`, `Class.ofJson`, `Class.fingerprint`.
-/
import Facetry.Class
import Facetry.Digest
import Facetry.Json.Record
import Facetry.Json.Writer

namespace Facetry

open Json (Reader ReadError)

/-- The field with a value, or none. -/
def Json.fieldOf {α : Type} (name : String) (f : α → Json) : Option α → List (String × Json)
  | none => []
  | some a => [(name, f a)]

/-- A type in its written form. -/
def TypeRef.toJson (t : TypeRef) : Json := .string t.text

/-- The canonical form of an annotation. -/
def Annotation.toJson (a : Annotation) : Json :=
  .object (("name", .string a.name) ::
    if a.attributes.isEmpty then [] else [("attributes", .object a.attributes.entries)])

/-- The canonical form of a parameter. -/
def Parameter.toJson (p : Parameter) : Json :=
  .object (("type", p.type.toJson) :: Json.fieldOf "name" .string p.name ++
    [("annotations", .array (p.annotations.map Annotation.toJson))])

/-- The canonical form of a method. -/
def Method.toJson (m : Method) : Json :=
  .object
    [("name", .string m.name),
     ("return_type", m.returnType.toJson),
     ("parameters", .array (m.parameters.map Parameter.toJson)),
     ("annotations", .array (m.annotations.map Annotation.toJson)),
     ("static", .bool m.isStatic),
     ("public", .bool m.isPublic)]

/-- The kinds with their names. -/
def Class.Kind.choices : List (String × Class.Kind) :=
  [("class", .ordinary), ("abstract", .abstract), ("interface", .interface), ("enum", .enum),
   ("array", .array), ("primitive", .primitive)]

/-- The name of a kind. -/
def Class.Kind.name : Class.Kind → String
  | ordinary => "class"
  | abstract => "abstract"
  | interface => "interface"
  | enum => "enum"
  | array => "array"
  | primitive => "primitive"

/-- The canonical form of a class. -/
def Class.toJson (c : Class) : Json :=
  .object ([("name", .string c.name), ("kind", .string c.kind.name)] ++
    Json.fieldOf "superclass" .string c.superclass ++
    [("interfaces", .ofStrings c.interfaces),
     ("annotations", .array (c.annotations.map Annotation.toJson)),
     ("methods", .array (c.methods.map Method.toJson))] ++
    Json.fieldOf "component_type" TypeRef.toJson c.component)

/-- The text of the canonical form. -/
def Class.canonicalText (c : Class) : String := c.toJson.compact

/-- The digest of the canonical form. -/
def Class.fingerprint (c : Class) : String := Digest.ofText c.canonicalText

/-- Reads an annotation. -/
def Annotation.ofJson : Reader Annotation := fun j => do
  let r ← Json.record ["name", "attributes"] j
  return {
    name := ← r.required "name" Json.readString
    attributes := ← r.withDefault "attributes" (Json.readMap Json.readAny) .empty }

/-- Reads a parameter. -/
def Parameter.ofJson : Reader Parameter := fun j => do
  let r ← Json.record ["type", "name", "annotations"] j
  return {
    type := ← r.required "type" Json.readType
    name := ← r.withDefault "name" (Json.readOption Json.readString) none
    annotations := ← r.withDefault "annotations" (Json.readList Annotation.ofJson) [] }

/-- Reads a method; it is public, not static, and returns nothing unless it says otherwise. -/
def Method.ofJson : Reader Method := fun j => do
  let r ← Json.record ["name", "return_type", "parameters", "annotations", "static", "public"] j
  return {
    name := ← r.required "name" Json.readString
    returnType := ← r.withDefault "return_type" Json.readType .void
    parameters := ← r.withDefault "parameters" (Json.readList Parameter.ofJson) []
    annotations := ← r.withDefault "annotations" (Json.readList Annotation.ofJson) []
    isStatic := ← r.withDefault "static" Json.readBool false
    isPublic := ← r.withDefault "public" Json.readBool true }

/-- Reads a class; it is an ordinary one unless it says otherwise. -/
def Class.ofJson : Reader Class := fun j => do
  let r ← Json.record
    ["name", "kind", "superclass", "interfaces", "annotations", "methods", "component_type"] j
  return {
    name := ← r.required "name" Json.readString
    kind := ← r.withDefault "kind" (Json.readVariant Class.Kind.choices) .ordinary
    superclass := ← r.withDefault "superclass" (Json.readOption Json.readString) none
    interfaces := ← r.withDefault "interfaces" (Json.readList Json.readString) []
    annotations := ← r.withDefault "annotations" (Json.readList Annotation.ofJson) []
    methods := ← r.withDefault "methods" (Json.readList Method.ofJson) []
    component := ← r.withDefault "component_type" (Json.readOption Json.readType) none }

end Facetry
