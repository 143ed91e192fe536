/-
# Specifications as JSON

Key definitions: `Specification.toJson`.
-/
import Facetry.Specification

namespace Facetry

/-- The field with a list, unless the list is empty. -/
def Json.fieldOfList {α : Type} (name : String) (f : α → Json) : List α → List (String × Json)
  | [] => []
  | items => [(name, .array (items.map f))]

/-- A parameter as JSON. -/
def ActionParameter.toJson (p : ActionParameter) : Json :=
  .object ([("index", .ofNat p.index), ("type", p.type.toJson)] ++
    Json.fieldOf "name" .string p.name ++ [("facets", p.facets.toJson)])

/-- A member as JSON; an empty list of parameters is left out. -/
def Member.toJson (m : Member) : Json :=
  .object ([("id", .string m.id),
    ("feature_type", .string m.feature.name),
    ("method", .string m.method),
    ("type", m.type.toJson),
    ("facets", m.facets.toJson)] ++
    Json.fieldOfList "parameters" ActionParameter.toJson m.parameters)

/-- A specification as JSON. What is missing, no interfaces and no orphaned methods are left
out. -/
def Specification.toJson (s : Specification) : Json :=
  .object ([("class_name", .string s.className),
    ("kind", .string s.kind.name),
    ("state", .string s.state.name),
    ("facets", s.facets.toJson)] ++
    Json.fieldOf "superclass" .string s.superclass ++
    Json.fieldOfList "interfaces" .string s.interfaces ++
    [("properties", .array (s.properties.map Member.toJson)),
    ("collections", .array (s.collections.map Member.toJson)),
    ("actions", .array (s.actions.map Member.toJson))] ++
    Json.fieldOfList "orphaned_methods" .string s.orphans ++
    [("fingerprint", .string s.fingerprint)])

end Facetry
