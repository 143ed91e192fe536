/-
# Facets and their holders

A facet is attached to an element; a derived one was inferred, and not
declared on the element itself. A holder keeps the facets of one element, one
place for each kind: attaching a facet replaces the one of its kind.

Key definitions: `Facet`, `FacetHolder`, `FacetHolder.attach`,
`FacetHolder.attachDerived`, `FacetHolder.attachDerivedIfAbsent`.
Key theorems: `FacetHolder.get?_put`, `FacetHolder.get?_remove`.
-/
import Facetry.Facet.Data
import Facetry.Identifier

namespace Facetry

/-- One trait of an element. -/
structure Facet where
  owner : Identifier
  derived : Bool
  data : Facet.Data
  deriving DecidableEq

namespace Facet

/-- The kind of the facet. -/
def kind (f : Facet) : Kind := f.data.kind

/-- The facet as JSON. -/
def toJson (f : Facet) : Json :=
  .object [("kind", .string f.kind.name), ("derived", .bool f.derived),
    ("detail", .string f.data.detail)]

/-- The facet as a text for people. -/
def text (f : Facet) : String :=
  f.kind.label ++ (if f.data.detail.isEmpty then "" else " " ++ f.data.detail) ++
    if f.derived then " [derived]" else ""

end Facet

/-- The facets of one element, one place for each kind. -/
structure FacetHolder where
  owner : Identifier
  get? : Facet.Kind → Option Facet

namespace FacetHolder

/-- The holder of an element without facets. -/
def empty (owner : Identifier) : FacetHolder := ⟨owner, fun _ => none⟩

/-- The payload of the facet of a kind. -/
def data? (h : FacetHolder) (k : Facet.Kind) : Option Facet.Data := (h.get? k).map (·.data)

/-- Whether there is a facet of the kind. -/
def contains (h : FacetHolder) (k : Facet.Kind) : Bool := (h.get? k).isSome

/-- The facets in the order of their kinds. -/
def toList (h : FacetHolder) : List Facet := Facet.Kind.all.filterMap h.get?

/-- The holder with a facet in the place of its kind. -/
def put (h : FacetHolder) (f : Facet) : FacetHolder :=
  { h with get? := fun k => if k = f.kind then some f else h.get? k }

/-- The holder without the facet of a kind. -/
def remove (h : FacetHolder) (k : Facet.Kind) : FacetHolder :=
  { h with get? := fun k' => if k' = k then none else h.get? k' }

/-- Attaches a facet that was declared. -/
def attach (h : FacetHolder) (d : Facet.Data) : FacetHolder := h.put ⟨h.owner, false, d⟩

/-- Attaches a facet that was inferred. -/
def attachDerived (h : FacetHolder) (d : Facet.Data) : FacetHolder := h.put ⟨h.owner, true, d⟩

/-- Attaches a declared facet unless there is one of its kind. -/
def attachIfAbsent (h : FacetHolder) (d : Facet.Data) : FacetHolder :=
  if h.contains d.kind then h else h.attach d

/-- Attaches an inferred facet unless there is one of its kind. -/
def attachDerivedIfAbsent (h : FacetHolder) (d : Facet.Data) : FacetHolder :=
  if h.contains d.kind then h else h.attachDerived d

/-- The number of facets. -/
def size (h : FacetHolder) : Nat := h.toList.length

/-- The name that a facet gives to the element. -/
def givenName? (h : FacetHolder) : Option String :=
  match h.data? .named with
  | some (.named text) => some text
  | _ => none

/-- The type of the elements of a collection, if a facet says it. -/
def elementType? (h : FacetHolder) : Option TypeRef :=
  match h.data? .typeOf with
  | some (.typeOf element) => some element
  | _ => none

/-- The facets as JSON, in the order of their kinds. -/
def toJson (h : FacetHolder) : Json := .array (h.toList.map Facet.toJson)

theorem get?_put (h : FacetHolder) (f : Facet) (k : Facet.Kind) :
    (h.put f).get? k = if k = f.kind then some f else h.get? k := rfl

@[simp] theorem get?_put_self (h : FacetHolder) (f : Facet) : (h.put f).get? f.kind = some f := by
  simp [get?_put]

theorem get?_remove (h : FacetHolder) (k k' : Facet.Kind) :
    (h.remove k).get? k' = if k' = k then none else h.get? k' := rfl

@[simp] theorem owner_put (h : FacetHolder) (f : Facet) : (h.put f).owner = h.owner := rfl

@[simp] theorem get?_empty (owner : Identifier) (k : Facet.Kind) :
    (empty owner).get? k = none := rfl

end FacetHolder
end Facetry
