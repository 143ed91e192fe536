/-
# Specifications of classes

What introspection finds out about a class: its facets, its members, and the
supporting methods that support nothing. Other classes are mentioned by name
only, so classes may refer to each other in a circle.

Members are listed by kind: the properties, the collections and the actions.

Key definitions: `Member`, `Specification`, `Specification.placeholder`,
`Specification.members`, `Specification.referencedTypes`.
-/
import Facetry.Class.Json
import Facetry.Facet
import Facetry.Failure
import Facetry.Feature
import Facetry.Sequence

namespace Facetry

/-! ### Members -/

/-- A parameter of an action. -/
structure ActionParameter where
  index : Nat
  type : TypeRef
  name : Option String
  facets : FacetHolder

/-- A property, a collection or an action. `method` is its accessor or the action itself, and
`type` is what that method returns. -/
structure Member where
  id : String
  feature : Feature
  method : String
  type : TypeRef
  facets : FacetHolder
  parameters : List ActionParameter

namespace Member

/-- What the member is about. -/
def identifier (m : Member) : Identifier := m.facets.owner

/-- The name of the member for people: the given one, or else the one that its id suggests. -/
def name (m : Member) : String := m.facets.givenName?.getD (Naming.naturalName m.id)

/-- The type of the elements of a collection. -/
def elementType? (m : Member) : Option TypeRef := m.facets.elementType?

/-- The place of the member in the order of members, if it is given. -/
def sequence? (m : Member) : Option String :=
  match m.facets.data? .memberOrder with
  | some (.memberOrder sequence _) => some sequence
  | _ => none

/-- The names of the types that the member mentions. -/
def typeNames (m : Member) : List String :=
  m.type.name :: m.elementType?.toList.map (·.name) ++ m.parameters.map (·.type.name)

/-- The order of two places: a given one comes before none. -/
def compareSequence : Option String → Option String → Ordering
  | some a, some b => Sequence.compare a b
  | some _, none => .lt
  | none, some _ => .gt
  | none, none => .eq

/-- The members in the order of their places; members at one place keep their order. Three sequences
may go round in a circle (`Sequence.Torn`), and then there is no order to sort by: any order of the
members will do, and a sort may also fail. Of `9`, `10`, `1a`, this one makes `1a`, `9`, `10`, while
an insertion sort leaves them as they are. -/
def inOrder (members : List Member) : List Member :=
  members.mergeSort fun a b => (compareSequence a.sequence? b.sequence?).isLE

end Member

/-! ### Specifications -/

/-- How far a specification is built: nothing is introspected, or the class itself is, or the
classes that it mentions are loaded too. -/
inductive Specification.State
  | placeholder
  | introspected
  | complete
  deriving DecidableEq, Repr

/-- The name of a state in data. -/
def Specification.State.name : State → String
  | placeholder => "cached_empty"
  | introspected => "facets_attached"
  | complete => "fully_introspected"

/-- The description of a class. -/
structure Specification where
  className : String
  kind : Class.Kind
  state : Specification.State
  facets : FacetHolder
  superclass : Option String
  interfaces : List String
  properties : List Member
  collections : List Member
  actions : List Member
  orphans : List String
  failures : List Failure
  fingerprint : String

namespace Specification

/-- The specification of a class before it is introspected. -/
def placeholder (c : Class) : Specification :=
  { className := c.name
    kind := c.kind
    state := .placeholder
    facets := .empty (.ofClass c.name)
    superclass := c.superclass
    interfaces := c.interfaces
    properties := []
    collections := []
    actions := []
    orphans := []
    failures := []
    fingerprint := c.fingerprint }

/-- What the specification is about. -/
def identifier (s : Specification) : Identifier := s.facets.owner

/-- The object type of the class, if it has one. -/
def objectType? (s : Specification) : Option String :=
  match s.facets.data? .objectSpecId with
  | some (.objectSpecId id) => some id
  | _ => none

/-- The properties, then the collections, then the actions. -/
def members (s : Specification) : List Member := s.properties ++ s.collections ++ s.actions

/-- The property with the id. -/
def property? (s : Specification) (id : String) : Option Member :=
  s.properties.find? (·.id == id)

/-- The collection with the id. -/
def collection? (s : Specification) (id : String) : Option Member :=
  s.collections.find? (·.id == id)

/-- The property or collection with the id. -/
def association? (s : Specification) (id : String) : Option Member :=
  (s.properties ++ s.collections).find? (·.id == id)

/-- The action with the id. -/
def action? (s : Specification) (id : String) : Option Member := s.actions.find? (·.id == id)

/-- The member with the id; a property comes before a collection, and both before an action. -/
def member? (s : Specification) (id : String) : Option Member := s.members.find? (·.id == id)

/-- The kind of values that the class stands for, if it is one of values. -/
def valueKind? (s : Specification) : Option Value.Kind :=
  match s.facets.data? .value with
  | some (.value kind) => some kind
  | _ => none

/-- Where the title of the objects comes from. -/
def title? (s : Specification) : Option Facet.TitleSource :=
  match s.facets.data? .title with
  | some (.title source) => some source
  | _ => none

/-- Whether the class is one of collections. -/
def isCollectionType (s : Specification) : Bool := s.facets.contains .collectionType

/-- Whether the objects never change. -/
def isImmutable (s : Specification) : Bool := s.facets.contains .immutable

/-- The name of one object for people. -/
def singularName (s : Specification) : String :=
  s.facets.givenName?.getD (Naming.naturalName (Naming.simpleName s.className))

/-- The plural of a name given by its reversed characters, reversed: a final `y` after anything
but a vowel becomes `ies`; after `s`, `x` and `ch` the ending is `es`, else `s`. -/
def reversedPlural : List Char → List Char
  | 'y' :: c :: cs =>
    if "aeiou".toList.contains c then 's' :: 'y' :: c :: cs else 's' :: 'e' :: 'i' :: c :: cs
  | 's' :: cs => 's' :: 'e' :: 's' :: cs
  | 'x' :: cs => 's' :: 'e' :: 'x' :: cs
  | 'h' :: 'c' :: cs => 's' :: 'e' :: 'h' :: 'c' :: cs
  | cs => 's' :: cs

/-- The plural of a name. -/
def pluralOf (name : String) : String :=
  String.ofList (reversedPlural name.toList.reverse).reverse

/-- The name of several objects for people. -/
def pluralName (s : Specification) : String :=
  match s.facets.data? .plural with
  | some (.plural text) => text
  | _ => pluralOf s.singularName

/-- Whether the name can be that of a class: it is neither empty nor stands for nothing. -/
def isClassName (name : String) : Bool := name != "" && name != "void"

/-- The names of the classes that the specification mentions, each once. -/
def referencedTypes (s : Specification) : List String :=
  ((s.superclass.toList ++ s.interfaces ++ s.facets.elementType?.toList.map (·.name) ++
    s.members.flatMap Member.typeNames).filter isClassName).eraseDups

/-- The class and its object type. -/
def text (s : Specification) : String :=
  s.className ++ match s.objectType? with
    | some id => " (" ++ id ++ ")"
    | none => ""

end Specification
end Facetry
