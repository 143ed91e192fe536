/-
# The repository of classes

The classes that can be introspected, by name, and the names of the domain
classes, which are introspected first. A class is registered under its own
name. A few classes of the platform are always there. The class of arrays of
any name is made when it is asked for.

A class is a subtype of what it reaches by going from a registered class to
its superclass or one of its interfaces, any number of times. The search
visits each registered class at most once, so it ends also where classes
inherit in a circle.

Key definitions: `Repository`, `Repository.get?`, `Repository.isSubtypeOf`,
`Repository.isCollectionType`, `Repository.ofModel`.
Key theorems: `Repository.name_of_get?`, `Repository.registered_of_get?`.
-/
import Facetry.Class.Json

namespace Facetry

/-- The domain model as it is written: its classes, and the ones to introspect first, which are
all of them unless a list is given. -/
structure DomainModel where
  classes : List Class
  introspect : Option (List String)

/-- Reads a domain model. -/
def DomainModel.ofJson : Json.Reader DomainModel := fun j => do
  let r ← Json.record ["classes", "introspect"] j
  return {
    classes := ← r.withDefault "classes" (Json.readList Class.ofJson) []
    introspect :=
      ← r.withDefault "introspect" (Json.readOption (Json.readList Json.readString)) none }

/-- The classes with one more, which replaces an older one of its name. -/
def Repository.addClass (classes : NameMap Class) (c : Class) : NameMap Class :=
  classes.insert c.name c

/-- Whether every class is registered under its own name. -/
def Repository.Keyed (classes : NameMap Class) : Prop :=
  ∀ name c, classes.get? name = some c → c.name = name

namespace Repository.Keyed

theorem empty : Keyed .empty := fun _ _ h => by simp at h

theorem addClass {classes : NameMap Class} (h : Keyed classes) (c : Class) :
    Keyed (addClass classes c) := by
  intro name c' hc'
  rw [Repository.addClass, NameMap.get?_insert] at hc'
  split at hc'
  · cases hc'
    exact Eq.symm ‹_›
  · exact h name c' hc'

theorem foldl_addClass (cs : List Class) {classes : NameMap Class} (h : Keyed classes) :
    Keyed (cs.foldl Repository.addClass classes) := by
  induction cs generalizing classes with
  | nil => exact h
  | cons c cs ih => exact ih (h.addClass c)

theorem erase {classes : NameMap Class} (h : Keyed classes) (name : String) :
    Keyed (classes.erase name) := by
  intro other c hc
  rw [NameMap.get?_erase] at hc
  split at hc
  · simp at hc
  · exact h other c hc

end Repository.Keyed

/-- The registered classes and the names of the domain classes. -/
structure Repository where
  classes : NameMap Class
  domain : List String
  keyed : Repository.Keyed classes
  deriving DecidableEq

namespace Repository

/-- The classes of the platform. -/
def builtins : List Class :=
  let ofKind (kind : Class.Kind) (name : String) : Class := { Class.named name with kind := kind }
  let extending (superclass : String) (c : Class) : Class :=
    { c with superclass := some superclass }
  let implementing (interface : String) (c : Class) : Class :=
    { c with interfaces := [interface] }
  let object := "java.lang.Object"
  [Class.named object,
   extending object (Class.named "java.lang.String"),
   extending object (Class.named "java.lang.Boolean"),
   extending "java.lang.Number" (Class.named "java.lang.Integer"),
   extending "java.lang.Number" (Class.named "java.lang.Long"),
   extending object (ofKind .abstract "java.lang.Number"),
   extending object (ofKind .abstract "java.lang.Enum"),
   ofKind .interface "java.util.Collection",
   implementing "java.util.Collection" (ofKind .interface "java.util.List"),
   implementing "java.util.Collection" (ofKind .interface "java.util.Set"),
   implementing "java.util.Set" (ofKind .interface "java.util.SortedSet"),
   implementing "java.util.List" (Class.named "java.util.ArrayList"),
   implementing "java.util.SortedSet" (Class.named "java.util.TreeSet"),
   ofKind .primitive "void",
   ofKind .primitive "boolean",
   ofKind .primitive "int",
   ofKind .primitive "long"]

/-- The interfaces of collections. -/
def collectionInterfaces : List String :=
  ["java.util.Collection", "java.util.List", "java.util.Set", "java.util.SortedSet"]

/-- The repository of the platform's classes alone. -/
def initial : Repository := ⟨builtins.foldl addClass .empty, [], Keyed.empty.foldl_addClass _⟩

/-- The repository of a domain model. -/
def ofModel (model : DomainModel) : Repository :=
  { classes := model.classes.foldl addClass initial.classes
    domain := model.introspect.getD (model.classes.map (·.name))
    keyed := initial.keyed.foldl_addClass _ }

/-- Registers a class that is not introspected first. -/
def registerSupporting (r : Repository) (c : Class) : Repository :=
  { r with classes := addClass r.classes c, keyed := r.keyed.addClass c }

/-- Registers a domain class. -/
def register (r : Repository) (c : Class) : Repository :=
  { r.registerSupporting c with
    domain := if r.domain.contains c.name then r.domain else r.domain ++ [c.name] }

/-- Forgets a class. -/
def remove (r : Repository) (name : String) : Repository :=
  { classes := r.classes.erase name
    domain := r.domain.filter (· != name)
    keyed := r.keyed.erase name }

/-- The class called `name`; a class of arrays that is not registered is made. -/
def get? (r : Repository) (name : String) : Option Class :=
  match r.classes.get? name with
  | some c => some c
  | none => (TypeRef.componentName? name).map fun component => .arrayOf (.simple component)

/-- What is found under a name that is not of an array is registered. -/
theorem registered_of_get? {r : Repository} {name : String} {c : Class} (h : r.get? name = some c)
    (hname : TypeRef.componentName? name = none) : r.classes.get? name = some c := by
  unfold get? at h
  split at h
  · rename_i c' hc'
    exact hc'.trans h
  · rw [hname] at h
    cases h

/-- A class is found under its own name. -/
theorem name_of_get? {r : Repository} {name : String} {c : Class} (h : r.get? name = some c) :
    c.name = name := by
  unfold get? at h
  split at h
  · rename_i c' hc'
    cases h
    exact r.keyed name c hc'
  · obtain ⟨component, hcomponent, rfl⟩ := Option.map_eq_some_iff.mp h
    exact (TypeRef.componentName?_eq_some_iff.mp hcomponent).symm

/-- Whether there is a class called `name`. -/
def contains (r : Repository) (name : String) : Bool := (r.get? name).isSome

/-- The names of the registered classes, in order. -/
def names (r : Repository) : List String := r.classes.keys

/-- The number of registered classes. -/
def size (r : Repository) : Nat := r.classes.size

/-- The names that a registered class inherits from directly. -/
def parents (c : Class) : List String := c.superclass.toList ++ c.interfaces

/-- The registered names that are not in `visited`. -/
def unvisited (r : Repository) (visited : List String) : List String :=
  r.names.filter fun n => !visited.contains n

/-- Visiting a registered name for the first time leaves fewer names unvisited. -/
theorem length_unvisited_cons (r : Repository) {visited : List String} {name : String}
    (hreg : name ∈ r.names) (hnew : name ∉ visited) :
    (r.unvisited (name :: visited)).length < (r.unvisited visited).length := by
  have hsub : (r.unvisited (name :: visited)) =
      (r.unvisited visited).filter (fun n => n != name) := by
    simp only [unvisited, List.filter_filter]
    congr 1
    funext n
    by_cases h : n = name <;> simp [h]
  rw [hsub]
  refine List.length_filter_lt_length_iff_exists.mpr ⟨name, ?_, by simp⟩
  simp [unvisited, hreg, hnew]

/-- Whether `ancestor` is one of the pending names or is reached from one of them through
registered classes that are not in `visited`. -/
def searchAncestor (r : Repository) (ancestor : String) (visited : List String) :
    List String → Bool
  | [] => false
  | name :: pending =>
    if name = ancestor then true
    else if hseen : name ∈ visited then searchAncestor r ancestor visited pending
    else
      match h : r.classes.get? name with
      | none => searchAncestor r ancestor visited pending
      | some c =>
        have : (r.unvisited (name :: visited)).length < (r.unvisited visited).length :=
          r.length_unvisited_cons
            ((r.classes.mem_keys_iff name).mpr (by simp [NameMap.contains, h])) hseen
        searchAncestor r ancestor (name :: visited) (parents c ++ pending)
termination_by pending => ((r.unvisited visited).length, pending.length)

/-- Whether `name` is `ancestor` or inherits from it. -/
def isSubtypeOf (r : Repository) (name ancestor : String) : Bool :=
  r.searchAncestor ancestor [] [name]

/-- Whether `name` is an array or inherits from an interface of collections. -/
def isCollectionType (r : Repository) (name : String) : Bool :=
  (TypeRef.componentName? name).isSome ||
    collectionInterfaces.any fun interface => r.isSubtypeOf name interface

/-- Whether the class is registered and of the kind. -/
def isOfKind (r : Repository) (kind : Class.Kind) (name : String) : Bool :=
  (r.classes.get? name).any fun c => c.kind == kind

/-- Whether the class is a registered primitive. -/
def isPrimitive (r : Repository) (name : String) : Bool := r.isOfKind .primitive name

/-- Whether the class is a registered enumeration. -/
def isEnum (r : Repository) (name : String) : Bool := r.isOfKind .enum name

end Repository
end Facetry
