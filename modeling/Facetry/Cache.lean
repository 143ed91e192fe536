/-
# The cache of specifications

A cache keeps specifications by class. Once its index is built it also finds
them by object type. The index leads from an object type to the name of a
class, so the specifications themselves are kept in one place only.

When the index is built, the first class by name gets an object type that
several classes share. From then on, a class that is stored gets its object
type, and loses the one that it had.

Key definitions: `Cache`, `Cache.store`, `Cache.remove`, `Cache.buildIndex`,
`Cache.withObjectType`, `Cache.recache`, `Cache.snapshot`.
Key theorems: `Cache.get?_store`, `Cache.get?_remove`, `Cache.get?_snapshot`,
`Cache.isInitialized_store`.
-/
import Facetry.Specification

namespace Facetry

/-- The specifications by class and, once it is built, the index from object types to classes. -/
structure Cache where
  byClass : NameMap Specification
  index : Option (NameMap String)

namespace Cache

/-- Why a cache does not answer. -/
inductive Error
  | notInitialized
  | alreadyInitialized
  deriving DecidableEq, Repr

/-- The wording of an error. -/
def Error.message : Error → String
  | notInitialized =>
    "Specification cache not yet initialized; object types cannot be looked up before init"
  | alreadyInitialized => "Specification cache already initialized"

/-- The cache of nothing, without an index. -/
def empty : Cache := ⟨.empty, none⟩

/-- The specification of a class. -/
def get? (c : Cache) (className : String) : Option Specification := c.byClass.get? className

/-- Whether there is a specification of the class. -/
def contains (c : Cache) (className : String) : Bool := c.byClass.contains className

/-- The specifications in the order of their classes. -/
def all (c : Cache) : List Specification := c.byClass.values

/-- The number of specifications. -/
def size (c : Cache) : Nat := c.byClass.size

/-- Whether there are no specifications. -/
def isEmpty (c : Cache) : Bool := c.byClass.isEmpty

/-- Whether the index is built. -/
def isInitialized (c : Cache) : Bool := c.index.isSome

/-- The index without the object type of a specification, if it leads to its class. -/
def unindexed (s : Specification) (index : NameMap String) : NameMap String :=
  match s.objectType? with
  | some id => if index.get? id = some s.className then index.erase id else index
  | none => index

/-- The index in which the object type of a specification leads to its class. -/
def indexed (s : Specification) (index : NameMap String) : NameMap String :=
  match s.objectType? with
  | some id => index.insert id s.className
  | none => index

/-- Stores a specification in the place of an older one of its class. -/
def store (c : Cache) (s : Specification) : Cache :=
  { byClass := c.byClass.insert s.className s
    index := c.index.map fun index =>
      indexed s (match c.get? s.className with
        | some previous => unindexed previous index
        | none => index) }

/-- The specification of a class, and whether it is new: `s` is stored if there was none. It does
not get its object type. -/
def getOrInsert (c : Cache) (s : Specification) : Specification × Bool × Cache :=
  match c.get? s.className with
  | some present => (present, false, c)
  | none => (s, true, { c with byClass := c.byClass.insert s.className s })

/-- Forgets the specification of a class. -/
def remove (c : Cache) (className : String) : Cache :=
  match c.get? className with
  | some s => ⟨c.byClass.erase className, c.index.map (unindexed s)⟩
  | none => c

/-- The specification with the object type. -/
def withObjectType (c : Cache) (id : String) : Except Error (Option Specification) :=
  match c.index with
  | some index => .ok ((index.get? id).bind c.get?)
  | none => .error .notInitialized

/-- The index with one more class, unless its object type is taken. -/
def indexedIfFree (index : NameMap String) (entry : String × Specification) : NameMap String :=
  match entry.2.objectType? with
  | some id => if index.contains id then index else index.insert id entry.1
  | none => index

/-- Builds the index, once. -/
def buildIndex (c : Cache) : Except Error Cache :=
  match c.index with
  | some _ => .error .alreadyInitialized
  | none => .ok { c with index := some (c.byClass.entries.foldl indexedIfFree .empty) }

/-- How a specification is found after it has been stored again. -/
inductive Access
  | byObjectType
  | withoutObjectType
  | withoutIndex
  deriving DecidableEq, Repr

/-- How a specification is found once it is stored. -/
def access (c : Cache) (s : Specification) : Access :=
  if !c.isInitialized then .withoutIndex
  else if s.objectType?.isSome then .byObjectType
  else .withoutObjectType

/-- Stores a specification that was built again, and says how it is found from then on. -/
def recache (c : Cache) (s : Specification) : Access × Cache := (c.access s, c.store s)

/-- A copy of the cache without the specifications that are not complete. -/
def snapshot (c : Cache) : Cache :=
  let byClass := c.byClass.filter fun _ s => s.state == .complete
  { byClass := byClass
    index := c.index.map (·.filter fun _ className => byClass.contains className) }

/-- Forgets all specifications; an index stays, but is empty. -/
def clear (c : Cache) : Cache := ⟨.empty, c.index.map fun _ => .empty⟩

/-! ### What each operation does to the specifications -/

@[simp] theorem get?_empty (name : String) : empty.get? name = none := rfl

theorem get?_store (c : Cache) (s : Specification) (name : String) :
    (c.store s).get? name = if name = s.className then some s else c.get? name :=
  NameMap.get?_insert ..

theorem get?_getOrInsert (c : Cache) (s : Specification) (name : String) :
    (c.getOrInsert s).2.2.get? name =
      if name = s.className ∧ c.get? name = none then some s else c.get? name := by
  unfold getOrInsert
  split
  · rename_i present hpresent
    rw [if_neg]
    rintro ⟨rfl, hnone⟩
    rw [hpresent] at hnone
    cases hnone
  · rename_i hnone
    refine (NameMap.get?_insert ..).trans ?_
    by_cases h : name = s.className
    · rw [if_pos h, if_pos ⟨h, h ▸ hnone⟩]
    · rw [if_neg h, if_neg fun hand => h hand.1]
      rfl

theorem get?_remove (c : Cache) (className name : String) :
    (c.remove className).get? name = if name = className then none else c.get? name := by
  rw [remove]
  split
  · exact NameMap.get?_erase ..
  · split
    · simp_all
    · rfl

theorem get?_snapshot (c : Cache) (name : String) :
    c.snapshot.get? name = (c.get? name).filter (·.state == .complete) :=
  NameMap.get?_filter ..

theorem contains_iff (c : Cache) (name : String) : c.contains name ↔ ∃ s, c.get? name = some s :=
  Option.isSome_iff_exists

theorem not_contains_iff (c : Cache) (name : String) : ¬ c.contains name ↔ c.get? name = none :=
  Option.not_isSome_iff_eq_none

theorem contains_store (c : Cache) (s : Specification) (name : String) :
    (c.store s).contains name ↔ name = s.className ∨ c.contains name := by
  rw [contains_iff, get?_store, contains_iff]
  by_cases h : name = s.className <;> simp [h]

@[simp] theorem get?_clear (c : Cache) (name : String) : c.clear.get? name = none := rfl

/-- A specification without object type that was inserted leaves no trace once another one of its
class is stored. -/
theorem store_getOrInsert {c : Cache} {s t : Specification} (hnone : c.get? s.className = none)
    (hs : s.objectType? = none) (ht : t.className = s.className) :
    (c.getOrInsert s).2.2.store t = c.store t := by
  have hself : (c.byClass.insert s.className s).get? s.className = some s :=
    NameMap.get?_insert_self ..
  have hnone' : c.byClass.get? s.className = none := hnone
  simp only [getOrInsert, store, ht, get?, hself, hnone', unindexed, hs,
    NameMap.insert_insert]

/-- Storing neither builds the index nor drops it. -/
@[simp] theorem isInitialized_store (c : Cache) (s : Specification) :
    (c.store s).isInitialized = c.isInitialized := by
  simp [isInitialized, store]

@[simp] theorem isInitialized_getOrInsert (c : Cache) (s : Specification) :
    (c.getOrInsert s).2.2.isInitialized = c.isInitialized := by
  unfold getOrInsert
  split <;> rfl

@[simp] theorem isInitialized_remove (c : Cache) (className : String) :
    (c.remove className).isInitialized = c.isInitialized := by
  unfold remove
  split <;> simp [isInitialized]

@[simp] theorem isInitialized_snapshot (c : Cache) :
    c.snapshot.isInitialized = c.isInitialized := by
  simp [isInitialized, snapshot]

@[simp] theorem isInitialized_clear (c : Cache) : c.clear.isInitialized = c.isInitialized := by
  simp [isInitialized, clear]

end Cache
end Facetry
