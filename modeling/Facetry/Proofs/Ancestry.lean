/-
# What a class inherits from

A class inherits directly from its superclass and from its interfaces, as long as it is registered:
a name that is not registered leads nowhere. The classes of a repository may inherit from each other
in a circle, by several ways, or from names that nothing is registered under.

The search for an ancestor keeps the names that it has visited and the names that are pending. Its
invariant is about ways from a pending name to the ancestor that set out from no visited name
(`Repository.LeadsTo`). A way that passes through the name at hand can be cut to one that sets out
from it only once, at its start (`Repository.reaches_or_parent_reaches`); so visiting the name and
putting its parents in its place loses no way, and the search finds the ancestor exactly if there is
one. That it ends is the measure by which it is defined: each turn visits a registered name for the
first time, or takes a pending name away.

Key definitions: `Repository.Inherits`, `Repository.InheritsOutside`, `Repository.LeadsTo`.
Key theorems: `Repository.leadsTo_cons_iff`, `Repository.searchAncestor_iff`,
`Repository.subtype_iff_reached`.
-/
import Facetry.Repository
import Mathlib.Logic.Relation

namespace Facetry.Repository

open Relation (ReflTransGen)

variable {r : Repository} {name parent ancestor : String} {visited pending : List String}

/-! ### Ways up -/

/-- A registered class inherits directly from its superclass and from its interfaces. -/
def Inherits (r : Repository) (name parent : String) : Prop :=
  ∃ c, r.classes.get? name = some c ∧ (c.superclass = some parent ∨ parent ∈ c.interfaces)

/-- A class that is not among the visited ones inherits directly from another. -/
def InheritsOutside (r : Repository) (visited : List String) (name parent : String) : Prop :=
  name ∉ visited ∧ r.Inherits name parent

/-- A way from one of the pending names leads to the ancestor and sets out from no visited name. -/
def LeadsTo (r : Repository) (visited pending : List String) (ancestor : String) : Prop :=
  ∃ name ∈ pending, ReflTransGen (r.InheritsOutside visited) name ancestor

theorem inherits_iff_mem_parents {c : Class} (hc : r.classes.get? name = some c) :
    r.Inherits name parent ↔ parent ∈ parents c := by
  have hparents : parent ∈ parents c ↔ c.superclass = some parent ∨ parent ∈ c.interfaces := by
    rw [parents, List.mem_append, Option.mem_toList]
  rw [hparents]
  constructor
  · rintro ⟨c', hc', h⟩
    rw [hc] at hc'
    cases hc'
    exact h
  · intro h
    exact ⟨c, hc, h⟩

/-- From a name that is visited or not registered, no way leads further. -/
theorem eq_of_reaches (h : name ∈ visited ∨ r.classes.get? name = none)
    (hway : ReflTransGen (r.InheritsOutside visited) name ancestor) : name = ancestor := by
  rcases hway.cases_head with heq | ⟨parent, ⟨hnew, c, hc, -⟩, -⟩
  · exact heq
  · rcases h with hseen | hnone
    · exact absurd hseen hnew
    · rw [hc] at hnone
      cases hnone

/-- **A way need not come back to a name.** It leads on without setting out from the name at all, or
it does so from one of the parents of the name. -/
theorem reaches_or_parent_reaches {start : String}
    (h : ReflTransGen (r.InheritsOutside visited) start ancestor) (name : String) :
    ReflTransGen (r.InheritsOutside (name :: visited)) start ancestor ∨
      ∃ parent, r.Inherits name parent ∧
        ReflTransGen (r.InheritsOutside (name :: visited)) parent ancestor := by
  -- the induction is on the way from its end, so the last visit of the name is met first
  induction h using ReflTransGen.head_induction_on with
  | refl => exact .inl .refl
  | @head start next hstep _ ih =>
    obtain ⟨hnew, hinherits⟩ := hstep
    rcases ih with hnext | hparent
    · by_cases hname : start = name
      · subst hname
        exact .inr ⟨next, hinherits, hnext⟩
      · have houtside : r.InheritsOutside (name :: visited) start next := by
          refine ⟨?_, hinherits⟩
          rw [List.mem_cons, not_or]
          exact ⟨hname, hnew⟩
        exact .inl (hnext.head houtside)
    · exact .inr hparent

/-- A way that keeps away from more names keeps away from fewer. -/
theorem reaches_of_reaches_cons {start : String}
    (h : ReflTransGen (r.InheritsOutside (name :: visited)) start ancestor) :
    ReflTransGen (r.InheritsOutside visited) start ancestor := by
  have hsteps : r.InheritsOutside (name :: visited) ≤ r.InheritsOutside visited := fun a b hab =>
    ⟨fun hseen => hab.1 (List.mem_cons_of_mem _ hseen), hab.2⟩
  exact ReflTransGen.mono hsteps _ _ h

/-! ### The turns of a search -/

theorem leadsTo_of_mem (h : ancestor ∈ pending) : r.LeadsTo visited pending ancestor :=
  ⟨ancestor, h, .refl⟩

/-- A name from which no way leads further can be passed over. -/
theorem leadsTo_cons_iff_of_stuck (hne : name ≠ ancestor)
    (h : name ∈ visited ∨ r.classes.get? name = none) :
    r.LeadsTo visited (name :: pending) ancestor ↔ r.LeadsTo visited pending ancestor := by
  constructor
  · rintro ⟨start, hstart, hway⟩
    rcases List.mem_cons.mp hstart with rfl | hstart
    · exact absurd (eq_of_reaches h hway) hne
    · exact ⟨start, hstart, hway⟩
  · rintro ⟨start, hstart, hway⟩
    exact ⟨start, List.mem_cons_of_mem _ hstart, hway⟩

/-- **A name that is visited for the first time gives way to its parents.** -/
theorem leadsTo_cons_iff {c : Class} (hne : name ≠ ancestor) (hnew : name ∉ visited)
    (hc : r.classes.get? name = some c) :
    r.LeadsTo visited (name :: pending) ancestor ↔
      r.LeadsTo (name :: visited) (parents c ++ pending) ancestor := by
  constructor
  · rintro ⟨start, hstart, hway⟩
    rcases reaches_or_parent_reaches hway name with hway' | ⟨parent, hparent, hway'⟩
    · rcases List.mem_cons.mp hstart with rfl | hstart
      · have hseen : start ∈ start :: visited := List.mem_cons_self
        exact absurd (eq_of_reaches (.inl hseen) hway') hne
      · exact ⟨start, List.mem_append_right _ hstart, hway'⟩
    · have hmem : parent ∈ parents c := (inherits_iff_mem_parents hc).mp hparent
      exact ⟨parent, List.mem_append_left _ hmem, hway'⟩
  · rintro ⟨start, hstart, hway⟩
    have hway' := reaches_of_reaches_cons hway
    rcases List.mem_append.mp hstart with hparent | hpending
    · have hstep : r.InheritsOutside visited name start :=
        ⟨hnew, (inherits_iff_mem_parents hc).mpr hparent⟩
      exact ⟨name, List.mem_cons_self, hway'.head hstep⟩
    · exact ⟨start, List.mem_cons_of_mem _ hpending, hway'⟩

/-- **A search finds the ancestor exactly if a way leads there.** -/
theorem searchAncestor_iff (r : Repository) (ancestor : String) (visited pending : List String) :
    r.searchAncestor ancestor visited pending ↔ r.LeadsTo visited pending ancestor := by
  fun_induction searchAncestor r ancestor visited pending with
  | case1 visited =>
    constructor
    · intro h
      cases h
    · rintro ⟨name, hname, -⟩
      cases hname
  | case2 visited pending => exact iff_of_true rfl (leadsTo_of_mem List.mem_cons_self)
  | case3 visited name pending hne hseen ih =>
    rw [ih, leadsTo_cons_iff_of_stuck hne (.inl hseen)]
  | case4 visited name pending hne hnew hnone ih =>
    rw [ih, leadsTo_cons_iff_of_stuck hne (.inr hnone)]
  | case5 visited name pending hne hnew c hc hless ih =>
    rw [ih, leadsTo_cons_iff hne hnew hc]

/-! ### Subtypes -/

/-- A class is a subtype of what it reaches. -/
theorem isSubtypeOf_iff : r.isSubtypeOf name ancestor ↔ ReflTransGen r.Inherits name ancestor := by
  have hall : r.InheritsOutside [] = r.Inherits := by
    funext a b
    rw [InheritsOutside, eq_iff_iff, and_iff_right List.not_mem_nil]
  rw [isSubtypeOf, searchAncestor_iff, LeadsTo, hall]
  constructor
  · rintro ⟨start, hstart, hway⟩
    rw [List.mem_singleton] at hstart
    subst hstart
    exact hway
  · intro hway
    exact ⟨name, List.mem_singleton_self name, hway⟩

theorem isSome_componentName?_iff :
    (TypeRef.componentName? name).isSome ↔ ∃ component, name = component ++ "[]" := by
  rw [Option.isSome_iff_exists]
  exact exists_congr fun component => TypeRef.componentName?_eq_some_iff

/-- **Subtypes are what can be reached.** In every repository, a name is a subtype of another exactly
if the other one is reached from it in any number of steps from a registered class to its superclass
or to one of its interfaces; and it is a type of collections exactly if it is the name of an array
or reaches one of the four interfaces of collections. -/
theorem subtype_iff_reached (r : Repository) (name ancestor : String) :
    (r.isSubtypeOf name ancestor ↔ ReflTransGen r.Inherits name ancestor) ∧
      (r.isCollectionType name ↔
        (∃ component, name = component ++ "[]") ∨
          ∃ interface ∈ ["java.util.Collection", "java.util.List", "java.util.Set",
              "java.util.SortedSet"],
            ReflTransGen r.Inherits name interface) := by
  refine ⟨isSubtypeOf_iff, ?_⟩
  rw [isCollectionType, Bool.or_eq_true, isSome_componentName?_iff, List.any_eq_true]
  refine or_congr_right (exists_congr fun interface => and_congr_right fun _ => ?_)
  exact isSubtypeOf_iff

end Facetry.Repository
