/-
# Runs of a cache

Seven operations change a cache, in any order. Each of them keeps the index in
agreement with the specifications, and none of them drops it, so both hold after
every run. A run in which no object type is ever shared leaves an index that
leads to everything.

Key definitions: `Cache.Operation`, `Cache.perform`, `Cache.run`.
Key theorems: `Cache.Coherent.perform`, `Cache.coherent_run`, `Cache.complete_run`,
`Cache.run_indices_agree`.
-/
import Facetry.Proofs.CacheIndex
import Mathlib.Data.List.Infix
import Mathlib.Data.List.Induction

namespace Facetry
namespace Cache

/-! ### Operations -/

/-- What can be done to a cache. Whoever takes a snapshot goes on with the copy. -/
inductive Operation
  | store (s : Specification)
  | getOrInsert (c : Class)
  | remove (className : String)
  | recache (s : Specification)
  | buildIndex
  | clear
  | snapshot

/-- The cache after an operation. What is inserted for a class is its placeholder; an index that is
refused changes nothing. -/
def perform (c : Cache) : Operation → Cache
  | .store s => c.store s
  | .getOrInsert d => (c.getOrInsert (.placeholder d)).2.2
  | .remove className => c.remove className
  | .recache s => (c.recache s).2
  | .buildIndex =>
    match c.buildIndex with
    | .ok c' => c'
    | .error _ => c
  | .clear => c.clear
  | .snapshot => c.snapshot

theorem perform_buildIndex (c : Cache) :
    c.perform .buildIndex = match c.buildIndex with
      | .ok c' => c'
      | .error _ => c :=
  rfl

theorem Coherent.perform {c : Cache} (h : c.Coherent) (o : Operation) : (c.perform o).Coherent := by
  cases o with
  | store s => exact h.store s
  | getOrInsert d => exact h.getOrInsert _
  | remove className => exact h.remove className
  | recache s => exact h.store s
  | buildIndex =>
    rw [perform_buildIndex]
    split
    · exact h.buildIndex ‹_›
    · exact h
  | clear => exact .clear c
  | snapshot => exact h.snapshot

theorem Complete.perform {c : Cache} (h : c.Complete) (hc : c.Coherent) (hun : c.Unshared)
    (o : Operation) (hun' : (c.perform o).Unshared) : (c.perform o).Complete := by
  cases o with
  | store s => exact h.store hc s hun'
  | getOrInsert d => exact h.getOrInsert rfl
  | remove className => exact h.remove hc className
  | recache s => exact h.store hc s hun'
  | buildIndex =>
    rw [perform_buildIndex]
    split
    · exact Complete.buildIndex hun ‹_›
    · exact h
  | clear => exact .clear c
  | snapshot => exact h.snapshot

/-- No operation drops the index. -/
theorem isInitialized_perform {c : Cache} (h : c.isInitialized) (o : Operation) :
    (c.perform o).isInitialized := by
  cases o with
  | store s => exact (isInitialized_store c s).trans h
  | getOrInsert d => exact (isInitialized_getOrInsert c _).trans h
  | remove className => exact (isInitialized_remove c className).trans h
  | recache s => exact (isInitialized_store c s).trans h
  | buildIndex =>
    rw [perform_buildIndex]
    split
    · exact isInitialized_buildIndex ‹_›
    · exact h
  | clear => exact (isInitialized_clear c).trans h
  | snapshot => exact (isInitialized_snapshot c).trans h

/-! ### Runs -/

/-- The cache after the operations, one after another, on an empty cache. -/
def run (operations : List Operation) : Cache := operations.foldl perform empty

theorem run_append (operations more : List Operation) :
    run (operations ++ more) = more.foldl perform (run operations) :=
  List.foldl_append

theorem coherent_foldl {c : Cache} (h : c.Coherent) (operations : List Operation) :
    (operations.foldl perform c).Coherent := by
  induction operations generalizing c with
  | nil => exact h
  | cons o operations ih => exact ih (h.perform o)

/-- The indices agree after every run. -/
theorem coherent_run (operations : List Operation) : (run operations).Coherent :=
  coherent_foldl coherent_empty operations

theorem isInitialized_foldl {c : Cache} (h : c.isInitialized) (operations : List Operation) :
    (operations.foldl perform c).isInitialized := by
  induction operations generalizing c with
  | nil => exact h
  | cons o operations ih => exact ih (isInitialized_perform h o)

/-- The index lacks nothing after a run in which no object type is ever shared. -/
theorem complete_run (operations : List Operation)
    (h : ∀ first, first <+: operations → (run first).Unshared) : (run operations).Complete := by
  induction operations using List.reverseRecOn with
  | nil => exact fun hinit => by simp [run, empty, isInitialized] at hinit
  | append_singleton first o ih =>
    have hfirst : ∀ f, f <+: first → (run f).Unshared := fun f hf =>
      h f (hf.trans (List.prefix_append first [o]))
    have hlast := h _ (List.prefix_refl _)
    rw [run_append] at hlast ⊢
    exact (ih hfirst).perform (coherent_run first) (hfirst first (List.prefix_refl _)) o hlast

/-- **The two indices of a cache agree after every run.** Specifications are kept by the names of
their classes. An index that is built stays, and is not built again. It leads only to cached
specifications that carry the object type, so nothing leads to a class that is removed. If no two
cached specifications ever carried the same object type, every one is found by its own. -/
theorem run_indices_agree (operations : List Operation) :
    (∀ name s, (run operations).get? name = some s → s.className = name) ∧
    ((run operations).isInitialized →
      (∀ more, (run (operations ++ more)).isInitialized) ∧
      (run operations).buildIndex = .error .alreadyInitialized ∧
      run (operations ++ [.buildIndex]) = run operations) ∧
    (∀ id name, (run operations).classOf? id = some name →
      ∃ s, (run operations).get? name = some s ∧ s.objectType? = some id) ∧
    (∀ id s, (run operations).withObjectType id = .ok (some s) → s.objectType? = some id) ∧
    (∀ name, (run (operations ++ [.remove name])).get? name = none ∧
      ∀ id s, (run (operations ++ [.remove name])).withObjectType id = .ok (some s) →
        s.className ≠ name) ∧
    ((∀ first, first <+: operations → (run first).Unshared) → (run operations).isInitialized →
      ∀ name s id, (run operations).get? name = some s → s.objectType? = some id →
        (run operations).withObjectType id = .ok (some s)) := by
  have hc := coherent_run operations
  refine ⟨fun _ _ => hc.keyed, fun hinit => ⟨fun more => ?_, ?_, ?_⟩, fun _ _ => hc.indexed,
    fun id s hs => ?_, fun name => ⟨?_, fun id s hs => ?_⟩, fun hun hinit name s id hs hid => ?_⟩
  · rw [run_append]
    exact isInitialized_foldl hinit more
  · exact (buildIndex_eq_error_iff _).mpr hinit
  · rw [run_append]
    simp only [List.foldl_cons, List.foldl_nil, perform, (buildIndex_eq_error_iff _).mpr hinit]
  · obtain ⟨name, hname, hs⟩ := withObjectType_eq_some_iff.mp hs
    obtain ⟨s', hs', htype⟩ := hc.indexed hname
    rw [hs] at hs'
    cases hs'
    exact htype
  · rw [run_append]
    exact (get?_remove _ name name).trans (if_pos rfl)
  · have hremoved := coherent_run (operations ++ [.remove name])
    obtain ⟨other, -, hs⟩ := withObjectType_eq_some_iff.mp hs
    rintro rfl
    rw [hremoved.keyed hs, run_append] at hs
    have := (get?_remove (run operations) other other).trans (if_pos rfl)
    simp_all [perform]
  · have hlead := complete_run operations hun hinit name id s hs hid
    exact withObjectType_eq_some_iff.mpr ⟨name, hlead, hs⟩

/-- The placeholder of a class that has an object type already. -/
def typedPlaceholder (className id : String) : Specification :=
  { Specification.placeholder (.named className) with
    facets := (FacetHolder.empty (.ofClass className)).attach (.objectSpecId id) }

/-- A class that is stored after the index is built is found by its object type. -/
theorem run_indices_agree_two_classes :
    (∀ first, first <+: [.store (typedPlaceholder "Customer" "crm.Customer"), .buildIndex,
        .store (typedPlaceholder "Order" "crm.Order")] → (run first).Unshared) ∧
      (run [.store (typedPlaceholder "Customer" "crm.Customer"), .buildIndex,
        .store (typedPlaceholder "Order" "crm.Order")]).withObjectType "crm.Order" =
          .ok (some (typedPlaceholder "Order" "crm.Order")) := by
  have hone : (empty.store (typedPlaceholder "Customer" "crm.Customer")).Unshared :=
    unshared_empty.store fun _ _ h => by simp at h
  have hun : ∀ first, first <+: [.store (typedPlaceholder "Customer" "crm.Customer"), .buildIndex,
      .store (typedPlaceholder "Order" "crm.Order")] → (run first).Unshared := by
    intro first hfirst
    rw [← List.mem_inits] at hfirst
    simp only [List.inits, List.map_cons, List.map_nil, List.mem_cons, List.not_mem_nil,
      or_false] at hfirst
    obtain rfl | rfl | rfl | rfl := hfirst
    · exact unshared_empty
    · exact hone
    · exact hone
    · refine Unshared.store hone fun name t ht htype => ?_
      replace ht :
          (empty.store (typedPlaceholder "Customer" "crm.Customer")).get? name = some t := ht
      rw [get?_store] at ht
      split at ht
      · cases ht
        exact absurd htype (by decide)
      · simp at ht
  refine ⟨hun, ?_⟩
  exact (run_indices_agree _).2.2.2.2.2 hun rfl "Order" _ "crm.Order" rfl rfl

end Cache
end Facetry
