/-
# The index of a cache agrees with its specifications

A cache has two ways to a specification: by class, and by object type through
the index. The two agree (`Coherent`) if a specification is kept under the name
of its class, and where the index leads there is a specification with that very
object type. In a coherent cache, storing a class moves exactly the entries of
that class (`Coherent.classOf?_store`), and removing it leaves no way to it
(`Coherent.classOf?_remove`); so both keep it coherent, as all operations do.

What a coherent index can lack are entries: the class stored last gets an object
type that several share, and another class that carries it has none when that
one goes. As long as no object type is shared, nothing is lost (`Complete`).

Key definitions: `Cache.classOf?`, `Cache.Coherent`, `Cache.Unshared`, `Cache.Complete`.
Key theorems: `Cache.Coherent.classOf?_store`, `Cache.Coherent.classOf?_remove`,
`Cache.classOf?_snapshot`, `Cache.classOf?_buildIndex`, `Cache.withObjectType_eq_some_iff`.
-/
import Facetry.Cache

namespace Facetry
namespace Cache

/-! ### Where the index leads -/

/-- The class to which the index leads from an object type. -/
def classOf? (c : Cache) (id : String) : Option String := c.index.bind (·.get? id)

theorem classOf?_of_index {c : Cache} {index : NameMap String} (h : c.index = some index)
    (id : String) : c.classOf? id = index.get? id := by
  rw [classOf?, h, Option.bind_some]

theorem isInitialized_of_classOf? {c : Cache} {id name : String} (h : c.classOf? id = some name) :
    c.isInitialized := by
  obtain ⟨index, hindex, -⟩ := Option.bind_eq_some_iff.mp h
  simp [isInitialized, hindex]

theorem classOf?_of_not_initialized {c : Cache} (h : ¬ c.isInitialized) (id : String) :
    c.classOf? id = none := by
  rw [classOf?, Option.not_isSome_iff_eq_none.mp h, Option.bind_none]

/-- A cache is what it answers: the specifications of the classes, whether there is an index, and
where that leads. -/
theorem ext_answers {c c' : Cache} (hget : ∀ name, c'.get? name = c.get? name)
    (hinit : c'.isInitialized = c.isInitialized)
    (hlead : ∀ id, c'.classOf? id = c.classOf? id) : c' = c := by
  obtain ⟨byClass, index⟩ := c
  obtain ⟨byClass', index'⟩ := c'
  obtain rfl : byClass' = byClass := NameMap.ext_get? hget
  cases index with
  | none =>
    cases index' with
    | none => rfl
    | some index' => cases hinit
  | some index =>
    cases index' with
    | none => cases hinit
    | some index' =>
      obtain rfl : index' = index := NameMap.ext_get? hlead
      rfl

theorem withObjectType_of_isInitialized {c : Cache} (h : c.isInitialized) (id : String) :
    c.withObjectType id = .ok ((c.classOf? id).bind c.get?) := by
  obtain ⟨index, hindex⟩ := Option.isSome_iff_exists.mp h
  rw [withObjectType, classOf?_of_index hindex, hindex]

/-- Only an initialized cache answers by object type, and it answers through the index. -/
theorem withObjectType_eq_some_iff {c : Cache} {id : String} {s : Specification} :
    c.withObjectType id = .ok (some s) ↔
      ∃ name, c.classOf? id = some name ∧ c.get? name = some s := by
  constructor
  · intro h
    have hinit : c.isInitialized := by
      cases hindex : c.index with
      | none => simp [withObjectType, hindex] at h
      | some index => simp [isInitialized, hindex]
    rw [withObjectType_of_isInitialized hinit] at h
    exact Option.bind_eq_some_iff.mp (Except.ok.inj h)
  · rintro ⟨name, hname, hs⟩
    rw [withObjectType_of_isInitialized (isInitialized_of_classOf? hname), hname, Option.bind_some,
      hs]

theorem get?_indexed (s : Specification) (index : NameMap String) (id : String) :
    (indexed s index).get? id =
      if s.objectType? = some id then some s.className else index.get? id := by
  unfold indexed
  split
  · rename_i id' hid'
    rw [NameMap.get?_insert, hid']
    by_cases h : id = id' <;> simp [h, eq_comm]
  · rename_i hnone
    simp [hnone]

theorem get?_unindexed (s : Specification) (index : NameMap String) (id : String) :
    (unindexed s index).get? id =
      if s.objectType? = some id ∧ index.get? id = some s.className then none
      else index.get? id := by
  unfold unindexed
  split
  · rename_i id' hid'
    rw [hid']
    by_cases h : id = id'
    · subst h
      split <;> simp_all [NameMap.get?_erase]
    · have h' : id' ≠ id := Ne.symm h
      split <;> simp [NameMap.get?_erase, h, h']
  · rename_i hnone
    simp [hnone]

/-! ### Coherence -/

/-- The two indices of a cache agree: specifications are kept by the names of their classes, and
the index leads from an object type to a class whose specification carries it. -/
structure Coherent (c : Cache) : Prop where
  keyed : ∀ {name : String} {s : Specification}, c.get? name = some s → s.className = name
  indexed : ∀ {id name : String}, c.classOf? id = some name →
    ∃ s, c.get? name = some s ∧ s.objectType? = some id

theorem coherent_empty : Coherent empty :=
  ⟨fun h => by simp at h, fun h => by simp [classOf?, empty] at h⟩

namespace Coherent

variable {c : Cache}

/-- No entry of the index leads to a class that is not cached. -/
theorem classOf?_ne (h : c.Coherent) {name : String} (hname : c.get? name = none) (id : String) :
    c.classOf? id ≠ some name := by
  intro hid
  obtain ⟨s, hs, -⟩ := h.indexed hid
  rw [hname] at hs
  cases hs

/-- Taking the object type of a cached specification out of the index takes out every entry that
leads to its class. -/
theorem get?_unindexed (h : c.Coherent) {name : String} {s : Specification}
    (hs : c.get? name = some s) {index : NameMap String} (hindex : c.index = some index)
    (id : String) :
    (unindexed s index).get? id = (index.get? id).filter (· != name) := by
  have hname := h.keyed hs
  rw [Cache.get?_unindexed, hname]
  cases hid : index.get? id with
  | none => simp
  | some other =>
    by_cases hother : other = name
    · subst hother
      have hlead : c.classOf? id = some other := (classOf?_of_index hindex id).trans hid
      obtain ⟨s', hs', hid'⟩ := h.indexed hlead
      rw [hs] at hs'
      cases hs'
      simp [hid', Option.filter_some]
    · simp [hother, Option.filter_some]

/-- **Storing a class moves its own entries of the index only.** It is found by its object type
from then on, and by no other. -/
theorem classOf?_store (h : c.Coherent) (s : Specification) (id : String) :
    (c.store s).classOf? id =
      if c.isInitialized ∧ s.objectType? = some id then some s.className
      else (c.classOf? id).filter (· != s.className) := by
  cases hindex : c.index with
  | none => simp [classOf?, store, hindex, isInitialized]
  | some index =>
    have hinit : c.isInitialized := by simp [isInitialized, hindex]
    rw [classOf?_of_index hindex]
    simp only [classOf?, store, hindex, Option.map_some, Option.bind_some, get?_indexed, hinit,
      true_and]
    congr 1
    cases hs : c.get? s.className with
    | some previous => exact h.get?_unindexed hs hindex id
    | none =>
      have hne := h.classOf?_ne hs id
      rw [classOf?_of_index hindex] at hne
      cases hid : index.get? id with
      | none => rfl
      | some other =>
        have hother : other ≠ s.className := fun heq => hne (heq ▸ hid)
        simp [hother, Option.filter_some]

/-- **Removing a class takes all of its entries out of the index.** -/
theorem classOf?_remove (h : c.Coherent) (name id : String) :
    (c.remove name).classOf? id = (c.classOf? id).filter (· != name) := by
  unfold remove
  split
  · rename_i s hs
    cases hindex : c.index with
    | none => simp [classOf?, hindex]
    | some index =>
      simpa [classOf?, hindex] using h.get?_unindexed hs hindex id
  · rename_i hnone
    cases hid : c.classOf? id with
    | none => rfl
    | some other =>
      have hother : other ≠ name := fun heq => h.classOf?_ne hnone id (heq ▸ hid)
      simp [hother, Option.filter_some]

end Coherent

/-- A class that is inserted is not found by object type. -/
theorem classOf?_getOrInsert (c : Cache) (s : Specification) (id : String) :
    (c.getOrInsert s).2.2.classOf? id = c.classOf? id := by
  unfold getOrInsert
  split <;> rfl

/-- A copy keeps the entries that lead to classes it has. -/
theorem classOf?_snapshot (c : Cache) (id : String) :
    c.snapshot.classOf? id = (c.classOf? id).filter c.snapshot.contains := by
  cases hindex : c.index with
  | none => simp [classOf?, snapshot, hindex]
  | some index =>
    simp only [classOf?, snapshot, hindex, Option.map_some, Option.bind_some, NameMap.get?_filter]
    rfl

/-- The first of the entries with an object type. -/
def firstWith (entries : List (String × Specification)) (id : String) : Option String :=
  (entries.find? fun e => e.2.objectType? == some id).map (·.1)

theorem get?_foldl_indexedIfFree (entries : List (String × Specification)) (index : NameMap String)
    (id : String) :
    (entries.foldl indexedIfFree index).get? id = (index.get? id).or (firstWith entries id) := by
  induction entries generalizing index with
  | nil => simp [firstWith]
  | cons e entries ih =>
    rw [List.foldl_cons, ih]
    have hstep : (indexedIfFree index e).get? id =
        (index.get? id).or (if e.2.objectType? = some id then some e.1 else none) := by
      unfold indexedIfFree
      split
      · rename_i id' hid'
        by_cases h : id = id'
        · subst h
          cases hget : index.get? id <;> simp [NameMap.contains, hget, hid']
        · have h' : id' ≠ id := Ne.symm h
          split <;> simp [NameMap.get?_insert, h, h', hid']
      · rename_i hnone
        simp [hnone]
    rw [hstep, Option.or_assoc]
    congr 1
    by_cases h : e.2.objectType? = some id <;> simp [firstWith, h]

/-- **The first class by name gets an object type** when the index is built. -/
theorem classOf?_buildIndex {c c' : Cache} (h : c.buildIndex = .ok c') (id : String) :
    c'.classOf? id = firstWith c.byClass.entries id := by
  unfold buildIndex at h
  split at h
  · cases h
  · cases h
    simp [classOf?, get?_foldl_indexedIfFree]

theorem get?_buildIndex {c c' : Cache} (h : c.buildIndex = .ok c') (name : String) :
    c'.get? name = c.get? name := by
  unfold buildIndex at h
  split at h
  · cases h
  · cases h
    rfl

theorem isInitialized_buildIndex {c c' : Cache} (h : c.buildIndex = .ok c') :
    c'.isInitialized := by
  unfold buildIndex at h
  split at h
  · cases h
  · cases h
    rfl

/-- The index is built exactly once. -/
theorem buildIndex_eq_error_iff (c : Cache) :
    c.buildIndex = .error .alreadyInitialized ↔ c.isInitialized := by
  cases hindex : c.index <;> simp [buildIndex, isInitialized, hindex]

theorem mem_of_firstWith {entries : List (String × Specification)} {id name : String}
    (h : firstWith entries id = some name) :
    ∃ s, (name, s) ∈ entries ∧ s.objectType? = some id := by
  obtain ⟨⟨n, s⟩, he, rfl⟩ := Option.map_eq_some_iff.mp h
  exact ⟨s, List.mem_of_find?_eq_some he, by simpa using List.find?_some he⟩

/-! ### Coherence is kept -/

namespace Coherent

variable {c : Cache}

theorem store (h : c.Coherent) (s : Specification) : (c.store s).Coherent := by
  constructor
  · intro name s' hs'
    rw [get?_store] at hs'
    split at hs'
    · cases hs'
      exact Eq.symm ‹_›
    · exact h.keyed hs'
  · intro id name hid
    rw [h.classOf?_store] at hid
    split at hid
    · cases hid
      exact ⟨s, by simp [get?_store], And.right ‹_›⟩
    · obtain ⟨hid, hne⟩ := Option.filter_eq_some_iff.mp hid
      obtain ⟨s', hs', htype⟩ := h.indexed hid
      exact ⟨s', by rw [get?_store, if_neg (by simpa using hne), hs'], htype⟩

/-- A specification that is new in a cache has no entry of the index yet, and gets none. -/
theorem getOrInsert (h : c.Coherent) (s : Specification) : (c.getOrInsert s).2.2.Coherent := by
  constructor
  · intro name s' hs'
    rw [get?_getOrInsert] at hs'
    split at hs'
    · cases hs'
      exact Eq.symm (And.left ‹_›)
    · exact h.keyed hs'
  · intro id name hid
    rw [classOf?_getOrInsert] at hid
    obtain ⟨s', hs', htype⟩ := h.indexed hid
    exact ⟨s', by rw [get?_getOrInsert, hs']; simp, htype⟩

theorem remove (h : c.Coherent) (className : String) : (c.remove className).Coherent := by
  constructor
  · intro name s hs
    rw [get?_remove] at hs
    split at hs
    · cases hs
    · exact h.keyed hs
  · intro id name hid
    rw [h.classOf?_remove] at hid
    obtain ⟨hid, hne⟩ := Option.filter_eq_some_iff.mp hid
    obtain ⟨s, hs, htype⟩ := h.indexed hid
    exact ⟨s, by rw [get?_remove, if_neg (by simpa using hne), hs], htype⟩

theorem snapshot (h : c.Coherent) : c.snapshot.Coherent := by
  constructor
  · intro name s hs
    rw [get?_snapshot] at hs
    exact h.keyed (Option.filter_eq_some_iff.mp hs).1
  · intro id name hid
    rw [classOf?_snapshot] at hid
    obtain ⟨hid, hkept⟩ := Option.filter_eq_some_iff.mp hid
    obtain ⟨s, hs, htype⟩ := h.indexed hid
    obtain ⟨s', hs'⟩ := Option.isSome_iff_exists.mp hkept
    have : c.get? name = some s' := by
      have := (get?_snapshot c name).symm.trans hs'
      exact (Option.filter_eq_some_iff.mp this).1
    rw [hs] at this
    cases this
    exact ⟨s, hs', htype⟩

/-- A coherent cache of complete specifications is its own snapshot. -/
theorem snapshot_eq (h : c.Coherent)
    (hcomplete : ∀ name s, c.get? name = some s → s.state = .complete) : c.snapshot = c := by
  have hget : ∀ name, c.snapshot.get? name = c.get? name := fun name => by
    rw [get?_snapshot]
    cases hs : c.get? name with
    | none => rfl
    | some s => exact Option.filter_some_pos (by simp [hcomplete name s hs])
  obtain ⟨byClass, index⟩ := c
  have hclass : byClass.filter (fun _ s => s.state == .complete) = byClass :=
    NameMap.ext_get? hget
  cases index with
  | none => simp only [Cache.snapshot, hclass, Option.map_none]
  | some index =>
    have hindex : index.filter (fun _ className => byClass.contains className) = index := by
      refine NameMap.ext_get? fun id => ?_
      rw [NameMap.get?_filter]
      cases hid : index.get? id with
      | none => rfl
      | some name =>
        have hlead : classOf? ⟨byClass, some index⟩ id = some name := hid
        obtain ⟨s, hs, -⟩ := h.indexed hlead
        exact Option.filter_some_pos ((contains_iff ⟨byClass, some index⟩ name).mpr ⟨s, hs⟩)
    simp only [Cache.snapshot, hclass, Option.map_some, hindex]

theorem clear (c : Cache) : c.clear.Coherent :=
  ⟨fun h => by simp at h, fun h => by
    cases hindex : c.index <;> simp [classOf?, Cache.clear, hindex] at h⟩

theorem buildIndex (h : c.Coherent) {c' : Cache} (hbuild : c.buildIndex = .ok c') :
    c'.Coherent := by
  constructor
  · intro name s hs
    rw [get?_buildIndex hbuild] at hs
    exact h.keyed hs
  · intro id name hid
    rw [classOf?_buildIndex hbuild] at hid
    obtain ⟨s, hs, htype⟩ := mem_of_firstWith hid
    refine ⟨s, ?_, htype⟩
    rw [get?_buildIndex hbuild]
    exact (c.byClass.mem_entries_iff name s).mp hs

end Coherent

/-! ### Completeness -/

/-- No two cached specifications carry the same object type. -/
def Unshared (c : Cache) : Prop :=
  ∀ (name other id : String) (s t : Specification), c.get? name = some s → c.get? other = some t →
    s.objectType? = some id → t.objectType? = some id → name = other

/-- An index leads to every cached specification that carries an object type. -/
def Complete (c : Cache) : Prop :=
  c.isInitialized → ∀ (name id : String) (s : Specification), c.get? name = some s →
    s.objectType? = some id → c.classOf? id = some name

theorem unshared_empty : Unshared empty := fun _ _ _ _ _ h => by simp at h

/-- Storing a class keeps object types apart if no other class carries its own. -/
theorem Unshared.store {c : Cache} (h : c.Unshared) {s : Specification}
    (hfresh : ∀ name t, c.get? name = some t → t.objectType? = s.objectType? →
      name = s.className) : (c.store s).Unshared := by
  intro name other id t u ht hu htid huid
  rw [get?_store] at ht hu
  split at ht <;> split at hu
  · exact (‹name = _›).trans (Eq.symm ‹other = _›)
  · cases ht
    exact (‹name = _›).trans (hfresh other u hu (huid.trans htid.symm)).symm
  · cases hu
    exact (hfresh name t ht (htid.trans huid.symm)).trans (Eq.symm ‹other = _›)
  · exact h name other id t u ht hu htid huid

namespace Complete

variable {c : Cache}

theorem store (h : c.Complete) (hc : c.Coherent) (s : Specification)
    (hun : (c.store s).Unshared) : (c.store s).Complete := by
  intro hinit name id t ht hid
  rw [isInitialized_store] at hinit
  rw [hc.classOf?_store]
  by_cases hsid : s.objectType? = some id
  · have hs : (c.store s).get? s.className = some s := by simp [get?_store]
    rw [if_pos ⟨hinit, hsid⟩, hun name s.className id t s ht hs hid hsid]
  · have hne : name ≠ s.className := by
      rintro rfl
      rw [get?_store, if_pos rfl] at ht
      cases ht
      exact hsid hid
    rw [get?_store, if_neg hne] at ht
    rw [if_neg fun hand => hsid hand.2, h hinit name id t ht hid,
      Option.filter_some_pos (by simpa using hne)]

/-- A placeholder carries no object type, so the index lacks nothing when it is new. -/
theorem getOrInsert (h : c.Complete) {s : Specification} (hs : s.objectType? = none) :
    (c.getOrInsert s).2.2.Complete := by
  intro hinit name id t ht hid
  rw [isInitialized_getOrInsert] at hinit
  rw [classOf?_getOrInsert]
  rw [get?_getOrInsert] at ht
  split at ht
  · cases ht
    rw [hs] at hid
    cases hid
  · exact h hinit name id t ht hid

theorem remove (h : c.Complete) (hc : c.Coherent) (className : String) :
    (c.remove className).Complete := by
  intro hinit name id s hs hid
  rw [isInitialized_remove] at hinit
  rw [get?_remove] at hs
  split at hs
  · cases hs
  · rename_i hne
    rw [hc.classOf?_remove, h hinit name id s hs hid, Option.filter_some_pos (by simpa using hne)]

theorem snapshot (h : c.Complete) : c.snapshot.Complete := by
  intro hinit name id s hs hid
  rw [isInitialized_snapshot] at hinit
  have hkept : c.snapshot.contains name := by
    show (c.snapshot.get? name).isSome
    rw [hs, Option.isSome_some]
  rw [get?_snapshot] at hs
  rw [classOf?_snapshot, h hinit name id s (Option.filter_eq_some_iff.mp hs).1 hid,
    Option.filter_some_pos hkept]

theorem clear (c : Cache) : c.clear.Complete := fun _ _ _ _ h => by simp at h

theorem buildIndex (hun : c.Unshared) {c' : Cache} (hbuild : c.buildIndex = .ok c') :
    c'.Complete := by
  intro _ name id s hs hid
  rw [get?_buildIndex hbuild] at hs
  rw [classOf?_buildIndex hbuild]
  have hmem : (name, s) ∈ c.byClass.entries := (c.byClass.mem_entries_iff name s).mpr hs
  cases hfirst : firstWith c.byClass.entries id with
  | none =>
    have := List.find?_eq_none.mp (Option.map_eq_none_iff.mp hfirst) _ hmem
    simp [hid] at this
  | some first =>
    obtain ⟨t, ht, htype⟩ := mem_of_firstWith hfirst
    have ht' := (c.byClass.mem_entries_iff first t).mp ht
    rw [hun name first id s t hs ht' hid htype]

end Complete

end Cache
end Facetry
