/-
# Which class an object type leads to

When the index is built, the first class by name gets an object type that several
classes carry. Afterwards the class that is stored last gets it, and nobody has it when
that one goes. So the index stays a function of what is cached, and leads to the first
class that carries the object type, as long as the type is not shared: at most one
cached class carries it before and after each request that changes the cache.

The proof follows a reload through its steps. In between, classes that are still to be
removed or built again may carry the object type too. They are left out of account until
their turn (`Cache.Tracked`): if at most one other class carries the object type, the
index leads to that one. What is cached beside the stale classes stays cached to the end,
so it is enough that the object type is not shared there.

If the object type is shared, a class that is reloaded takes it from the one before
(`Loader.classOf?_reloadInto`, `Loader.shared_object_type_redirected`).

Key definitions: `Cache.Carries`, `Cache.Lone`, `Cache.LeadsToFirst`, `Cache.Tracked`,
`Loader.LoneIn`, `Loader.Leading`.
Key theorems: `Cache.Tracked.store`, `Cache.Tracked.remove`, `Loader.Course.tracked`,
`Loader.stepwise_tracked`, `Loader.Effect.leadsToFirst`, `Loader.Leading.perform`,
`Loader.object_types_lead_to_first`.
-/
import Facetry.Proofs.Closure

namespace Facetry

namespace Cache

/-! ### Carriers of an object type -/

/-- The class is cached and carries the object type. -/
def Carries (c : Cache) (id name : String) : Prop :=
  ∃ s, c.get? name = some s ∧ s.objectType? = some id

/-- At most one class that is not stale carries the object type. -/
def Lone (c : Cache) (id : String) (stale : List String) : Prop :=
  ∀ name other, name ∉ stale → other ∉ stale → c.Carries id name → c.Carries id other →
    name = other

/-- The index leads from the object type to the classes that are not stale and carry it. -/
def Leads (c : Cache) (id : String) (stale : List String) : Prop :=
  ∀ name, name ∉ stale → c.Carries id name → c.classOf? id = some name

/-- The index leads from the object type to the first class by name that carries it, and nowhere if
none does. -/
def LeadsToFirst (c : Cache) (id : String) : Prop :=
  c.classOf? id = firstWith c.byClass.entries id

theorem Carries.contains {c : Cache} {id name : String} (h : c.Carries id name) :
    c.contains name := by
  obtain ⟨spec, hspec, -⟩ := h
  exact (contains_iff ..).mpr ⟨spec, hspec⟩

/-- No object type is shared where only one class is cached. -/
theorem Lone.of_contains {c : Cache} {name : String} (h : ∀ other, c.contains other → other = name)
    (id : String) (stale : List String) : c.Lone id stale :=
  fun a b _ _ ha hb => (h a ha.contains).trans (h b hb.contains).symm

theorem carries_of_firstWith {c : Cache} {id name : String}
    (h : firstWith c.byClass.entries id = some name) : c.Carries id name := by
  obtain ⟨s, hs, hid⟩ := mem_of_firstWith h
  exact ⟨s, (c.byClass.mem_entries_iff name s).mp hs, hid⟩

/-- If a class carries the object type, the first one that does is not after it. -/
theorem exists_firstWith {c : Cache} {id name : String} (h : c.Carries id name) :
    ∃ first, firstWith c.byClass.entries id = some first ∧ first ≤ name := by
  obtain ⟨s, hs, hid⟩ := h
  have hmem : (name, s) ∈ c.byClass.entries := (c.byClass.mem_entries_iff name s).mpr hs
  have hsome : (c.byClass.entries.find? fun e => e.2.objectType? == some id).isSome :=
    List.find?_isSome.mpr ⟨_, hmem, by simp [hid]⟩
  obtain ⟨first, hfirst⟩ := Option.isSome_iff_exists.mp hsome
  refine ⟨first.1, by rw [firstWith, hfirst, Option.map_some], ?_⟩
  obtain ⟨-, before, after, hsplit, hbefore⟩ := List.find?_eq_some_iff_append.mp hfirst
  have hascending := c.byClass.ascending
  rw [hsplit] at hmem hascending
  -- what stands before the first carrier does not carry the object type
  rcases List.mem_append.mp hmem with h | h
  · have := hbefore _ h
    simp [hid] at this
  · rcases List.mem_cons.mp h with rfl | h
    · exact Std.le_refl _
    · have hafter := (List.pairwise_append.mp hascending).2.1
      exact Std.le_of_lt ((List.pairwise_cons.mp hafter).1 _ h)

/-- The index leads to the first carrier if it leads to every one, in a coherent cache. -/
theorem Leads.toFirst {c : Cache} {id : String} (h : c.Leads id []) (hc : c.Coherent) :
    c.LeadsToFirst id := by
  cases hfirst : firstWith c.byClass.entries id with
  | some first => exact (h first List.not_mem_nil (carries_of_firstWith hfirst)).trans hfirst.symm
  | none =>
    cases hlead : c.classOf? id with
    | none => exact hlead.trans hfirst.symm
    | some name =>
      obtain ⟨first, hsome, -⟩ := exists_firstWith (hc.indexed hlead)
      rw [hfirst] at hsome
      cases hsome

/-- The index leads to the only carrier if it leads to the first. -/
theorem LeadsToFirst.leads {c : Cache} {id : String} (h : c.LeadsToFirst id)
    (hlone : c.Lone id []) (stale : List String) : c.Leads id stale := by
  intro name _ hname
  obtain ⟨first, hfirst, -⟩ := exists_firstWith hname
  have hcarries := carries_of_firstWith hfirst
  rw [hlone name first List.not_mem_nil List.not_mem_nil hname hcarries]
  exact h.trans hfirst

theorem LeadsToFirst.buildIndex {c c' : Cache} (h : c.buildIndex = .ok c') (id : String) :
    c'.LeadsToFirst id := by
  have hclass : c'.byClass = c.byClass := NameMap.ext_get? (get?_buildIndex h)
  rw [LeadsToFirst, hclass]
  exact classOf?_buildIndex h id

theorem LeadsToFirst.withObjectType_eq {c : Cache} {id : String} (h : c.LeadsToFirst id)
    (hinit : c.isInitialized) :
    c.withObjectType id = .ok ((firstWith c.byClass.entries id).bind c.get?) := by
  rw [withObjectType_of_isInitialized hinit, h]

/-- A cache whose index leads to the first carrier answers with none exactly if there is none. -/
theorem LeadsToFirst.withObjectType_eq_none_iff {c : Cache} {id : String} (h : c.LeadsToFirst id)
    (hinit : c.isInitialized) :
    c.withObjectType id = .ok none ↔ ∀ name, ¬ c.Carries id name := by
  rw [h.withObjectType_eq hinit]
  constructor
  · rintro hanswer name hname
    obtain ⟨first, hfirst, -⟩ := exists_firstWith hname
    obtain ⟨found, hfound, -⟩ := carries_of_firstWith hfirst
    rw [hfirst, Option.bind_some, hfound] at hanswer
    cases hanswer
  · intro hnone
    cases hfirst : firstWith c.byClass.entries id with
    | none => rfl
    | some first => exact absurd (carries_of_firstWith hfirst) (hnone first)

/-- **A cache whose index leads to the first carrier answers with the first carrier.** -/
theorem LeadsToFirst.withObjectType_eq_some_iff {c : Cache} {id : String} (h : c.LeadsToFirst id)
    (hinit : c.isInitialized) (hc : c.Coherent) (s : Specification) :
    c.withObjectType id = .ok (some s) ↔
      c.get? s.className = some s ∧ s.objectType? = some id ∧
        ∀ other, c.Carries id other → s.className ≤ other := by
  rw [h.withObjectType_eq hinit]
  constructor
  · intro hanswer
    obtain ⟨first, hfirst, hs⟩ := Option.bind_eq_some_iff.mp (Except.ok.inj hanswer)
    obtain ⟨found, hfound, hid⟩ := carries_of_firstWith hfirst
    rw [hs] at hfound
    cases hfound
    have hname := hc.keyed hs
    refine ⟨hname ▸ hs, hid, fun other hother => ?_⟩
    obtain ⟨least, hleast, hle⟩ := exists_firstWith hother
    rw [hfirst] at hleast
    cases hleast
    exact hname ▸ hle
  · rintro ⟨hs, hid, hleast⟩
    obtain ⟨first, hfirst, hle⟩ := exists_firstWith ⟨s, hs, hid⟩
    have heq : first = s.className := Std.le_antisymm hle (hleast _ (carries_of_firstWith hfirst))
    rw [hfirst, heq, Option.bind_some, hs]

/-! ### Carriers through stores and removals -/

/-- The cache is coherent and initialized, the stale classes are cached, each listed once, and the
index leads to the class that carries the object type if only one does that is not stale. -/
structure Tracked (id : String) (stale : List String) (c : Cache) : Prop where
  coherent : c.Coherent
  initialized : c.isInitialized
  nodup : stale.Nodup
  cached : ∀ name ∈ stale, c.contains name
  leads : c.Lone id stale → c.Leads id stale

namespace Tracked

variable {id : String} {stale : List String} {c : Cache}

/-- What is not cached is not stale. -/
theorem not_mem_stale (h : Tracked id stale c) {name : String} (hname : c.get? name = none) :
    name ∉ stale := fun hmem => (not_contains_iff ..).mpr hname (h.cached name hmem)

/-- **A store moves the object type to a class that is not stale**, unless the class had it
before. If only one class that is not stale carries it afterwards, it is this one. -/
theorem store (h : Tracked id stale c) {s : Specification} (hstale : s.className ∉ stale)
    (hsame : ∀ t, c.get? s.className = some t → t.objectType? = s.objectType?) :
    Tracked id stale (c.store s) := by
  refine ⟨h.coherent.store s, (isInitialized_store c s).trans h.initialized, h.nodup,
    fun name hname => (c.contains_store s name).mpr (.inr (h.cached name hname)),
    fun hlone name hname hcarries => ?_⟩
  have hgrows : ∀ other, c.Carries id other → (c.store s).Carries id other := by
    rintro other ⟨t, ht, hid⟩
    by_cases hother : other = s.className
    · subst hother
      exact ⟨s, by rw [get?_store, if_pos rfl], (hsame t ht).symm.trans hid⟩
    · exact ⟨t, by rw [get?_store, if_neg hother, ht], hid⟩
  -- no carrier is lost, so that at most one carried the object type before the store too
  have hbefore : c.Leads id stale := h.leads fun name other hname hother hcarries hcarries' =>
    hlone name other hname hother (hgrows name hcarries) (hgrows other hcarries')
  rw [h.coherent.classOf?_store]
  by_cases hid : s.objectType? = some id
  · rw [if_pos ⟨h.initialized, hid⟩]
    exact congrArg some (hlone _ _ hstale hname ⟨s, by rw [get?_store, if_pos rfl], hid⟩ hcarries)
  · obtain ⟨t, ht, htid⟩ := hcarries
    have hne : name ≠ s.className := by
      rintro rfl
      rw [get?_store, if_pos rfl] at ht
      cases ht
      exact hid htid
    rw [get?_store, if_neg hne] at ht
    rw [if_neg fun hand => hid hand.2, hbefore name hname ⟨t, ht, htid⟩,
      Option.filter_some_pos (by simpa using hne)]

/-- **A stale class that is removed is no longer stale.** The other carriers keep their entry. -/
theorem remove {name : String} (h : Tracked id (name :: stale) c) :
    Tracked id stale (c.remove name) := by
  obtain ⟨hfresh, hnodup⟩ := List.nodup_cons.mp h.nodup
  have hne : ∀ other, (c.remove name).Carries id other → other ≠ name := by
    rintro other ⟨t, ht, -⟩ rfl
    rw [get?_remove, if_pos rfl] at ht
    cases ht
  have hkept : ∀ other, other ≠ name → ((c.remove name).Carries id other ↔ c.Carries id other) :=
    fun other hother => by rw [Carries, Carries, get?_remove, if_neg hother]
  refine ⟨h.coherent.remove name, (isInitialized_remove c name).trans h.initialized, hnodup,
    fun other hother => ?_, fun hlone other hother hcarries => ?_⟩
  · have hother' : other ≠ name := fun heq => hfresh (heq ▸ hother)
    exact (c.contains_remove name other).mpr
      ⟨hother', h.cached other (List.mem_cons_of_mem _ hother)⟩
  · have hbefore : c.Leads id (name :: stale) := by
      refine h.leads fun a b ha hb hcarriesA hcarriesB => ?_
      have hparts : ∀ n, n ∉ name :: stale → n ≠ name ∧ n ∉ stale := fun n hn =>
        ⟨List.ne_of_not_mem_cons hn, List.not_mem_of_not_mem_cons hn⟩
      exact hlone a b (hparts a ha).2 (hparts b hb).2 ((hkept a (hparts a ha).1).mpr hcarriesA)
        ((hkept b (hparts b hb).1).mpr hcarriesB)
    have hother' := hne other hcarries
    have hnew : other ∉ name :: stale := List.not_mem_cons_of_ne_of_not_mem hother' hother
    rw [h.coherent.classOf?_remove, hbefore other hnew ((hkept other hother').mp hcarries),
      Option.filter_some_pos (by simpa using hother')]

end Tracked

end Cache

namespace Loader

open Cache (Tracked)

variable {s : Settings} {r : Repository} {id : String} {stale : List String}

/-! ### Carriers through loads and reloads -/

/-- **A course keeps track of the carriers.** It begins no class that is stale, for these are
cached. -/
theorem Course.tracked {names : List String} {cache last : Cache} {calls : List Call}
    (h : Course s r names cache calls last) (hcache : Tracked id stale cache) :
    Tracked id stale last := by
  induction h with
  | nil cache => exact hcache
  | skip _ _ ih => exact ih hcache
  | @introspect _ _ cache between _ _ _ d hbegun hinner _ ihinner ih =>
    obtain ⟨-, hnone, -⟩ := begun?_eq_some_iff.mp hbegun
    have hstale : d.name ∉ stale := hcache.not_mem_stale hnone
    have hfirst : Tracked id stale (cache.store (s.describe r d)) :=
      hcache.store hstale fun t ht => by
        rw [show cache.get? (s.describe r d).className = none from hnone] at ht
        cases ht
    have hbetween : between.get? d.name = some (s.describe r d) :=
      hinner.keeps d.name _ (by rw [get?_store_describe, if_pos rfl])
    -- the second store of the class replaces what the first one has left
    refine ih ((ihinner hfirst).store hstale fun t ht => ?_)
    rw [show between.get? (s.describe r d).completed.className = some (s.describe r d)
      from hbetween] at ht
    cases ht
    rfl

theorem tracked_loadInto {c : Cache} (h : Tracked id stale c) (name : String) :
    Tracked id stale (loadInto s r name c).2 := by
  obtain ⟨calls, hcourse⟩ := course_loadInto s r name c
  exact hcourse.tracked h

/-- To store a class again that is not stale keeps track of the carriers. -/
theorem tracked_store_again {c : Cache} (h : Tracked id stale c) {name : String}
    {spec : Specification} (hspec : c.get? name = some spec) (hname : name ∉ stale) :
    Tracked id stale (c.store spec) := by
  have hclass := h.coherent.keyed hspec
  refine h.store (hclass ▸ hname) fun t ht => ?_
  rw [hclass, hspec] at ht
  cases ht
  rfl

/-- A class that is reloaded after its removal is not stale. -/
theorem tracked_reloadInto {c : Cache} {name : String} (h : Tracked id stale (c.remove name))
    (hname : name ∉ stale) : Tracked id stale (reloadInto s r name c).2 := by
  rcases reloadInto_cases s r name c with ⟨-, heq⟩ | ⟨resolved, -, heq | ⟨spec, hspec, heq⟩⟩
  · rw [heq]
    exact h
  · rw [heq]
    exact tracked_loadInto h resolved
  · rw [heq]
    exact tracked_store_again (tracked_loadInto h resolved) hspec hname

/-- **A class that is reloaded takes its object type**, also from a class before it. -/
theorem classOf?_reloadInto {c : Cache} (hc : c.Coherent) (hinit : c.isInitialized) {name : String}
    (h : target? s r name = some name) {spec : Specification}
    (hspec : (reloadInto s r name c).2.get? name = some spec) (hid : spec.objectType? = some id) :
    (reloadInto s r name c).2.classOf? id = some name := by
  obtain ⟨loaded, hloaded, hstored⟩ := reloadInto_of_target h c
  have hload : Cache.Coherent (loadInto s r name (c.remove name)).2 :=
    coherent_loadInto (hc.remove name) s r name
  have hinit' : (loadInto s r name (c.remove name)).2.isInitialized := by
    rw [isInitialized_loadInto, Cache.isInitialized_remove, hinit]
  have hname := hload.keyed hloaded
  rw [hstored, Cache.get?_store, if_pos hname.symm] at hspec
  cases hspec
  rw [hstored, hload.classOf?_store, if_pos ⟨hinit', hid⟩, hname]

theorem tracked_addInto {c : Cache} (h : Tracked id [] c) (name : String) :
    Tracked id [] (addInto s r name c) := by
  have hload : Tracked id [] (loadInto s r name c).2 := tracked_loadInto h name
  rcases restored_addInto s r name c with heq | ⟨other, spec, hspec, heq⟩
  · rw [heq]
    exact hload
  · rw [heq]
    exact tracked_store_again hload hspec List.not_mem_nil

/-- **All steps of a reload keep track of the carriers.** -/
theorem stepwise_tracked (s : Settings) (r : Repository) (id : String) :
    Stepwise s r (Tracked id) :=
  ⟨Tracked.remove, fun h => tracked_reloadInto h.remove (List.nodup_cons.mp h.nodup).1,
    fun name h => tracked_addInto h name⟩

/-! ### Requests -/

/-- The cached specifications are listed in the order of their classes. -/
theorem ascending_all {c : Cache} (hc : c.Coherent) :
    (c.all.map (·.className)).Pairwise (· < ·) := by
  have hkeys : c.all.map (·.className) = c.byClass.keys := by
    unfold Cache.all NameMap.values NameMap.keys
    rw [List.map_map]
    exact List.map_congr_left fun e he => hc.keyed ((c.byClass.mem_entries_iff e.1 e.2).mp he)
  rw [hkeys]
  exact List.pairwise_map.mpr c.byClass.ascending

theorem ascending_classesWith {c : Cache} (hc : c.Coherent) (f : Fate) :
    (classesWith s r c f).Pairwise (· < ·) :=
  (ascending_all hc).sublist (List.filter_sublist.map _)

theorem mem_classesWith_iff {c : Cache} (hc : c.Coherent) {name : String} {f : Fate} :
    name ∈ classesWith s r c f ↔ ∃ spec, c.get? name = some spec ∧ fate s r spec = f := by
  constructor
  · intro h
    obtain ⟨spec, ⟨key, hspec⟩, hfate, rfl⟩ := mem_of_mem_classesWith h
    exact ⟨spec, (hc.keyed hspec).symm ▸ hspec, hfate⟩
  · rintro ⟨spec, hspec, rfl⟩
    exact mem_classesWith hc hspec

/-- A class has one fate. -/
theorem eq_of_mem_classesWith {c : Cache} (hc : c.Coherent) {name : String} {f f' : Fate}
    (h : name ∈ classesWith s r c f) (h' : name ∈ classesWith s r c f') : f' = f := by
  obtain ⟨spec, hspec, rfl⟩ := (mem_classesWith_iff hc).mp h
  obtain ⟨spec', hspec', rfl⟩ := (mem_classesWith_iff hc).mp h'
  rw [hspec] at hspec'
  cases hspec'
  rfl

/-- The classes that a reload evicts or builds again are cached, and listed once each. -/
theorem nodup_stale {c : Cache} (hc : c.Coherent) :
    (classesWith s r c .evicted ++ classesWith s r c .reloaded).Nodup := by
  have hnodup : ∀ f, (classesWith s r c f).Nodup := fun f =>
    (ascending_classesWith hc f).imp fun h => Std.ne_of_lt h
  refine List.nodup_append.mpr
    ⟨hnodup .evicted, hnodup .reloaded, fun name hname other hother => ?_⟩
  rintro rfl
  cases eq_of_mem_classesWith hc hname hother

theorem contains_of_mem_classesWith {c : Cache} (hc : c.Coherent) {name : String} {f : Fate}
    (h : name ∈ classesWith s r c f) : c.contains name := by
  obtain ⟨spec, hspec, -⟩ := (mem_classesWith_iff hc).mp h
  exact (Cache.contains_iff ..).mpr ⟨spec, hspec⟩

/-- An index that was not there before is built anew. -/
theorem Effect.exists_buildIndex {l : Loader} {c : Cache} (h : Effect l r c)
    (hl : ¬ l.isInitialized) (hinit : c.isInitialized) : ∃ c' : Cache, c'.buildIndex = .ok c := by
  cases h with
  | unchanged => exact absurd hinit hl
  | loaded name => exact absurd ((isInitialized_loadInto ..).symm.trans hinit) hl
  | indexed _ hbuild => exact ⟨_, hbuild⟩
  | reloaded name =>
    rw [isInitialized_reloadInto, Cache.isInitialized_snapshot] at hinit
    exact absurd hinit hl
  | exchanged r =>
    rw [isInitialized_applyChanges, Cache.isInitialized_snapshot] at hinit
    exact absurd hinit hl
  | rebuilt hbuild => exact ⟨_, hbuild⟩

/-- **An index that leads to the only carrier leads to the first one after a change**, if that is
the only one too. -/
theorem Effect.leadsToFirst_of_leads {l : Loader} {c : Cache} (h : Effect l r c) (hl : l.Coherent)
    (hinit : l.isInitialized) (hlead : ∀ stale, l.cache.Leads id stale) (hlone : c.Lone id []) :
    c.LeadsToFirst id := by
  have hstart : ∀ stale : List String, stale.Nodup → (∀ name ∈ stale, l.cache.contains name) →
      Tracked id stale l.cache := fun stale hnodup hcached =>
    ⟨hl.coherent, hinit, hnodup, hcached, fun _ => hlead stale⟩
  have hend : Tracked id [] c → c.LeadsToFirst id := fun h => (h.leads hlone).toFirst h.coherent
  have hnone : Tracked id [] l.cache := hstart [] .nil fun _ hn => by cases hn
  cases h with
  | unchanged => exact hend hnone
  | loaded name => exact hend (tracked_loadInto hnone name)
  | indexed hno _ => exact absurd hinit hno
  | reloaded name =>
    rw [hl.snapshot_eq] at hend ⊢
    refine hend (tracked_reloadInto ?_ List.not_mem_nil)
    -- a class that is not cached cannot be listed as stale; its removal does nothing
    by_cases hcached : l.cache.contains name
    · exact (hstart [name] (List.nodup_singleton name) (by simpa using hcached)).remove
    · rw [Cache.remove, (Cache.not_contains_iff ..).mp hcached]
      exact hnone
  | exchanged r =>
    rw [hl.snapshot_eq] at hend ⊢
    refine hend ((stepwise_tracked l.settings r id).applyChanges
      (hstart _ (nodup_stale hl.coherent) fun name hname => ?_))
    exact (List.mem_append.mp hname).elim (contains_of_mem_classesWith hl.coherent)
      (contains_of_mem_classesWith hl.coherent)
  | rebuilt hbuild => exact .buildIndex hbuild id

/-- **An index that leads to the first carrier still does**, if a change of the cache finds and
leaves at most one. -/
theorem Effect.leadsToFirst {l : Loader} {c : Cache} (h : Effect l r c) (hl : l.Coherent)
    (hlead : l.isInitialized → l.cache.LeadsToFirst id)
    (hlone : l.isInitialized → c ≠ l.cache → l.cache.Lone id [] ∧ c.Lone id [])
    (hinit : c.isInitialized) : c.LeadsToFirst id := by
  by_cases hbefore : l.isInitialized
  · by_cases hsame : c = l.cache
    · exact hsame ▸ hlead hbefore
    · obtain ⟨hlone, hlone'⟩ := hlone hbefore hsame
      exact h.leadsToFirst_of_leads hl hbefore ((hlead hbefore).leads hlone) hlone'
  · obtain ⟨c', hbuild⟩ := h.exists_buildIndex hbefore hinit
    exact .buildIndex hbuild id

/-! ### Runs -/

/-- A request that changes the cache of an initialized loader finds and leaves at most one class
with the object type. -/
def LoneIn (id : String) (l : Loader) (q : Request) : Prop :=
  l.isInitialized → (l.perform q).cache ≠ l.cache →
    l.cache.Lone id [] ∧ (l.perform q).cache.Lone id []

/-- The loader is coherent, and its index leads from the object type to the first carrier. -/
structure Leading (id : String) (l : Loader) : Prop where
  coherent : l.Coherent
  first : l.isInitialized → l.cache.LeadsToFirst id

theorem leading_rebuild (id : String) (l : Loader) (r : Repository) :
    (l.perform (.rebuild r)).Leading id := by
  obtain ⟨c', hbuild, failures, hok⟩ := rebuild_eq_ok l r
  rw [perform_of_outcome (q := .rebuild r) hok]
  exact ⟨upToDate_iff.mpr (((AllBut.empty _ []).loadAll Made.current r.domain).buildIndex hbuild),
    fun _ => .buildIndex hbuild id⟩

/-- **A request keeps the index leading to the first carrier**, if it finds and leaves at most
one. -/
theorem Leading.perform {l : Loader} (h : l.Leading id) {q : Request} (hlone : LoneIn id l q) :
    (l.perform q).Leading id := by
  unfold LoneIn at hlone
  unfold Loader.perform at hlone ⊢
  split
  · rename_i l' hok
    simp only [hok] at hlone
    have heffect := effect_of_outcome hok
    exact ⟨heffect.upToDate h.coherent, heffect.leadsToFirst h.coherent h.first hlone⟩
  · exact h

theorem leading_run (s : Settings) (r : Repository) {requests : List Request}
    (hfit : FitSinceRebuild (LoneIn id) (new s r) requests) :
    ((new s r).run requests).Leading id := by
  have hnew : (new s r).Leading id := ⟨coherent_run s r [], fun h => absurd h Bool.false_ne_true⟩
  exact run_sinceRebuild (P := Leading id) (leading_rebuild id)
    (fun h _ hlone => h.perform hlone) hnew hfit

/-- No object type is shared when a class is loaded that no other one is cached with. -/
theorem fit_init_load {name : String} (hclosed : Closed s r (· = name))
    (hdomain : ∀ other ∈ r.domain, ∀ resolved, target? s r other = some resolved → resolved = name)
    (hname : target? s r name = some name) (id : String) :
    FitSinceRebuild (LoneIn id) (new s r) [.init, .load name] := by
  have hstart : ((new s r).run [.init]).cache.Lone id [] :=
    .of_contains (fun _ => within_run_init hclosed hdomain) id []
  have hend : ((new s r).run [.init, .load name]).cache.Lone id [] :=
    .of_contains (fun _ => within_run_init_load hclosed hdomain fun _ h =>
      Option.some.inj (h.symm.trans hname)) id []
  exact .cons (fun h => absurd h Bool.false_ne_true) (.cons (fun _ _ => ⟨hstart, hend⟩) .nil)

/-- The domain classes are cached, and the index is built, when a new loader comes to reload one. -/
theorem run_init_reloadClass (s : Settings) (r : Repository) (name : String) :
    ∃ c failures, (loadAll s r r.domain .empty).buildIndex = .ok c ∧ c.Coherent ∧
      (new s r).run [.init, .reloadClass name] = ⟨s, r, (reloadInto s r name c).2, failures⟩ := by
  obtain ⟨c, failures, hbuild, hinit⟩ := perform_init_new s r
  have hcoherent : Coherent ⟨s, r, c, failures⟩ := hinit ▸ coherent_run s r [.init]
  have hreload : (Loader.mk s r c failures).outcome (.reloadClass name) =
      .ok ⟨s, r, (reloadInto s r name c).2, failures⟩ := by
    rw [outcome_reloadClass (Cache.isInitialized_buildIndex hbuild), hcoherent.snapshot_eq]
  refine ⟨c, failures, hbuild, hcoherent.coherent, ?_⟩
  show ((new s r).perform .init).perform (.reloadClass name) = _
  rw [hinit, perform_of_outcome hreload]

/-! ### A model of parties -/

/-- A class with an object type of its own choice. -/
def party (name : String) : Class :=
  { Class.named name with
    annotations := [.withAttr (.named "ObjectType") "value" (.string "shop.Party")] }

/-- The model of classes that all have the same object type. -/
def parties (names : List String) (domain : Option (List String)) : Repository :=
  .ofModel ⟨names.map party, domain⟩

/-- What a party's specification is like. -/
theorem describe_party {name : String} (hname : name ∈ ["shop.Buyer", "shop.Seller"])
    (hget : r.classes.get? name = some (party name)) :
    ((Settings.ofConfiguration .empty).describe r (party name)).objectType? = some "shop.Party" ∧
      ((Settings.ofConfiguration .empty).describe r (party name)).referencedTypes = [] := by
  have hplain : ∀ name ∈ ["shop.Buyer", "shop.Seller"],
      name ∉ Repository.collectionInterfaces ∧ TypeRef.componentName? name = none := by
    decide +kernel
  obtain ⟨hinterface, harray⟩ := hplain name hname
  have halike : Environment.AlikeFor (party name) (shopEnvironment false)
      (.ofRepository .empty {} r) :=
    ⟨rfl, rfl, Repository.isCollectionType_eq_false hget rfl hinterface harray,
      fun m hm => (by cases hm), fun m hm => (by cases hm)⟩
  have hclosed : ∀ name ∈ ["shop.Buyer", "shop.Seller"],
      ((Introspection.ofClass (Settings.ofConfiguration .empty).model (shopEnvironment false)
        (party name)).specification (party name)).objectType? = some "shop.Party" ∧
      ((Introspection.ofClass (Settings.ofConfiguration .empty).model (shopEnvironment false)
        (party name)).specification (party name)).referencedTypes = [] := by
    decide +kernel
  rw [Settings.describe_of_alikeFor (s := .ofConfiguration .empty) halike]
  exact hclosed name hname

/-- What is made of a party. -/
theorem Made.objectType?_party {name : String} {spec : Specification}
    (h : Made (.ofConfiguration .empty) r name spec)
    (hname : name ∈ ["shop.Buyer", "shop.Seller"])
    (hget : r.classes.get? name = some (party name)) :
    spec.className = name ∧ spec.objectType? = some "shop.Party" := by
  obtain ⟨-, d, hd, rfl⟩ := h
  rw [Repository.get?_of_registered hget] at hd
  obtain rfl := Option.some.inj hd
  have htype := (describe_party hname hget).1
  generalize Settings.ofConfiguration .empty = s at htype ⊢
  exact ⟨rfl, htype⟩

/-- A cached party carries its object type. -/
theorem exists_party {requests : List Request} (hstays : ∀ q ∈ requests, q.repository? = none)
    {name : String} (hname : name ∈ ["shop.Buyer", "shop.Seller"])
    (hget : r.classes.get? name = some (party name))
    (hcached : ((new (.ofConfiguration .empty) r).run requests).cache.contains name) :
    ∃ spec, ((new (.ofConfiguration .empty) r).run requests).cache.get? name = some spec ∧
      spec.className = name ∧ spec.objectType? = some "shop.Party" := by
  obtain ⟨spec, hspec⟩ := (Cache.contains_iff ..).mp hcached
  exact ⟨spec, hspec, (made_run hstays hspec).objectType?_party hname hget⟩

/-- Parties refer to no other classes. -/
theorem closed_parties {P : String → Prop} (h : ∀ name, P name →
    name ∈ ["shop.Buyer", "shop.Seller"] ∧ r.classes.get? name = some (party name)) :
    Closed (.ofConfiguration .empty) r P := by
  intro name d hname hd type htype
  obtain ⟨hparty, hget⟩ := h name hname
  rw [Repository.get?_of_registered hget] at hd
  obtain rfl := Option.some.inj hd
  rw [(describe_party hparty hget).2] at htype
  cases htype

/-- What the model of two parties registers. -/
theorem registered_parties : ∀ name ∈ ["shop.Buyer", "shop.Seller"],
    name ∈ (parties ["shop.Buyer", "shop.Seller"] none).domain ∧
      target? (.ofConfiguration .empty) (parties ["shop.Buyer", "shop.Seller"] none) name =
        some name ∧
      (parties ["shop.Buyer", "shop.Seller"] none).classes.get? name = some (party name) := by
  decide +kernel

/-- Only the parties are cached at the start. -/
theorem party_of_contains_at_start {name : String}
    (h : ((new (.ofConfiguration .empty) (parties ["shop.Buyer", "shop.Seller"] none)).run
      [.init]).cache.contains name) : name ∈ ["shop.Buyer", "shop.Seller"] := by
  have hdomain : (parties ["shop.Buyer", "shop.Seller"] none).domain =
    ["shop.Buyer", "shop.Seller"] := rfl
  have hregistered := registered_parties
  generalize parties ["shop.Buyer", "shop.Seller"] none = r at *
  refine within_run_init (P := (· ∈ ["shop.Buyer", "shop.Seller"]))
    (closed_parties fun name hname => ⟨hname, (hregistered name hname).2.2⟩)
    (fun name hname resolved hresolved => ?_) h
  rw [hdomain] at hname
  rw [(hregistered name hname).2.1] at hresolved
  exact Option.some.inj hresolved ▸ hname

/-- Both parties are cached at the start. -/
theorem exists_party_at_start : ∀ name ∈ ["shop.Buyer", "shop.Seller"],
    ∃ spec, ((new (.ofConfiguration .empty) (parties ["shop.Buyer", "shop.Seller"] none)).run
        [.init]).cache.get? name = some spec ∧
      spec.className = name ∧ spec.objectType? = some "shop.Party" := by
  intro name hname
  obtain ⟨hdomain, htarget, hget⟩ := registered_parties name hname
  generalize parties ["shop.Buyer", "shop.Seller"] none = r at *
  have hspec := get?_run_init (d := party name) hdomain htarget (Repository.get?_of_registered hget)
  exact exists_party (by simp [Request.repository?]) hname hget
    ((Cache.contains_iff ..).mpr ⟨_, hspec⟩)

/-- A party that is no domain class is cached alone when it is loaded. -/
theorem party_loaded_late :
    let l := new (.ofConfiguration .empty) (parties ["shop.Buyer", "shop.Seller"] (some []))
    FitSinceRebuild (LoneIn "shop.Party") l [.init, .load "shop.Buyer"] ∧
      ∃ spec, (l.run [.init, .load "shop.Buyer"]).cache.get? "shop.Buyer" = some spec ∧
        spec.className = "shop.Buyer" ∧ spec.objectType? = some "shop.Party" ∧
        ∀ name, (l.run [.init, .load "shop.Buyer"]).cache.contains name →
          name = "shop.Buyer" := by
  have hregistered :
      (parties ["shop.Buyer", "shop.Seller"] (some [])).domain = [] ∧
        target? (.ofConfiguration .empty) (parties ["shop.Buyer", "shop.Seller"] (some []))
          "shop.Buyer" = some "shop.Buyer" ∧
        (parties ["shop.Buyer", "shop.Seller"] (some [])).classes.get? "shop.Buyer" =
          some (party "shop.Buyer") := by
    decide +kernel
  obtain ⟨hdomain, htarget, hget⟩ := hregistered
  generalize parties ["shop.Buyer", "shop.Seller"] (some []) = r at *
  intro l
  have hclosed : Closed (.ofConfiguration .empty) r (· = "shop.Buyer") :=
    closed_parties fun name hname => by
      subst hname
      exact ⟨List.mem_cons_self, hget⟩
  have hnone : ∀ name ∈ r.domain, ∀ resolved,
      target? (.ofConfiguration .empty) r name = some resolved → resolved = "shop.Buyer" := by
    simp [hdomain]
  have hcached : (l.run [.init, .load "shop.Buyer"]).cache.contains "shop.Buyer" := by
    rw [cache_run_init_load]
    exact contains_loadInto htarget _
  obtain ⟨spec, hspec, hname, htype⟩ :=
    exists_party (by simp [Request.repository?]) List.mem_cons_self hget hcached
  exact ⟨fit_init_load hclosed hnone htarget "shop.Party", spec, hspec, hname, htype,
    fun name => within_run_init_load hclosed hnone fun _ h => Option.some.inj (h.symm.trans htarget)⟩

/-! ### Where object types lead -/

/-- **An object type leads to the first class by name that carries it**, if at most one cached class
carried it before and after each change since the last rebuild. The loader answers with that
class, and with none exactly if none carries the object type. -/
theorem object_types_lead_to_first (s : Settings) (r : Repository) (requests : List Request)
    (id : String) (hinit : ((new s r).run requests).isInitialized)
    (hfit : FitSinceRebuild (LoneIn id) (new s r) requests) :
    (∀ spec, ((new s r).run requests).withObjectType id = .ok (some spec) ↔
      ((new s r).run requests).cache.get? spec.className = some spec ∧
        spec.objectType? = some id ∧
        ∀ other, ((new s r).run requests).cache.Carries id other → spec.className ≤ other) ∧
    (((new s r).run requests).withObjectType id = .ok none ↔
      ∀ name, ¬ ((new s r).run requests).cache.Carries id name) := by
  obtain ⟨hcoherent, hfirst⟩ := leading_run s r hfit
  exact ⟨(hfirst hinit).withObjectType_eq_some_iff hinit hcoherent.coherent,
    (hfirst hinit).withObjectType_eq_none_iff hinit⟩

/-- Of two parties that are there from the start, the first is found by the object type that they
share; a party that is loaded after the index was built is found by it too. -/
theorem object_types_lead_to_first_parties :
    (∃ buyer seller,
      let l := new (.ofConfiguration .empty) (parties ["shop.Buyer", "shop.Seller"] none)
      (l.run [.init]).isInitialized ∧ FitSinceRebuild (LoneIn "shop.Party") l [.init] ∧
        (l.run [.init]).cache.get? "shop.Buyer" = some buyer ∧
        (l.run [.init]).cache.get? "shop.Seller" = some seller ∧
        buyer.objectType? = some "shop.Party" ∧ seller.objectType? = some "shop.Party" ∧
        (l.run [.init]).withObjectType "shop.Party" = .ok (some buyer)) ∧
    ∃ buyer,
      let l := new (.ofConfiguration .empty) (parties ["shop.Buyer", "shop.Seller"] (some []))
      (l.run [.init, .load "shop.Buyer"]).isInitialized ∧
        FitSinceRebuild (LoneIn "shop.Party") l [.init, .load "shop.Buyer"] ∧
        (l.run [.init, .load "shop.Buyer"]).cache.get? "shop.Buyer" = some buyer ∧
        (l.run [.init, .load "shop.Buyer"]).withObjectType "shop.Party" = .ok (some buyer) := by
  constructor
  · obtain ⟨buyer, hbuyer, hname, htype⟩ := exists_party_at_start "shop.Buyer" (by simp)
    obtain ⟨seller, hseller, -, htype'⟩ := exists_party_at_start "shop.Seller" (by simp)
    have honly := @party_of_contains_at_start
    generalize parties ["shop.Buyer", "shop.Seller"] none = r at *
    have hinit := isInitialized_run_init (.ofConfiguration .empty) r
    have hfit : FitSinceRebuild (LoneIn "shop.Party") (new (.ofConfiguration .empty) r) [.init] :=
      .cons (fun h => absurd h Bool.false_ne_true) .nil
    obtain ⟨hfirst, -⟩ :=
      object_types_lead_to_first (.ofConfiguration .empty) r [.init] "shop.Party" hinit hfit
    refine ⟨buyer, seller, hinit, hfit, hbuyer, hseller, htype, htype',
      (hfirst buyer).mpr ⟨hname.symm ▸ hbuyer, htype, fun other hother => ?_⟩⟩
    rw [hname]
    rcases List.mem_pair.mp (honly hother.contains) with rfl | rfl
    · exact Std.le_refl _
    · decide
  · obtain ⟨hfit, buyer, hbuyer, hname, htype, honly⟩ := party_loaded_late
    generalize parties ["shop.Buyer", "shop.Seller"] (some []) = r at *
    have hinit : ((new (.ofConfiguration .empty) r).run
        [.init, .load "shop.Buyer"]).isInitialized :=
      isInitialized_run (isInitialized_run_init _ r) [.load "shop.Buyer"]
    obtain ⟨hfirst, -⟩ := object_types_lead_to_first (.ofConfiguration .empty) r
      [.init, .load "shop.Buyer"] "shop.Party" hinit hfit
    refine ⟨buyer, hinit, hfit, hbuyer,
      (hfirst buyer).mpr ⟨hname.symm ▸ hbuyer, htype, fun other hother => ?_⟩⟩
    exact Std.le_of_eq (hname.trans (honly other hother.contains).symm)

/-- **A shared object type goes to the class that is reloaded.** The buyer is cached and comes
first, but the loader answers with the seller. -/
theorem shared_object_type_redirected :
    ∃ buyer seller,
      ((new (.ofConfiguration .empty) (parties ["shop.Buyer", "shop.Seller"] none)).run
        [.init, .reloadClass "shop.Seller"]).cache.get? "shop.Buyer" = some buyer ∧
      buyer.objectType? = some "shop.Party" ∧
      seller.objectType? = some "shop.Party" ∧ buyer.className < seller.className ∧
      ((new (.ofConfiguration .empty) (parties ["shop.Buyer", "shop.Seller"] none)).run
        [.init, .reloadClass "shop.Seller"]).withObjectType "shop.Party" = .ok (some seller) := by
  obtain ⟨hdomain, hbuyer, hgetBuyer⟩ := registered_parties "shop.Buyer" (by simp)
  obtain ⟨-, hseller, hgetSeller⟩ := registered_parties "shop.Seller" (by simp)
  generalize parties ["shop.Buyer", "shop.Seller"] none = r at *
  have hstays : ∀ q ∈ [Request.init, .reloadClass "shop.Seller"], q.repository? = none := by
    simp [Request.repository?]
  obtain ⟨c, failures, hbuild, hc, hrun⟩ :=
    run_init_reloadClass (.ofConfiguration .empty) r "shop.Seller"
  have hparty := @exists_party r _ hstays
  rw [hrun] at hparty ⊢
  have hcached : (reloadInto (.ofConfiguration .empty) r "shop.Seller" c).2.contains "shop.Buyer" :=
    contains_reloadInto_of_ne (by decide) (contains_assembled hbuild hdomain hbuyer)
  obtain ⟨buyer, hbuyer, hnameBuyer, htypeBuyer⟩ := hparty (by simp) hgetBuyer hcached
  obtain ⟨seller, hseller', hnameSeller, htypeSeller⟩ :=
    hparty (by simp) hgetSeller (contains_reloadInto hseller c)
  have hlead := classOf?_reloadInto hc (Cache.isInitialized_buildIndex hbuild) hseller hseller'
    htypeSeller
  refine ⟨buyer, seller, hbuyer, htypeBuyer, htypeSeller, ?_, ?_⟩
  · rw [hnameBuyer, hnameSeller]
    decide
  · exact Cache.withObjectType_eq_some_iff.mpr ⟨_, hlead, hseller'⟩

end Loader
end Facetry
