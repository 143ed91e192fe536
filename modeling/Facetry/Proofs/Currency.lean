/-
# Reloading leaves nothing stale

When another repository comes, some specifications are stale; they stay in the cache
until their turn, and loads find them there in the meantime. What carries the proofs is
therefore a cache all of whose specifications have a property but for those of a list of
stale classes (`AllBut`). A load touches none of them and only adds what loading makes
(`Made`). Removing a class takes it off the list, as reloading it does, and the changes
take off every class that is on it. An invariant that goes through these steps is
`Stepwise`; it need not be about properties of single specifications.

A specification is current if it is complete and the repository has its class with the
same fingerprint. What loading makes is current, and the list of changes has every class
that is not when the repository is exchanged.

Key definitions: `Loader.Stepwise`, `Loader.Made`, `Loader.AllBut`, `Loader.Current`,
`Loader.UpToDate`.
Key theorems: `Loader.reloadInto_cases`, `Loader.Stepwise.applyChanges`, `Loader.Course.made`,
`Loader.AllBut.loadInto`, `Loader.AllBut.stepwise`, `Loader.AllBut.fates`.
-/
import Facetry.Proofs.CacheIndex
import Facetry.Proofs.LoadedClasses

namespace Facetry

namespace Cache

theorem mem_all_iff (c : Cache) (s : Specification) :
    s ∈ c.all ↔ ∃ name, c.get? name = some s := by
  unfold all NameMap.values
  rw [List.mem_map]
  constructor
  · rintro ⟨⟨name, spec⟩, hmem, rfl⟩
    exact ⟨name, (c.byClass.mem_entries_iff name spec).mp hmem⟩
  · rintro ⟨name, hname⟩
    exact ⟨(name, s), (c.byClass.mem_entries_iff name s).mpr hname, rfl⟩

end Cache

namespace Loader

variable {s : Settings} {r : Repository}

/-! ### What loading keeps -/

/-- What storing keeps, a course keeps. -/
theorem Course.invariant {P : Cache → Prop} (hstore : ∀ c spec, P c → P (c.store spec))
    {names : List String} {cache last : Cache} {calls : List Call}
    (h : Course s r names cache calls last) (hcache : P cache) : P last := by
  induction h with
  | nil cache => exact hcache
  | skip _ _ ih => exact ih hcache
  | introspect _ _ _ ihinner ih => exact ih (hstore _ _ (ihinner (hstore _ _ hcache)))

theorem isInitialized_loadInto (s : Settings) (r : Repository) (name : String)
    (c : Cache) : (loadInto s r name c).2.isInitialized = c.isInitialized := by
  obtain ⟨calls, hcourse⟩ := course_loadInto s r name c
  exact hcourse.invariant (P := fun c' => c'.isInitialized = c.isInitialized)
    (fun c' spec h => (Cache.isInitialized_store c' spec).trans h) rfl

theorem coherent_loadInto {c : Cache} (h : c.Coherent) (s : Settings) (r : Repository)
    (name : String) : (loadInto s r name c).2.Coherent := by
  obtain ⟨calls, hcourse⟩ := course_loadInto s r name c
  exact hcourse.invariant (P := Cache.Coherent) (fun _ spec hc => hc.store spec) h

theorem isInitialized_foldl {f : Cache → String → Cache}
    (h : ∀ c name, (f c name).isInitialized = c.isInitialized) (names : List String) (c : Cache) :
    (names.foldl f c).isInitialized = c.isInitialized :=
  List.foldlRecOn (motive := fun c' => c'.isInitialized = c.isInitialized) names f rfl
    fun c' hc' name _ => (h c' name).trans hc'

theorem isInitialized_loadAll (s : Settings) (r : Repository) (names : List String) (c : Cache) :
    (loadAll s r names c).isInitialized = c.isInitialized :=
  isInitialized_foldl (fun c name => isInitialized_loadInto s r name c) names c

/-! ### What reloading does -/

/-- One cache is the other one, perhaps with one of its specifications stored again. -/
def Restored (a b : Cache) : Prop :=
  b = a ∨ ∃ name spec, a.get? name = some spec ∧ b = a.store spec

theorem Restored.isInitialized {a b : Cache} (h : Restored a b) :
    b.isInitialized = a.isInitialized := by
  rcases h with rfl | ⟨name, spec, -, rfl⟩
  · rfl
  · exact Cache.isInitialized_store a spec

theorem Restored.coherent {a b : Cache} (h : Restored a b) (ha : a.Coherent) : b.Coherent := by
  rcases h with rfl | ⟨name, spec, -, rfl⟩
  · exact ha
  · exact ha.store spec

/-- Storing a specification again changes at most the index. -/
theorem Restored.get? {a b : Cache} (h : Restored a b) (ha : a.Coherent) (name : String) :
    b.get? name = a.get? name := by
  rcases h with rfl | ⟨other, spec, hspec, rfl⟩
  · rfl
  rw [Cache.get?_store, ha.keyed hspec]
  split
  · rename_i hname
    rw [hname, hspec]
  · rfl

/-- What a load answers with is cached, so storing it is storing it again. -/
theorem restored_store {name : String} {c : Cache} {spec : Specification}
    (h : (loadInto s r name c).1 = some spec) :
    Restored (loadInto s r name c).2 ((loadInto s r name c).2.store spec) := by
  rw [answer_loadInto] at h
  obtain ⟨resolved, -, hspec⟩ := Option.bind_eq_some_iff.mp h
  exact .inr ⟨resolved, spec, hspec, rfl⟩

/-- Adding a class loads it, and may store it once more. -/
theorem restored_addInto (s : Settings) (r : Repository) (name : String) (c : Cache) :
    Restored (loadInto s r name c).2 (addInto s r name c) := by
  unfold addInto
  split
  · rename_i spec cache hload
    have hstored := restored_store (congrArg Prod.fst hload)
    rw [hload] at hstored ⊢
    exact hstored
  · rename_i cache hload
    rw [hload]
    exact .inl rfl

/-- Reloading a class removes it, loads what it stands for, and stores it once more if it stands for
itself. -/
theorem reloadInto_cases (s : Settings) (r : Repository) (name : String) (c : Cache) :
    s.substitutor.substitute r name = none ∧ (reloadInto s r name c).2 = c.remove name ∨
      ∃ resolved, s.substitutor.substitute r name = some resolved ∧
        ((reloadInto s r name c).2 = (loadInto s r resolved (c.remove name)).2 ∨
          ∃ spec, (loadInto s r resolved (c.remove name)).2.get? name = some spec ∧
            (reloadInto s r name c).2 =
              (loadInto s r resolved (c.remove name)).2.store spec) := by
  unfold reloadInto
  cases hname : s.substitutor.substitute r name with
  | none => exact .inl ⟨rfl, rfl⟩
  | some resolved =>
    refine .inr ⟨resolved, rfl, ?_⟩
    dsimp only
    split
    · rename_i spec cache hload
      split
      · rename_i hself
        subst hself
        have hanswer := answer_loadInto s r resolved (c.remove resolved)
        rw [hname, hload, Option.bind_some] at hanswer
        exact .inr ⟨spec, by rw [hload]; exact hanswer.symm, by rw [hload]; rfl⟩
      · exact .inl (by rw [hload])
    · rename_i cache hload
      exact .inl (by rw [hload])

theorem restored_reloadInto (s : Settings) (r : Repository) (name : String) (c : Cache) :
    s.substitutor.substitute r name = none ∧ (reloadInto s r name c).2 = c.remove name ∨
      ∃ resolved, s.substitutor.substitute r name = some resolved ∧
        Restored (loadInto s r resolved (c.remove name)).2 (reloadInto s r name c).2 := by
  refine (reloadInto_cases s r name c).imp_right fun ⟨resolved, hresolved, h⟩ =>
    ⟨resolved, hresolved, h.imp_right fun ⟨spec, hspec, heq⟩ => ⟨name, spec, hspec, heq⟩⟩

theorem isInitialized_addInto (s : Settings) (r : Repository) (name : String) (c : Cache) :
    (addInto s r name c).isInitialized = c.isInitialized :=
  (restored_addInto s r name c).isInitialized.trans (isInitialized_loadInto s r name c)

theorem isInitialized_reloadInto (s : Settings) (r : Repository) (name : String) (c : Cache) :
    (reloadInto s r name c).2.isInitialized = c.isInitialized := by
  rcases restored_reloadInto s r name c with ⟨-, hremoved⟩ | ⟨resolved, -, hrestored⟩
  · rw [hremoved, Cache.isInitialized_remove]
  · rw [hrestored.isInitialized, isInitialized_loadInto, Cache.isInitialized_remove]

theorem isInitialized_applyChanges (s : Settings) (r : Repository) (changes : Changes)
    (c : Cache) : (applyChanges s r changes c).isInitialized = c.isInitialized := by
  unfold applyChanges
  rw [isInitialized_foldl fun c name => isInitialized_addInto s r name c,
    isInitialized_foldl fun c name => isInitialized_reloadInto s r name c,
    isInitialized_foldl Cache.isInitialized_remove]

/-! ### Reloading step by step -/

/-- A property of caches, relative to a list of stale classes, that holds through all steps of
reloading. A class that is removed or reloaded is no longer stale; nothing is stale when classes
are added. -/
structure Stepwise (s : Settings) (r : Repository) (P : List String → Cache → Prop) : Prop where
  remove : ∀ {name : String} {stale : List String} {c : Cache}, P (name :: stale) c →
    P stale (c.remove name)
  reloadInto : ∀ {name : String} {stale : List String} {c : Cache}, P (name :: stale) c →
    P stale (reloadInto s r name c).2
  addInto : ∀ {c : Cache} (name : String), P [] c → P [] (addInto s r name c)

/-- If each step takes its class off the list of stale ones, all of them are off in the end. -/
theorem foldl_stale {P : List String → Cache → Prop} {f : Cache → String → Cache}
    (hf : ∀ {name : String} {stale : List String} {c : Cache}, P (name :: stale) c →
      P stale (f c name))
    {names stale : List String} {c : Cache} (h : P (names ++ stale) c) :
    P stale (names.foldl f c) := by
  induction names generalizing c with
  | nil => exact h
  | cons name names ih => exact ih (hf h)

namespace Stepwise

variable {P : List String → Cache → Prop} {c : Cache}

/-- What removals, loads, and storing again what is cached keep holds through all steps. -/
theorem of_loads
    (hremove : ∀ {name : String} {stale : List String} {c : Cache}, P (name :: stale) c →
      P stale (c.remove name))
    (hload : ∀ {stale : List String} {c : Cache} (name : String), P stale c →
      P stale (Loader.loadInto s r name c).2)
    (hrestored : ∀ {stale : List String} {c c' : Cache}, P stale c → Restored c c' → P stale c') :
    Stepwise s r P := by
  refine ⟨hremove, fun {name stale c} h => ?_, fun {c} name h => ?_⟩
  · rcases restored_reloadInto s r name c with ⟨-, hremoved⟩ | ⟨resolved, -, hstored⟩
    · rw [hremoved]
      exact hremove h
    · exact hrestored (hload resolved (hremove h)) hstored
  · exact hrestored (hload name h) (restored_addInto s r name c)

/-- **The changes take every stale class out**, whichever of them the loads find before its
turn. -/
theorem applyChanges (hP : Stepwise s r P) {changes : Changes}
    (h : P (changes.evicted ++ changes.reloaded) c) : P [] (applyChanges s r changes c) := by
  have hevicted : P changes.reloaded (changes.evicted.foldl Cache.remove c) :=
    foldl_stale hP.remove h
  rw [← List.append_nil changes.reloaded] at hevicted
  have hreloaded := foldl_stale hP.reloadInto hevicted
  exact List.foldlRecOn changes.added _ hreloaded fun _ hc name _ => hP.addInto name hc

end Stepwise

/-! ### Caches all but some of whose specifications are sound -/

/-- The specification is what loading makes of a class that some name stands for. -/
def Made (s : Settings) (r : Repository) (name : String) (spec : Specification) : Prop :=
  (∃ requested, target? s r requested = some name) ∧
    ∃ d, r.get? name = some d ∧ spec = (s.describe r d).completed

/-- **A course only adds what loading makes.** -/
theorem Course.made {names : List String} {cache last : Cache} {calls : List Call}
    (h : Course s r names cache calls last) {name : String} {spec : Specification}
    (hspec : last.get? name = some spec) : cache.get? name = some spec ∨ Made s r name spec := by
  cases hold : cache.get? name with
  | some old =>
    rw [h.keeps name old hold] at hspec
    exact .inl hspec
  | none =>
    have hnew : ¬ cache.contains name := (Cache.not_contains_iff ..).mpr hold
    have htarget : cache.contains name ∨ ∃ requested, target? s r requested = some name :=
      h.within (P := fun resolved => ∃ requested, target? s r requested = some resolved)
        (fun requested _ _ h => ⟨requested, h⟩) (fun _ _ _ _ type _ _ h => ⟨type, h⟩)
        ((Cache.contains_iff ..).mpr ⟨spec, hspec⟩)
    have hdescribed := (h.described hspec).resolve_left fun h => by rw [hold] at h; cases h
    exact .inr ⟨htarget.resolve_left hnew, hdescribed⟩

/-- The cache is coherent, and all its specifications have the property but for those of the stale
classes. -/
structure AllBut (Q : String → Specification → Prop) (stale : List String) (c : Cache) : Prop where
  coherent : c.Coherent
  each : ∀ {name : String} {spec : Specification}, c.get? name = some spec →
    name ∈ stale ∨ Q name spec

namespace AllBut

variable {Q : String → Specification → Prop} {stale : List String} {c : Cache}

theorem empty (Q : String → Specification → Prop) (stale : List String) :
    AllBut Q stale .empty :=
  ⟨Cache.coherent_empty, fun h => by cases h⟩

/-- Where nothing is stale, every specification has the property. -/
theorem all (h : AllBut Q [] c) {name : String} {spec : Specification}
    (hspec : c.get? name = some spec) : Q name spec :=
  (h.each hspec).resolve_left List.not_mem_nil

theorem mono (h : AllBut Q stale c) {more : List String} (hmore : ∀ n ∈ stale, n ∈ more) :
    AllBut Q more c :=
  ⟨h.coherent, fun hspec => (h.each hspec).imp_left (hmore _)⟩

/-- Storing a specification again that is cached changes at most the index. -/
theorem restored (h : AllBut Q stale c) {c' : Cache} (hrestored : Restored c c') :
    AllBut Q stale c' := by
  refine ⟨hrestored.coherent h.coherent, fun {other spec} hspec => ?_⟩
  rw [hrestored.get? h.coherent] at hspec
  exact h.each hspec

/-- A class that is removed is no longer stale. -/
theorem remove {name : String} (h : AllBut Q (name :: stale) c) :
    AllBut Q stale (c.remove name) := by
  refine ⟨h.coherent.remove name, fun {other spec} hspec => ?_⟩
  rw [Cache.get?_remove] at hspec
  split at hspec
  · cases hspec
  · rename_i hother
    exact (h.each hspec).imp_left fun hmem => (List.mem_cons.mp hmem).resolve_left hother

theorem snapshot (h : AllBut Q stale c) : AllBut Q stale c.snapshot := by
  refine ⟨h.coherent.snapshot, fun {name spec} hspec => ?_⟩
  rw [Cache.get?_snapshot] at hspec
  exact h.each (Option.filter_eq_some_iff.mp hspec).1

theorem buildIndex (h : AllBut Q stale c) {c' : Cache} (hbuild : c.buildIndex = .ok c') :
    AllBut Q stale c' := by
  refine ⟨h.coherent.buildIndex hbuild, fun {name spec} hspec => ?_⟩
  rw [Cache.get?_buildIndex hbuild] at hspec
  exact h.each hspec

variable (hmade : ∀ {name : String} {spec : Specification}, Made s r name spec → Q name spec)
include hmade

/-- **A load keeps what is sound**: what it finds it keeps, stale or not, and what it adds is what
loading makes. -/
theorem loadInto (h : AllBut Q stale c) (name : String) :
    AllBut Q stale (loadInto s r name c).2 := by
  obtain ⟨calls, hcourse⟩ := course_loadInto s r name c
  refine ⟨coherent_loadInto h.coherent s r name, fun {other spec} hspec => ?_⟩
  rcases hcourse.made hspec with hold | hnew
  · exact h.each hold
  · exact .inr (hmade hnew)

theorem loadAll (h : AllBut Q stale c) (names : List String) :
    AllBut Q stale (loadAll s r names c) :=
  List.foldlRecOn names _ h fun _ hc name _ => hc.loadInto hmade name

/-- **The steps of a reload only make what loading makes**, and what they remove or make again is no
longer stale. -/
theorem stepwise : Stepwise s r (AllBut Q) :=
  .of_loads remove (fun name h => h.loadInto hmade name) fun h hrestored => h.restored hrestored

end AllBut

/-! ### Caches that are up to date -/

/-- The specification is complete, and its class is in the repository with the same fingerprint. -/
def Current (r : Repository) (name : String) (spec : Specification) : Prop :=
  spec.state = .complete ∧ ∃ d, r.get? name = some d ∧ d.fingerprint = spec.fingerprint

theorem Made.current {name : String} {spec : Specification} (h : Made s r name spec) :
    Current r name spec := by
  obtain ⟨-, d, hd, rfl⟩ := h
  exact ⟨rfl, d, hd, rfl⟩

/-- The cache is coherent, and all its specifications are current but for those of the stale
classes. -/
structure UpToDate (r : Repository) (stale : List String) (c : Cache) : Prop where
  coherent : c.Coherent
  current : ∀ {name : String} {spec : Specification}, c.get? name = some spec →
    name ∈ stale ∨ Current r name spec

theorem upToDate_iff {stale : List String} {c : Cache} :
    UpToDate r stale c ↔ AllBut (Current r) stale c :=
  ⟨fun h => ⟨h.coherent, h.current⟩, fun h => ⟨h.coherent, h.each⟩⟩

theorem UpToDate.all {c : Cache} (h : UpToDate r [] c) {name : String} {spec : Specification}
    (hspec : c.get? name = some spec) : Current r name spec :=
  (upToDate_iff.mp h).all hspec

/-! ### Fates -/

theorem mem_classesWith {c : Cache} (hc : c.Coherent) {name : String} {spec : Specification}
    (hspec : c.get? name = some spec) : name ∈ classesWith s r c (fate s r spec) := by
  refine List.mem_map.mpr ⟨spec, List.mem_filter.mpr ⟨?_, by simp⟩, hc.keyed hspec⟩
  exact (Cache.mem_all_iff c spec).mpr ⟨name, hspec⟩

/-- What is kept stands for itself, and its class has not changed as far as fingerprints tell. -/
theorem fate_eq_kept_iff {spec : Specification} :
    fate s r spec = .kept ↔
      s.substitutor.substitute r spec.className = some spec.className ∧
        ∃ d, r.get? spec.className = some d ∧ d.fingerprint = spec.fingerprint := by
  constructor
  · intro h
    unfold fate at h
    split at h
    · cases h
    · rename_i d hd
      split at h
      · cases h
      split at h
      · cases h
      · exact ⟨Classical.not_not.mp ‹_›, d, hd, Classical.not_not.mp ‹_›⟩
  · rintro ⟨hself, d, hd, hfingerprint⟩
    simp [fate, hd, hself, hfingerprint]

/-- **Under another repository, every class is evicted, reloaded, or kept.** -/
theorem AllBut.fates {P Q : String → Specification → Prop} {c : Cache} (h : AllBut P [] c)
    (hkept : ∀ {name : String} {spec : Specification}, c.get? name = some spec → P name spec →
      fate s r spec = .kept → Q name spec) :
    AllBut Q (classesWith s r c .evicted ++ classesWith s r c .reloaded) c := by
  refine ⟨h.coherent, fun {name spec} hspec => ?_⟩
  have hmem : name ∈ classesWith s r c (fate s r spec) := mem_classesWith h.coherent hspec
  cases hfate : fate s r spec with
  | kept => exact .inr (hkept hspec (h.all hspec) hfate)
  | reloaded => exact .inl (List.mem_append_right _ (hfate ▸ hmem))
  | evicted => exact .inl (List.mem_append_left _ (hfate ▸ hmem))

end Loader
end Facetry
