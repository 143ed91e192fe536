/-
# What a reload reports

A reload with another repository reports which classes it has evicted, built again and
added. The report accounts for all that has changed in the cache: what is gone is what was
evicted, what is still there is as it was unless it was built again, and what has come in
can be reached from what was built again or added (`Loader.Changes.AccountsFor`).

What is cached is evicted exactly if it does not stand for itself any more. The loads of the
same reload could bring such a class back, for they load what a name stands for, whatever
that is. If the substitution is idempotent, that is always a class that stands for itself,
so that an evicted class stays out (`Loader.target?_of_contains_applyChanges`).

Key definitions: `Loader.Changes.AccountsFor`.
Key theorems: `Loader.fate_eq_evicted_iff`, `Loader.target?_of_contains_applyChanges`,
`Loader.mem_evicted_iff`, `Loader.reachable_of_contains_applyChanges`,
`Loader.reload_accounts_for_changes`.
-/
import Facetry.Proofs.Closure
import Facetry.Proofs.ObjectTypes
import Facetry.Proofs.Substitution

namespace Facetry
namespace Loader

variable {s : Settings} {r : Repository}

/-! ### Fates -/

/-- A class is evicted if it does not stand for itself, or is not known. -/
theorem fate_eq_evicted_iff {spec : Specification} :
    fate s r spec = .evicted ↔ target? s r spec.className ≠ some spec.className := by
  cases hd : r.get? spec.className with
  | none => simp [fate, target?_eq_some_iff, hd]
  | some d =>
    by_cases hself : s.substitutor.substitute r spec.className = some spec.className
    · by_cases hsame : d.fingerprint = spec.fingerprint <;>
        simp [fate, target?_eq_some_iff, hd, hself, hsame]
    · simp [fate, target?_eq_some_iff, hd, hself]

/-- A class is built again if it stands for itself and has changed. -/
theorem fate_eq_reloaded_iff {spec : Specification} :
    fate s r spec = .reloaded ↔ target? s r spec.className = some spec.className ∧
      ∃ d, r.get? spec.className = some d ∧ d.fingerprint ≠ spec.fingerprint := by
  cases hd : r.get? spec.className with
  | none => simp [fate, hd]
  | some d =>
    by_cases hself : s.substitutor.substitute r spec.className = some spec.className
    · by_cases hsame : d.fingerprint = spec.fingerprint <;>
        simp [fate, target?_eq_some_iff, hd, hself, hsame]
    · simp [fate, target?_eq_some_iff, hd, hself]

/-! ### What is gone, what stays, and what comes in -/

section Exchanged

variable {l : Loader} (hl : l.Coherent)
include hl

/-- **What is cached after a reload stands for itself**, if the substitution is idempotent. -/
theorem target?_of_contains_applyChanges (hidempotent : l.settings.substitutor.Idempotent r)
    {name : String}
    (h : (applyChanges l.settings r (l.changes r) l.cache.snapshot).contains name) :
    target? l.settings r name = some name := by
  obtain ⟨spec, hspec⟩ := (Cache.contains_iff ..).mp h
  rcases kept_or_made hl.coherent r hspec with ⟨hbefore, hfate⟩ | ⟨⟨requested, hrequested⟩, -⟩
  · obtain ⟨hself, d, hd, -⟩ := fate_eq_kept_iff.mp hfate
    rw [hl.coherent.keyed hbefore] at hself hd
    exact target?_eq_some_iff.mpr ⟨hself, d, hd⟩
  · exact target?_of_idempotent hidempotent hrequested

/-- A cached class that stands for itself stays. -/
theorem contains_applyChanges_of_cached {name : String} (h : l.cache.contains name)
    (hself : target? l.settings r name = some name) :
    (applyChanges l.settings r (l.changes r) l.cache.snapshot).contains name := by
  rw [hl.snapshot_eq]
  exact contains_applyChanges hself h

/-- **The classes that are gone are those that were evicted.** -/
theorem mem_evicted_iff (hidempotent : l.settings.substitutor.Idempotent r) (name : String) :
    name ∈ (l.changes r).evicted ↔ l.cache.contains name ∧
      ¬ (applyChanges l.settings r (l.changes r) l.cache.snapshot).contains name := by
  constructor
  · intro hevicted
    obtain ⟨spec, hspec, hfate⟩ := (mem_classesWith_iff hl.coherent).mp hevicted
    have hother := fate_eq_evicted_iff.mp hfate
    rw [hl.coherent.keyed hspec] at hother
    exact ⟨(Cache.contains_iff ..).mpr ⟨spec, hspec⟩, fun hstays =>
      hother (target?_of_contains_applyChanges hl hidempotent hstays)⟩
  · rintro ⟨hcached, hgone⟩
    obtain ⟨spec, hspec⟩ := (Cache.contains_iff ..).mp hcached
    refine (mem_classesWith_iff hl.coherent).mpr ⟨spec, hspec, fate_eq_evicted_iff.mpr ?_⟩
    rw [hl.coherent.keyed hspec]
    exact fun hself => hgone (contains_applyChanges_of_cached hl hcached hself)

/-- **What stays is as it was**, unless it was built again. -/
theorem get?_applyChanges_of_not_reloaded (hidempotent : l.settings.substitutor.Idempotent r)
    {name : String} {spec : Specification} (hspec : l.cache.get? name = some spec)
    (hstays : (applyChanges l.settings r (l.changes r) l.cache.snapshot).contains name)
    (hreloaded : name ∉ (l.changes r).reloaded) :
    (applyChanges l.settings r (l.changes r) l.cache.snapshot).get? name = some spec := by
  have hmem : name ∈ classesWith l.settings r l.cache (fate l.settings r spec) :=
    mem_classesWith hl.coherent hspec
  cases hfate : fate l.settings r spec with
  | kept => exact get?_applyChanges_of_kept hl hspec hfate
  | reloaded =>
    rw [hfate] at hmem
    exact absurd hmem hreloaded
  | evicted =>
    rw [hfate] at hmem
    exact absurd hstays ((mem_evicted_iff hl hidempotent name).mp hmem).2

/-- The classes that are built again are those that stand for themselves and have changed. -/
theorem mem_reloaded_iff {name : String} :
    name ∈ (l.changes r).reloaded ↔ target? l.settings r name = some name ∧
      ∃ old d, l.cache.get? name = some old ∧ r.get? name = some d ∧
        d.fingerprint ≠ old.fingerprint := by
  refine (mem_classesWith_iff hl.coherent).trans ⟨?_, ?_⟩
  · rintro ⟨old, hold, hfate⟩
    obtain ⟨hself, d, hd, hchanged⟩ := fate_eq_reloaded_iff.mp hfate
    rw [hl.coherent.keyed hold] at hself hd
    exact ⟨hself, old, d, hold, hd, hchanged⟩
  · rintro ⟨hself, old, d, hold, hd, hchanged⟩
    refine ⟨old, hold, fate_eq_reloaded_iff.mpr ?_⟩
    rw [hl.coherent.keyed hold]
    exact ⟨hself, d, hd, hchanged⟩

/-- A class that is built again is cached with the fingerprint that it has in the repository. -/
theorem exists_get?_of_mem_reloaded {name : String} (h : name ∈ (l.changes r).reloaded) :
    ∃ spec d, r.get? name = some d ∧ spec.fingerprint = d.fingerprint ∧
      (applyChanges l.settings r (l.changes r) l.cache.snapshot).get? name = some spec := by
  obtain ⟨hself, old, -, hold, -⟩ := (mem_reloaded_iff hl).mp h
  obtain ⟨spec, hspec⟩ := (Cache.contains_iff ..).mp
    (contains_applyChanges_of_cached hl ((Cache.contains_iff ..).mpr ⟨old, hold⟩) hself)
  obtain ⟨-, d, hd, hfingerprint⟩ := ((Effect.exchanged r).upToDate hl).all hspec
  exact ⟨spec, d, hd, hfingerprint.symm, hspec⟩

/-- **What comes in can be reached from what was built again or added.** -/
theorem reachable_of_contains_applyChanges {name : String}
    (h : (applyChanges l.settings r (l.changes r) l.cache.snapshot).contains name)
    (hnew : ¬ l.cache.contains name) :
    Reachable l.settings r ((l.changes r).reloaded ++ (l.changes r).added) name := by
  have hadds := AddsWithin.applyChanges
    (Reachable.closed l.settings r ((l.changes r).reloaded ++ (l.changes r).added))
    (l.changes r) hl.coherent.snapshot
    (fun other hother => ?_) (fun other hother resolved hresolved => ?_)
  · rw [hl.snapshot_eq] at h hadds
    exact (hadds.contains h).resolve_left hnew
  · obtain ⟨hself, -⟩ := (mem_reloaded_iff hl).mp hother
    exact ⟨hself, .requested (List.mem_append_left _ hother) hself⟩
  · exact .requested (List.mem_append_right _ hother) hresolved

end Exchanged

/-! ### Reports -/

/-- The report accounts for what a reload with the repository has made of the cache. -/
structure Changes.AccountsFor (changes : Changes) (s : Settings) (r : Repository)
    (before after : Cache) : Prop where
  /-- The classes are listed in their order, each once. -/
  evicted_ascending : changes.evicted.Pairwise (· < ·)
  reloaded_ascending : changes.reloaded.Pairwise (· < ·)
  /-- No class is in two of the lists. -/
  evicted_reloaded : ∀ name ∈ changes.evicted, name ∉ changes.reloaded
  added_evicted : ∀ name ∈ changes.added, name ∉ changes.evicted
  added_reloaded : ∀ name ∈ changes.added, name ∉ changes.reloaded
  /-- The evicted classes are gone, and no others. -/
  gone : ∀ name, name ∈ changes.evicted ↔ before.contains name ∧ ¬ after.contains name
  /-- What stays is as it was, unless it was built again. -/
  stays : ∀ name spec, before.get? name = some spec → after.contains name →
    name ∉ changes.reloaded → after.get? name = some spec
  /-- What was built again had changed, and agrees with the repository. -/
  built : ∀ name ∈ changes.reloaded, ∃ old spec d, before.get? name = some old ∧
    after.get? name = some spec ∧ r.get? name = some d ∧ spec.fingerprint = d.fingerprint ∧
    old.fingerprint ≠ d.fingerprint
  /-- What comes in can be reached from what was built again or added. -/
  comes : ∀ name, after.contains name → ¬ before.contains name →
    Reachable s r (changes.reloaded ++ changes.added) name

/-- **A reload touches only what it reports.** Whatever the loader was asked before, the report of a
reload accounts for all that it changes in the cache, if the substitution of the new repository is
idempotent. -/
theorem reload_accounts_for_changes (s : Settings) (r : Repository) (requests : List Request)
    (r' : Repository) (hinit : ((new s r).run requests).isInitialized)
    (hidempotent : s.substitutor.Idempotent r') :
    ∃ changes l', ((new s r).run requests).reloadChanged r' = .ok (changes, l') ∧
      changes.AccountsFor s r' ((new s r).run requests).cache l'.cache := by
  have hl := coherent_run s r requests
  have hs : ((new s r).run requests).settings = s := settings_run ..
  generalize (new s r).run requests = l at hl hs hinit
  subst hs
  refine ⟨_, _, reloadChanged_eq_ok hinit r', ?_⟩
  have hcached : ∀ name ∈ (l.changes r').added, ∀ f,
      name ∉ classesWith l.settings r' l.cache f := fun name hadded f hmem => by
    have hnew := (List.mem_filter.mp hadded).2
    simp [contains_of_mem_classesWith hl.coherent hmem] at hnew
  refine
    { evicted_ascending := ascending_classesWith hl.coherent .evicted
      reloaded_ascending := ascending_classesWith hl.coherent .reloaded
      evicted_reloaded := fun name hname hother => ?_
      added_evicted := fun name hname => hcached name hname .evicted
      added_reloaded := fun name hname => hcached name hname .reloaded
      gone := mem_evicted_iff hl hidempotent
      stays := fun name spec hspec hstays hother =>
        get?_applyChanges_of_not_reloaded hl hidempotent hspec hstays hother
      built := fun name hname => ?_
      comes := fun name => reachable_of_contains_applyChanges hl }
  · cases eq_of_mem_classesWith hl.coherent hname hother
  · obtain ⟨-, old, d, hold, hd, hchanged⟩ := (mem_reloaded_iff hl).mp hname
    obtain ⟨spec, d', hd', hfingerprint, hspec⟩ := exists_get?_of_mem_reloaded hl hname
    rw [hd] at hd'
    cases hd'
    exact ⟨old, spec, d, hold, hspec, hd, hfingerprint, hchanged.symm⟩

/-- The list type of the shop, now a domain class, comes to inherit from the lists. It is reported
as built again, and the report accounts for all changes. -/
theorem reload_accounts_for_list_type :
    ((new (.ofConfiguration .empty) (.ofModel ⟨[basket, itemsType []], none⟩)).run
        [.init]).isInitialized ∧
      (Settings.ofConfiguration .empty).substitutor.Idempotent (shop ["java.util.List"]) ∧
      ∃ changes l',
        ((new (.ofConfiguration .empty) (.ofModel ⟨[basket, itemsType []], none⟩)).run
          [.init]).reloadChanged (shop ["java.util.List"]) = .ok (changes, l') ∧
        "shop.Items" ∈ changes.reloaded ∧
        changes.AccountsFor (.ofConfiguration .empty) (shop ["java.util.List"])
          ((new (.ofConfiguration .empty) (.ofModel ⟨[basket, itemsType []], none⟩)).run
            [.init]).cache l'.cache := by
  have hidempotent : (Settings.ofConfiguration .empty).substitutor.Idempotent
      (shop ["java.util.List"]) :=
    Substitutor.idempotent_of_classes (by decide +kernel)
  have hdomain : (itemsType []).name ∈ (Repository.ofModel ⟨[basket, itemsType []], none⟩).domain ∧
      target? (.ofConfiguration .empty) (.ofModel ⟨[basket, itemsType []], none⟩)
        (itemsType []).name = some (itemsType []).name ∧
      (Repository.ofModel ⟨[basket, itemsType []], none⟩).get? (itemsType []).name =
        some (itemsType []) := by
    decide +kernel
  have hchanged : target? (.ofConfiguration .empty) (shop ["java.util.List"]) "shop.Items" =
        some "shop.Items" ∧
      (shop ["java.util.List"]).get? "shop.Items" = some (itemsType ["java.util.List"]) ∧
      (itemsType ["java.util.List"]).fingerprint ≠ (itemsType []).fingerprint := by
    decide +kernel
  have hspec := get?_run_init hdomain.1 hdomain.2.1 hdomain.2.2
  have hinit := isInitialized_run_init (.ofConfiguration .empty)
    (.ofModel ⟨[basket, itemsType []], none⟩)
  obtain ⟨changes, l', hok, haccounts⟩ :=
    reload_accounts_for_changes (.ofConfiguration .empty) _ [.init] _ hinit hidempotent
  refine ⟨hinit, hidempotent, changes, l', hok, ?_, haccounts⟩
  have hreport := reloadChanged_eq_ok hinit (shop ["java.util.List"])
  obtain ⟨rfl, -⟩ := Prod.mk.inj (Except.ok.inj (hreport.symm.trans hok))
  refine (mem_reloaded_iff (coherent_run ..)).mpr ?_
  rw [settings_run]
  exact ⟨hchanged.1, _, _, hspec, hchanged.2⟩

end Loader
end Facetry
