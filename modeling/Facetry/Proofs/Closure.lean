/-
# Closed sets of classes

A set of classes is closed if it has, with each class, the classes that the description of
that class refers to. What can be reached from some names is the least closed set that has
what the names stand for (`Reachable.of_closed`). The steps of a reload stay within a closed
set: beside what was cached they cache classes of the set only. So they need not be followed
call by call to know which classes can come in.

The cache of a loader is closed itself between two steps. A load leaves it closed, because
a course completes whatever it begins; and so does a class that is built again and is the
same as before (`closed_reloadInto`). If all that is cached is what loading makes from the
repository, the names of the cached classes determine the rest (`AllBut.get?_eq`).

Key definitions: `Loader.Closed`, `Loader.AddsWithin`.
Key theorems: `Loader.Reachable.of_closed`, `Loader.AddsWithin.applyChanges`,
`Loader.within_run_init_load`, `Loader.Course.closed_last`, `Loader.closed_reloadInto`,
`Loader.AllBut.get?_eq`.
-/
import Facetry.Proofs.Exchange
import Facetry.Proofs.Substitution

namespace Facetry
namespace Loader

variable {s : Settings} {r : Repository}

/-! ### Closed sets -/

/-- What the descriptions of the classes refer to is in the set too, as far as the repository knows
it. -/
def Closed (s : Settings) (r : Repository) (P : String → Prop) : Prop :=
  ∀ name d, P name → r.get? name = some d → ∀ type ∈ (s.describe r d).referencedTypes,
    ∀ resolved, target? s r type = some resolved → P resolved

theorem Reachable.closed (s : Settings) (r : Repository) (requested : List String) :
    Closed s r (Reachable s r requested) :=
  fun _ _ hname hd _ htype _ htarget => .referenced hname hd htype htarget

/-- **What can be reached is in every closed set** that has what the names stand for. -/
theorem Reachable.of_closed {P : String → Prop} (hclosed : Closed s r P) {requested : List String}
    (hrequested : ∀ name ∈ requested, ∀ resolved, target? s r name = some resolved → P resolved)
    {name : String} (h : Reachable s r requested name) : P name := by
  induction h with
  | requested hname htarget => exact hrequested _ hname _ htarget
  | referenced _ hd htype htarget ih => exact hclosed _ _ ih hd _ htype _ htarget

/-- What a name stands for stands for itself, where the substitution is idempotent. -/
theorem target?_of_idempotent (h : s.substitutor.Idempotent r) {requested name : String}
    (hrequested : target? s r requested = some name) : target? s r name = some name := by
  obtain ⟨hname, hknown⟩ := target?_eq_some_iff.mp hrequested
  exact target?_eq_some_iff.mpr ⟨h requested name hname, hknown⟩

/-- What can be reached stands for itself, where the substitution is idempotent. -/
theorem Reachable.target (h : s.substitutor.Idempotent r) {requested : List String} {name : String}
    (hname : Reachable s r requested name) : target? s r name = some name := by
  cases hname with
  | requested _ htarget => exact target?_of_idempotent h htarget
  | referenced _ _ _ htarget => exact target?_of_idempotent h htarget

/-! ### What comes into a cache -/

/-- Storing a specification again caches no other class. -/
theorem Restored.contains_iff {a b : Cache} (h : Restored a b) (ha : a.Coherent) (name : String) :
    b.contains name ↔ a.contains name := by
  rw [Cache.contains_iff, Cache.contains_iff, h.get? ha]

/-- The second cache is coherent, and beside classes of the first one it has only classes of the
set. -/
structure AddsWithin (P : String → Prop) (a b : Cache) : Prop where
  coherent : b.Coherent
  contains : ∀ {name : String}, b.contains name → a.contains name ∨ P name

namespace AddsWithin

variable {P : String → Prop}

theorem refl {a : Cache} (ha : a.Coherent) : AddsWithin P a a := ⟨ha, .inl⟩

theorem trans {a b c : Cache} (h : AddsWithin P a b) (h' : AddsWithin P b c) : AddsWithin P a c :=
  ⟨h'.coherent, fun hname => (h'.contains hname).elim h.contains .inr⟩

theorem foldl {f : Cache → String → Cache} {a : Cache} (ha : a.Coherent) (names : List String)
    (hf : ∀ c name, name ∈ names → c.Coherent → AddsWithin P c (f c name)) :
    AddsWithin P a (names.foldl f a) :=
  List.foldlRecOn names f (refl ha) fun c hc name hname => hc.trans (hf c name hname hc.coherent)

theorem restored {a b c : Cache} (h : AddsWithin P a b) (hrestored : Restored b c) :
    AddsWithin P a c :=
  ⟨hrestored.coherent h.coherent, fun hname =>
    h.contains ((hrestored.contains_iff h.coherent _).mp hname)⟩

theorem remove {a : Cache} (ha : a.Coherent) (name : String) : AddsWithin P a (a.remove name) :=
  ⟨ha.remove name, fun hname => .inl ((a.contains_remove ..).mp hname).2⟩

variable (hclosed : Closed s r P)
include hclosed

/-- **A load caches only what is in a closed set**, beside what was cached, if the set has what its
name stands for. -/
theorem loadInto {name : String} {c : Cache} (hc : c.Coherent)
    (hname : ∀ resolved, target? s r name = some resolved → P resolved) :
    AddsWithin P c (loadInto s r name c).2 := by
  obtain ⟨calls, hcourse⟩ := course_loadInto s r name c
  exact ⟨coherent_loadInto hc s r name, hcourse.within (by simpa using hname) hclosed⟩

theorem addInto {name : String} {c : Cache} (hc : c.Coherent)
    (hname : ∀ resolved, target? s r name = some resolved → P resolved) :
    AddsWithin P c (addInto s r name c) :=
  (loadInto hclosed hc hname).restored (restored_addInto s r name c)

/-- A class that stands for itself brings in only what is in a closed set with it when it is
reloaded. -/
theorem reloadInto {name : String} {c : Cache} (hc : c.Coherent)
    (hself : target? s r name = some name) (hname : P name) :
    AddsWithin P c (reloadInto s r name c).2 := by
  obtain ⟨spec, hspec, heq⟩ := reloadInto_of_target hself c
  have htarget : ∀ resolved, target? s r name = some resolved → P resolved := by
    rw [hself]
    rintro _ ⟨⟩
    exact hname
  have hremoved : AddsWithin P c (c.remove name) := remove hc name
  exact (hremoved.trans (loadInto hclosed hremoved.coherent htarget)).restored
    (.inr ⟨name, spec, hspec, heq⟩)

/-- **The changes cache only what is in a closed set**, beside what was cached, if the classes to be
built again stand for themselves and are in the set, and it has what the added names stand for. -/
theorem applyChanges (changes : Changes) {c : Cache} (hc : c.Coherent)
    (hreloaded : ∀ name ∈ changes.reloaded, target? s r name = some name ∧ P name)
    (hadded : ∀ name ∈ changes.added, ∀ resolved, target? s r name = some resolved →
      P resolved) :
    AddsWithin P c (applyChanges s r changes c) := by
  have hevicted : AddsWithin P c (changes.evicted.foldl Cache.remove c) :=
    foldl hc changes.evicted fun c name _ hc => remove hc name
  have hreloads := foldl (P := P) hevicted.coherent changes.reloaded
    fun c name hname hc => reloadInto hclosed hc (hreloaded name hname).1 (hreloaded name hname).2
  have hadditions := foldl (P := P) hreloads.coherent changes.added
    fun c name hname hc => addInto hclosed hc (hadded name hname)
  exact (hevicted.trans hreloads).trans hadditions

end AddsWithin

/-- What is cached at the start is in every closed set that has what the domain classes stand
for. -/
theorem within_run_init {P : String → Prop} (hclosed : Closed s r P)
    (hdomain : ∀ name ∈ r.domain, ∀ resolved, target? s r name = some resolved → P resolved)
    {name : String} (hname : ((new s r).run [.init]).cache.contains name) : P name := by
  obtain ⟨c, failures, hbuild, hinit⟩ := perform_init_new s r
  rw [show (new s r).run [.init] = ⟨s, r, c, failures⟩ from hinit,
    Cache.contains_buildIndex hbuild] at hname
  obtain ⟨calls, hcourse⟩ := course_loadAll s r r.domain .empty
  exact (hcourse.within hdomain hclosed hname).resolve_left (not_contains_empty name)

/-- A class that is loaded after the start comes to what was cached at the start. -/
theorem cache_run_init_load (s : Settings) (r : Repository) (name : String) :
    ((new s r).run [.init, .load name]).cache =
      (Loader.loadInto s r name ((new s r).run [.init]).cache).2 := by
  obtain ⟨c, failures, -, hinit⟩ := perform_init_new s r
  show (((new s r).perform .init).perform (.load name)).cache =
    (Loader.loadInto s r name ((new s r).perform .init).cache).2
  rw [hinit]
  rfl

/-- A class that is loaded after the start brings in only what is in a closed set with it. -/
theorem within_run_init_load {P : String → Prop} (hclosed : Closed s r P)
    (hdomain : ∀ name ∈ r.domain, ∀ resolved, target? s r name = some resolved → P resolved)
    {name : String} (hname : ∀ resolved, target? s r name = some resolved → P resolved)
    {other : String} (hother : ((new s r).run [.init, .load name]).cache.contains other) :
    P other := by
  rw [cache_run_init_load] at hother
  have hload := AddsWithin.loadInto hclosed (coherent_run s r [.init]).coherent hname
  exact (hload.contains hother).elim (within_run_init hclosed hdomain) id

/-! ### Closed caches -/

theorem closed_empty (s : Settings) (r : Repository) : Closed s r (Cache.empty.contains ·) :=
  fun name _ hname => absurd hname (not_contains_empty name)

/-- **A course that finds a closed cache leaves one.** -/
theorem Course.closed_last {names : List String} {cache last : Cache} {calls : List Call}
    (h : Course s r names cache calls last) (hclosed : Closed s r (cache.contains ·)) :
    Closed s r (last.contains ·) := by
  intro name d hname hd type htype resolved htarget
  by_cases hold : cache.contains name
  · exact h.keeps.grows _ (hclosed name d hold hd type htype resolved htarget)
  · exact h.closed hold hname hd htype htarget

theorem closed_loadAll {c : Cache} (h : Closed s r (c.contains ·)) (names : List String) :
    Closed s r ((loadAll s r names c).contains ·) := by
  obtain ⟨calls, hcourse⟩ := course_loadAll s r names c
  exact hcourse.closed_last h

theorem closed_loadInto {c : Cache} (h : Closed s r (c.contains ·)) (name : String) :
    Closed s r ((loadInto s r name c).2.contains ·) :=
  closed_loadAll h [name]

/-- What counts is which classes are cached. -/
theorem Closed.congr {c c' : Cache} (h : Closed s r (c.contains ·))
    (hsame : ∀ name, c'.contains name ↔ c.contains name) : Closed s r (c'.contains ·) :=
  fun name d hname hd type htype resolved htarget =>
    (hsame resolved).mpr (h name d ((hsame name).mp hname) hd type htype resolved htarget)

/-- A class that stands for itself is cached after it was reloaded, with what was cached before and
nothing else, if the cache was closed and had the class. -/
theorem contains_reloadInto_iff {c : Cache} (hc : c.Coherent) (hclosed : Closed s r (c.contains ·))
    {name : String} (hself : target? s r name = some name) (hname : c.contains name)
    (other : String) : (reloadInto s r name c).2.contains other ↔ c.contains other := by
  constructor
  · intro h
    have hadded := AddsWithin.reloadInto hclosed hc hself hname
    exact (hadded.contains h).elim id id
  · intro h
    by_cases hother : other = name
    · exact hother ▸ contains_reloadInto hself c
    · exact contains_reloadInto_of_ne hother h

/-- **A closed cache is closed after a class was reloaded**, if the class stands for itself or was
not cached. -/
theorem closed_reloadInto {c : Cache} (hc : c.Coherent) (h : Closed s r (c.contains ·))
    {name : String} (hself : c.contains name → target? s r name = some name) :
    Closed s r ((reloadInto s r name c).2.contains ·) := by
  by_cases hname : c.contains name
  · exact h.congr (contains_reloadInto_iff hc h (hself hname) hname)
  -- there is nothing to remove, so that the class is loaded like any other
  have hremove : c.remove name = c := by
    rw [Cache.remove, (Cache.not_contains_iff ..).mp hname]
  rcases restored_reloadInto s r name c with ⟨-, heq⟩ | ⟨resolved, -, hrestored⟩
  · rw [heq, hremove]
    exact h
  · rw [hremove] at hrestored
    exact (closed_loadInto h resolved).congr
      (hrestored.contains_iff (coherent_loadInto hc s r resolved))

/-! ### Caches of the same classes -/

/-- **Which classes are cached determines their specifications**, if these are what loading makes
from the repository. -/
theorem AllBut.get?_eq {c c' : Cache} (h : AllBut (Made s r) [] c) (h' : AllBut (Made s r) [] c')
    (hsame : ∀ name, c'.contains name ↔ c.contains name) (name : String) :
    c'.get? name = c.get? name := by
  cases hspec : c.get? name with
  | none =>
    have hnot := (Cache.not_contains_iff ..).mpr hspec
    exact (Cache.not_contains_iff ..).mp fun hname => hnot ((hsame name).mp hname)
  | some spec =>
    obtain ⟨spec', hspec'⟩ := (Cache.contains_iff ..).mp
      ((hsame name).mpr ((Cache.contains_iff ..).mpr ⟨spec, hspec⟩))
    rw [hspec', (h.all hspec).unique (h'.all hspec')]

end Loader
end Facetry
