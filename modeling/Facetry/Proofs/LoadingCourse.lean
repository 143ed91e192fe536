/-
# The course of loading

Loading a name is a recursion without an end in sight: what the specification of
a class refers to is loaded in turn, by the same cache. A course is what the
recursion does when nothing cuts it short, as the list of its calls with the
cache that each of them finds. There is at most one course from a cache, and
there is one: a call that begins a class caches it, so every later call finds
fewer names of the scope uncached. That number is below the bound with which
`loadInto` starts, so the bound is never met.

Key definitions: `Loader.begun?`, `Loader.Course`, `Loader.Precedes`, `Loader.uncached`.
Key theorems: `Loader.Course.pairwise_precedes`, `Loader.Course.unique`,
`Loader.course_loadInto`, `Loader.loading_ends`.
-/
import Facetry.Loader
import Facetry.Proofs.LoadingScope
import Mathlib.Data.Finset.Card
import Mathlib.Data.Finset.Dedup

namespace Facetry
namespace Loader

variable {s : Settings} {r : Repository}

/-! ### Calls -/

theorem get?_store_describe (cache : Cache) (d : Class) (name : String) :
    (cache.store (s.describe r d)).get? name =
      if name = d.name then some (s.describe r d) else cache.get? name :=
  Cache.get?_store ..

theorem get?_store_completed (cache : Cache) (d : Class) (name : String) :
    (cache.store (s.describe r d).completed).get? name =
      if name = d.name then some (s.describe r d).completed else cache.get? name :=
  Cache.get?_store ..

/-- A call that loads a name, and the cache that it finds. -/
structure Call where
  requested : String
  cache : Cache

/-- The class that a call begins: the one that the name stands for, unless it is cached or
unknown. -/
def begun? (s : Settings) (r : Repository) (call : Call) : Option Class :=
  (s.substitutor.substitute r call.requested).bind fun name =>
    if call.cache.contains name then none else r.get? name

theorem begun?_eq_some_iff {call : Call} {d : Class} :
    begun? s r call = some d ↔
      s.substitutor.substitute r call.requested = some d.name ∧
        call.cache.get? d.name = none ∧ r.get? d.name = some d := by
  unfold begun?
  rw [Option.bind_eq_some_iff]
  constructor
  · rintro ⟨name, hname, h⟩
    split at h
    · cases h
    · rename_i hcached
      obtain rfl := Repository.name_of_get? h
      exact ⟨hname, (Cache.not_contains_iff ..).mp hcached, h⟩
  · rintro ⟨hname, hnone, hd⟩
    refine ⟨d.name, hname, ?_⟩
    rw [if_neg ((Cache.not_contains_iff ..).mpr hnone), hd]

/-- A call that begins nothing answers with what is cached, if anything is. -/
theorem loadWithin_of_begun?_eq_none {requested : String} {cache : Cache} (fuel : Nat)
    (h : begun? s r ⟨requested, cache⟩ = none) :
    loadWithin s r (fuel + 1) requested cache =
      ((s.substitutor.substitute r requested).bind cache.get?, cache) := by
  rw [loadWithin]
  cases hname : s.substitutor.substitute r requested with
  | none => rfl
  | some name =>
    cases hcached : cache.get? name with
    | some spec => simp [hcached]
    | none =>
      have hunknown : r.get? name = none := by
        simpa [begun?, hname, (Cache.not_contains_iff ..).mpr hcached] using h
      simp [hcached, hunknown]

/-- A call that begins a class stores its specification, loads what that refers to, and stores
the specification as complete. -/
theorem loadWithin_of_begun? {requested : String} {cache : Cache} {d : Class} (fuel : Nat)
    (h : begun? s r ⟨requested, cache⟩ = some d) :
    loadWithin s r (fuel + 1) requested cache =
      (some (s.describe r d).completed,
        ((s.describe r d).referencedTypes.foldl
          (fun cache type => (loadWithin s r fuel type cache).2)
          (cache.store (s.describe r d))).store (s.describe r d).completed) := by
  obtain ⟨hname, hnone, hd⟩ := begun?_eq_some_iff.mp h
  have hinsert : cache.getOrInsert (.placeholder d) =
      (.placeholder d, true, (cache.getOrInsert (.placeholder d)).2.2) := by
    unfold Cache.getOrInsert
    rw [show cache.get? (Specification.placeholder d).className = none from hnone]
  have hstore : (cache.getOrInsert (.placeholder d)).2.2.store (s.describe r d) =
      cache.store (s.describe r d) :=
    Cache.store_getOrInsert hnone rfl rfl
  rw [loadWithin]
  simp only [hname, hnone, hd]
  rw [hinsert]
  simp only [hstore]

/-! ### Courses -/

/-- What loading the names one after another does: the calls that it makes, each with the cache
that it finds, and the last cache. A class that is begun is stored, what its specification refers
to is loaded, and it is stored as complete. -/
inductive Course (s : Settings) (r : Repository) :
    List String → Cache → List Call → Cache → Prop
  | nil (cache : Cache) : Course s r [] cache [] cache
  | skip {name : String} {names : List String} {cache last : Cache} {calls : List Call} :
      begun? s r ⟨name, cache⟩ = none → Course s r names cache calls last →
      Course s r (name :: names) cache (⟨name, cache⟩ :: calls) last
  | introspect {name : String} {names : List String} {cache between last : Cache}
      {inner calls : List Call} {d : Class} :
      begun? s r ⟨name, cache⟩ = some d →
      Course s r (s.describe r d).referencedTypes (cache.store (s.describe r d)) inner between →
      Course s r names (between.store (s.describe r d).completed) calls last →
      Course s r (name :: names) cache (⟨name, cache⟩ :: (inner ++ calls)) last

theorem Course.append {names more : List String} {cache between last : Cache}
    {calls others : List Call} (h : Course s r names cache calls between)
    (h' : Course s r more between others last) :
    Course s r (names ++ more) cache (calls ++ others) last := by
  induction h with
  | nil cache => exact h'
  | skip hbegun _ ih => exact .skip hbegun (ih h')
  | introspect hbegun hinner _ _ ih =>
    rw [List.cons_append, List.cons_append, List.append_assoc]
    exact .introspect hbegun hinner (ih h')

/-- There is at most one course. -/
theorem Course.unique {names : List String} {cache last last' : Cache} {calls calls' : List Call}
    (h : Course s r names cache calls last) (h' : Course s r names cache calls' last') :
    calls' = calls ∧ last' = last := by
  induction h generalizing calls' last' with
  | nil cache =>
    cases h'
    exact ⟨rfl, rfl⟩
  | skip hbegun _ ih =>
    cases h' with
    | skip _ hrest =>
      obtain ⟨rfl, rfl⟩ := ih hrest
      exact ⟨rfl, rfl⟩
    | introspect hbegun' _ _ =>
      rw [hbegun] at hbegun'
      cases hbegun'
  | introspect hbegun _ _ ihinner ih =>
    cases h' with
    | skip hbegun' _ =>
      rw [hbegun] at hbegun'
      cases hbegun'
    | introspect hbegun' hinner hrest =>
      rw [hbegun] at hbegun'
      cases hbegun'
      obtain ⟨rfl, rfl⟩ := ihinner hinner
      obtain ⟨rfl, rfl⟩ := ih hrest
      exact ⟨rfl, rfl⟩

/-! ### What a course keeps -/

/-- Whatever one cache has, the other one has unchanged. -/
def Keeps (a b : Cache) : Prop := ∀ name spec, a.get? name = some spec → b.get? name = some spec

/-- Whatever class one cache has, the other one has too, perhaps in another state. -/
def Grows (a b : Cache) : Prop := ∀ name, a.contains name → b.contains name

theorem Keeps.grows {a b : Cache} (h : Keeps a b) : Grows a b := by
  intro name hname
  obtain ⟨spec, hspec⟩ := (a.contains_iff name).mp hname
  exact (b.contains_iff name).mpr ⟨spec, h name spec hspec⟩

theorem Grows.refl (a : Cache) : Grows a a := fun _ h => h

theorem Grows.trans {a b c : Cache} (h : Grows a b) (h' : Grows b c) : Grows a c :=
  fun name hname => h' name (h name hname)

theorem grows_store (c : Cache) (spec : Specification) : Grows c (c.store spec) :=
  fun name hname => (c.contains_store spec name).mpr (.inr hname)

theorem contains_store_self (c : Cache) (spec : Specification) :
    (c.store spec).contains spec.className :=
  (c.contains_store spec spec.className).mpr (.inl rfl)

/-- **A course keeps what is cached when it begins.** It replaces only the specifications that it
has stored itself. -/
theorem Course.keeps {names : List String} {cache last : Cache} {calls : List Call}
    (h : Course s r names cache calls last) : Keeps cache last := by
  induction h with
  | nil cache => exact fun _ _ hspec => hspec
  | skip _ _ ih => exact ih
  | @introspect name names cache between last inner calls d hbegun _ _ ihinner ih =>
    intro other spec hspec
    obtain ⟨-, hnone, -⟩ := begun?_eq_some_iff.mp hbegun
    have hother : other ≠ d.name := by
      rintro rfl
      rw [hnone] at hspec
      cases hspec
    have hbetween : between.get? other = some spec :=
      ihinner other spec (by rw [get?_store_describe, if_neg hother, hspec])
    exact ih other spec (by rw [get?_store_completed, if_neg hother, hbetween])

/-- The calls of a course find what is cached when it begins. -/
theorem Course.grows_call {names : List String} {cache last : Cache} {calls : List Call}
    (h : Course s r names cache calls last) : ∀ call ∈ calls, Grows cache call.cache := by
  induction h with
  | nil cache => simp
  | skip _ _ ih =>
    rintro call (_ | ⟨_, hcall⟩)
    · exact .refl _
    · exact ih call hcall
  | introspect _ hinner _ ihinner ih =>
    rintro call (_ | ⟨_, hcall⟩)
    · exact .refl _
    rcases List.mem_append.mp hcall with hcall | hcall
    · exact (grows_store _ _).trans (ihinner call hcall)
    · exact (((grows_store _ _).trans hinner.keeps.grows).trans (grows_store _ _)).trans
        (ih call hcall)

/-- The call was made before the cache came about: whatever it found is in the cache, and so is the
class that it began. -/
structure Precedes (s : Settings) (r : Repository) (call : Call) (cache : Cache) : Prop where
  grows : Grows call.cache cache
  begun : ∀ d, begun? s r call = some d → cache.contains d.name

theorem Precedes.trans {call : Call} {a b : Cache} (h : Precedes s r call a) (h' : Grows a b) :
    Precedes s r call b :=
  ⟨h.grows.trans h', fun d hd => h' d.name (h.begun d hd)⟩

theorem precedes_of_begun?_eq_none {call : Call} (h : begun? s r call = none) :
    Precedes s r call call.cache :=
  ⟨.refl _, fun d hd => by rw [h] at hd; cases hd⟩

theorem precedes_store {call : Call} {d : Class} (h : begun? s r call = some d) :
    Precedes s r call (call.cache.store (s.describe r d)) := by
  refine ⟨grows_store _ _, fun d' hd' => ?_⟩
  rw [h] at hd'
  cases hd'
  exact contains_store_self _ _

/-- Every call of a course precedes its last cache. -/
theorem Course.precedes_last {names : List String} {cache last : Cache} {calls : List Call}
    (h : Course s r names cache calls last) : ∀ call ∈ calls, Precedes s r call last := by
  induction h with
  | nil cache => simp
  | skip hbegun hrest ih =>
    rintro call (_ | ⟨_, hcall⟩)
    · exact (precedes_of_begun?_eq_none hbegun).trans hrest.keeps.grows
    · exact ih call hcall
  | introspect hbegun hinner hrest ihinner ih =>
    have hlast := (grows_store _ _).trans hrest.keeps.grows
    rintro call (_ | ⟨_, hcall⟩)
    · exact ((precedes_store hbegun).trans hinner.keeps.grows).trans hlast
    rcases List.mem_append.mp hcall with hcall | hcall
    · exact (ihinner call hcall).trans hlast
    · exact ih call hcall

/-- **Every call of a course precedes the caches that the later ones find.** -/
theorem Course.pairwise_precedes {names : List String} {cache last : Cache} {calls : List Call}
    (h : Course s r names cache calls last) :
    calls.Pairwise fun a b => Precedes s r a b.cache := by
  induction h with
  | nil cache => exact .nil
  | skip hbegun hrest ih =>
    refine List.pairwise_cons.mpr ⟨fun call hcall => ?_, ih⟩
    exact (precedes_of_begun?_eq_none hbegun).trans (hrest.grows_call call hcall)
  | introspect hbegun hinner hrest ihinner ih =>
    have hstored := precedes_store hbegun
    refine List.pairwise_cons.mpr ⟨fun call hcall => ?_, List.pairwise_append.mpr
      ⟨ihinner, ih, fun a ha b hb => ?_⟩⟩
    · rcases List.mem_append.mp hcall with hcall | hcall
      · exact hstored.trans (hinner.grows_call call hcall)
      · exact ((hstored.trans hinner.keeps.grows).trans (grows_store _ _)).trans
          (hrest.grows_call call hcall)
    · exact ((hinner.precedes_last a ha).trans (grows_store _ _)).trans (hrest.grows_call b hb)

/-- No class is begun twice, and none that is cached. -/
theorem Course.nodup_begun {names : List String} {cache last : Cache} {calls : List Call}
    (h : Course s r names cache calls last) :
    ((calls.filterMap (begun? s r)).map (·.name)).Nodup := by
  rw [List.Nodup, List.pairwise_map, List.pairwise_filterMap]
  refine h.pairwise_precedes.imp fun {a b} hab d hd e he heq => ?_
  have hcached := hab.begun d hd
  obtain ⟨-, hnone, -⟩ := begun?_eq_some_iff.mp he
  exact (Cache.not_contains_iff ..).mpr hnone (heq ▸ hcached)

/-! ### The names that are not cached -/

/-- How many of the names are not cached. -/
def uncached (names : List String) (cache : Cache) : Nat :=
  (names.toFinset.filter fun name => ¬ cache.contains name).card

theorem uncached_le_length (names : List String) (cache : Cache) :
    uncached names cache ≤ names.length :=
  (Finset.card_filter_le ..).trans (List.toFinset_card_le names)

theorem uncached_le {a b : Cache} (h : Grows a b) (names : List String) :
    uncached names b ≤ uncached names a :=
  Finset.card_le_card (Finset.monotone_filter_right _ fun name _ hb ha => hb (h name ha))

theorem uncached_lt {a b : Cache} (h : Grows a b) {names : List String} {name : String}
    (hname : name ∈ names) (ha : ¬ a.contains name) (hb : b.contains name) :
    uncached names b < uncached names a := by
  refine Finset.card_lt_card (Finset.ssubset_iff_subset_ne.mpr ⟨?_, fun heq => ?_⟩)
  · exact Finset.monotone_filter_right _ fun other _ hother hin => hother (h other hin)
  · have hmem : name ∈ names.toFinset.filter fun n => ¬ a.contains n :=
      Finset.mem_filter.mpr ⟨List.mem_toFinset.mpr hname, ha⟩
    rw [← heq] at hmem
    exact (Finset.mem_filter.mp hmem).2 hb

/-- Once a call has begun a class, fewer names are uncached. -/
theorem Precedes.uncached_lt {call : Call} {cache : Cache} (h : Precedes s r call cache)
    {d : Class} (hd : begun? s r call = some d) {names : List String} (hmem : d.name ∈ names) :
    uncached names cache < uncached names call.cache := by
  obtain ⟨-, hnone, -⟩ := begun?_eq_some_iff.mp hd
  exact Loader.uncached_lt h.grows hmem ((Cache.not_contains_iff ..).mpr hnone) (h.begun d hd)

theorem begun_mem_scope {requested : String} {call : Call} {d : Class}
    (hcall : call.requested ∈ scope r requested) (hd : begun? s r call = some d) :
    d.name ∈ scope r requested :=
  substitute_mem_scope hcall (begun?_eq_some_iff.mp hd).1

/-- **The calls of a course stay in the scope.** -/
theorem Course.requested_mem_scope {requested : String} {names : List String}
    {cache last : Cache} {calls : List Call} (h : Course s r names cache calls last)
    (hnames : ∀ name ∈ names, name ∈ scope r requested) :
    ∀ call ∈ calls, call.requested ∈ scope r requested := by
  induction h with
  | nil cache => simp
  | skip _ _ ih =>
    obtain ⟨hname, hnames⟩ := List.forall_mem_cons.mp hnames
    exact List.forall_mem_cons.mpr ⟨hname, ih hnames⟩
  | introspect hbegun _ _ ihinner ih =>
    obtain ⟨hname, hnames⟩ := List.forall_mem_cons.mp hnames
    have hd := begun_mem_scope hname hbegun
    obtain ⟨-, -, hknown⟩ := begun?_eq_some_iff.mp hbegun
    refine List.forall_mem_cons.mpr ⟨hname, List.forall_mem_append.mpr ⟨?_, ih hnames⟩⟩
    exact ihinner fun type htype => referencedTypes_mem_scope hd hknown htype

/-! ### Loading follows a course -/

/-- Loading names one after another follows a course if loading each of them does. -/
theorem exists_course_foldl {load : String → Cache → Cache} {names : List String} {cache : Cache}
    (h : ∀ name ∈ names, ∀ c, Grows cache c → ∃ calls, Course s r [name] c calls (load name c)) :
    ∃ calls, Course s r names cache calls (names.foldl (fun c name => load name c) cache) := by
  induction names generalizing cache with
  | nil => exact ⟨[], .nil cache⟩
  | cons name names ih =>
    obtain ⟨calls, hfirst⟩ := h name List.mem_cons_self cache (.refl cache)
    have hothers : ∀ other ∈ names, ∀ c, Grows (load name cache) c →
        ∃ calls, Course s r [other] c calls (load other c) := fun other hother c hc =>
      h other (List.mem_cons_of_mem _ hother) c (hfirst.keeps.grows.trans hc)
    obtain ⟨others, hrest⟩ := ih hothers
    exact ⟨calls ++ others, hfirst.append hrest⟩

/-- **Loading follows a course** if the bound exceeds the number of uncached names. -/
theorem course_loadWithin {requested name : String} {cache : Cache} {fuel : Nat}
    (hname : name ∈ scope r requested) (hfuel : uncached (scope r requested) cache < fuel) :
    ∃ calls, Course s r [name] cache calls (loadWithin s r fuel name cache).2 := by
  induction fuel generalizing name cache with
  | zero => omega
  | succ fuel ih =>
    cases hbegun : begun? s r ⟨name, cache⟩ with
    | none =>
      rw [loadWithin_of_begun?_eq_none fuel hbegun]
      exact ⟨_, .skip hbegun (.nil cache)⟩
    | some d =>
      rw [loadWithin_of_begun? fuel hbegun]
      have hd : d.name ∈ scope r requested := begun_mem_scope hname hbegun
      obtain ⟨-, -, hknown⟩ := begun?_eq_some_iff.mp hbegun
      have hless : uncached (scope r requested) (cache.store (s.describe r d)) <
          uncached (scope r requested) cache :=
        (precedes_store hbegun).uncached_lt hbegun hd
      have htypes : ∀ type ∈ (s.describe r d).referencedTypes, ∀ c,
          Grows (cache.store (s.describe r d)) c →
            ∃ calls, Course s r [type] c calls (loadWithin s r fuel type c).2 := by
        intro type htype c hc
        have hle := uncached_le hc (scope r requested)
        exact ih (referencedTypes_mem_scope hd hknown htype) (by omega)
      obtain ⟨inner, hinner⟩ := exists_course_foldl htypes
      exact ⟨_, .introspect hbegun hinner (.nil _)⟩

theorem uncached_lt_scopeSize (r : Repository) (requested : String) (cache : Cache) :
    uncached (scope r requested) cache < scopeSize r requested + 1 := by
  have := uncached_le_length (scope r requested) cache
  rw [length_scope] at this
  omega

theorem course_loadInto (s : Settings) (r : Repository) (requested : String) (cache : Cache) :
    ∃ calls, Course s r [requested] cache calls (loadInto s r requested cache).2 :=
  course_loadWithin (Loader.requested_mem_scope r requested)
    (uncached_lt_scopeSize r requested cache)

/-- Loading answers with what is cached in the end for the name. -/
theorem answer_loadWithin (s : Settings) (r : Repository) (fuel : Nat) (requested : String)
    (cache : Cache) :
    (loadWithin s r (fuel + 1) requested cache).1 =
      (s.substitutor.substitute r requested).bind
        (loadWithin s r (fuel + 1) requested cache).2.get? := by
  cases hbegun : begun? s r ⟨requested, cache⟩ with
  | none => rw [loadWithin_of_begun?_eq_none fuel hbegun]
  | some d =>
    obtain ⟨hname, -, -⟩ := begun?_eq_some_iff.mp hbegun
    rw [loadWithin_of_begun? fuel hbegun, show s.substitutor.substitute r requested = some d.name
      from hname, Option.bind_some, get?_store_completed, if_pos rfl]

theorem answer_loadInto (s : Settings) (r : Repository) (requested : String) (cache : Cache) :
    (loadInto s r requested cache).1 =
      (s.substitutor.substitute r requested).bind (loadInto s r requested cache).2.get? :=
  answer_loadWithin s r _ requested cache

/-- A bound that exceeds the number of uncached names is never met, so a larger one changes
nothing. -/
theorem loadWithin_eq_loadInto {requested : String} {cache : Cache} {fuel : Nat}
    (hfuel : uncached (scope r requested) cache < fuel) :
    loadWithin s r fuel requested cache = loadInto s r requested cache := by
  obtain ⟨calls, hcourse⟩ := course_loadInto s r requested cache
  obtain ⟨calls', hcourse'⟩ : ∃ calls, Course s r [requested] cache calls
      (loadWithin s r fuel requested cache).2 :=
    course_loadWithin (Loader.requested_mem_scope r requested) hfuel
  have hlast := (hcourse.unique hcourse').2
  obtain ⟨fuel, rfl⟩ : ∃ n, fuel = n + 1 := ⟨fuel - 1, by omega⟩
  refine Prod.ext ?_ hlast
  rw [answer_loadWithin, answer_loadInto, hlast]

/-- **Loading ends, on every model and from every cache.** It follows the one course that the
recursion can take, whatever the bound beyond the size of the scope. All names that it meets, and
what they stand for, are in the scope. Each class is begun at most once, if it was not cached, and
later calls, so the nested ones too, find fewer names of the scope uncached. -/
theorem loading_ends (s : Settings) (r : Repository) (requested : String) (cache : Cache) :
    ∃ calls,
      Course s r [requested] cache calls (loadInto s r requested cache).2 ∧
      (∀ calls' last, Course s r [requested] cache calls' last →
        calls' = calls ∧ last = (loadInto s r requested cache).2) ∧
      (∀ fuel, scopeSize r requested < fuel →
        loadWithin s r fuel requested cache = loadInto s r requested cache) ∧
      (∀ call ∈ calls, call.requested ∈ scope r requested ∧
        ∀ name, s.substitutor.substitute r call.requested = some name →
          name ∈ scope r requested) ∧
      ((calls.filterMap (begun? s r)).map (·.name)).Nodup ∧
      (∀ call ∈ calls, ∀ d, begun? s r call = some d →
        d.name ∈ scope r requested ∧ ¬ cache.contains d.name) ∧
      calls.Pairwise fun a b => ∀ d, begun? s r a = some d →
        uncached (scope r requested) b.cache < uncached (scope r requested) a.cache := by
  obtain ⟨calls, hcourse⟩ := course_loadInto s r requested cache
  have hscope : ∀ call ∈ calls, call.requested ∈ scope r requested :=
    hcourse.requested_mem_scope (by simpa using Loader.requested_mem_scope r requested)
  refine ⟨calls, hcourse, fun _ _ h => hcourse.unique h, fun fuel hfuel => ?_,
    fun call hcall => ⟨hscope call hcall, fun _ h => substitute_mem_scope (hscope call hcall) h⟩,
    hcourse.nodup_begun, fun call hcall d hd => ⟨begun_mem_scope (hscope call hcall) hd, ?_⟩, ?_⟩
  · have := uncached_lt_scopeSize r requested cache
    exact loadWithin_eq_loadInto (by omega)
  · obtain ⟨-, hnone, -⟩ := begun?_eq_some_iff.mp hd
    exact fun hcached => (Cache.not_contains_iff ..).mpr hnone
      (hcourse.grows_call call hcall d.name hcached)
  · refine hcourse.pairwise_precedes.imp_of_mem fun {a b} ha _ hab d hd => ?_
    exact hab.uncached_lt hd (begun_mem_scope (hscope a ha) hd)

end Loader
end Facetry
