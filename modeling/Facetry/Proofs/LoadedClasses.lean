/-
# What loading loads

A loader that has loaded nothing but the requested names holds exactly the
classes that can be reached from them: those that the names stand for, and with
each class those that its specification refers to. Nothing is left half built.
A class in the middle of its introspection is in the cache while other ones are
loaded, so that a course begun from there does not leave closed what it found;
but what it adds it completes, and what that refers to is there when it ends
(`Course.closed`).

Key definitions: `Loader.target?`, `Loader.Reachable`, `Loader.loads`.
Key theorems: `Loader.Course.described`, `Loader.Course.closed`, `Loader.Course.within`,
`Loader.loads_reachable`.
-/
import Facetry.Proofs.LoadingCourse

namespace Facetry
namespace Loader

variable {s : Settings} {r : Repository}

/-- The class that the name stands for, if the repository knows it. -/
def target? (s : Settings) (r : Repository) (name : String) : Option String :=
  (s.substitutor.substitute r name).filter fun resolved => (r.get? resolved).isSome

theorem target?_eq_some_iff {name resolved : String} :
    target? s r name = some resolved ↔
      s.substitutor.substitute r name = some resolved ∧ ∃ d, r.get? resolved = some d := by
  rw [target?, Option.filter_eq_some_iff, Option.isSome_iff_exists]

/-- The classes that can be reached from the requested names: the least set that has what they
stand for, and with each class what its specification refers to. -/
inductive Reachable (s : Settings) (r : Repository) (requested : List String) : String → Prop
  | requested {name resolved : String} :
      name ∈ requested → target? s r name = some resolved → Reachable s r requested resolved
  | referenced {name type resolved : String} {d : Class} :
      Reachable s r requested name → r.get? name = some d →
      type ∈ (s.describe r d).referencedTypes → target? s r type = some resolved →
      Reachable s r requested resolved

/-! ### What a course adds -/

theorem target?_of_begun? {name : String} {cache : Cache} {d : Class}
    (h : begun? s r ⟨name, cache⟩ = some d) : target? s r name = some d.name := by
  obtain ⟨hname, -, hd⟩ := begun?_eq_some_iff.mp h
  exact target?_eq_some_iff.mpr ⟨hname, d, hd⟩

theorem contains_of_begun?_eq_none {name resolved : String} {cache : Cache}
    (h : begun? s r ⟨name, cache⟩ = none) (htarget : target? s r name = some resolved) :
    cache.contains resolved := by
  obtain ⟨hname, d, hd⟩ := target?_eq_some_iff.mp htarget
  by_contra hcached
  obtain rfl := Repository.name_of_get? hd
  have hbegun : begun? s r ⟨name, cache⟩ = some d :=
    begun?_eq_some_iff.mpr ⟨hname, (Cache.not_contains_iff ..).mp hcached, hd⟩
  rw [h] at hbegun
  cases hbegun

/-- **What a course adds is complete**, and is what introspection makes of the class alone. -/
theorem Course.described {names : List String} {cache last : Cache} {calls : List Call}
    (h : Course s r names cache calls last) {name : String} {spec : Specification}
    (hspec : last.get? name = some spec) :
    cache.get? name = some spec ∨
      ∃ d, r.get? name = some d ∧ spec = (s.describe r d).completed := by
  induction h with
  | nil cache => exact .inl hspec
  | skip _ _ ih => exact ih hspec
  | introspect hbegun _ _ ihinner ih =>
    obtain ⟨-, -, hd⟩ := begun?_eq_some_iff.mp hbegun
    rcases ih hspec with hstored | hnew
    · rw [get?_store_completed] at hstored
      split at hstored
      · cases hstored
        subst name
        exact .inr ⟨_, hd, rfl⟩
      · rename_i hother
        rcases ihinner hstored with hearlier | hnew
        · rw [get?_store_describe, if_neg hother] at hearlier
          exact .inl hearlier
        · exact .inr hnew
    · exact .inr hnew

/-- After a course, the classes that the names stand for are cached. -/
theorem Course.contains_target {names : List String} {cache last : Cache} {calls : List Call}
    (h : Course s r names cache calls last) {name resolved : String} (hname : name ∈ names)
    (htarget : target? s r name = some resolved) : last.contains resolved := by
  induction h with
  | nil cache => cases hname
  | skip hbegun hrest ih =>
    rcases List.mem_cons.mp hname with rfl | hname
    · exact hrest.keeps.grows _ (contains_of_begun?_eq_none hbegun htarget)
    · exact ih hname
  | introspect hbegun _ hrest _ ih =>
    rcases List.mem_cons.mp hname with rfl | hname
    · rw [target?_of_begun? hbegun] at htarget
      cases htarget
      exact hrest.keeps.grows _ (contains_store_self _ _)
    · exact ih hname

/-- **What the classes that a course adds refer to is cached** when the course ends. -/
theorem Course.closed {names : List String} {cache last : Cache} {calls : List Call}
    (h : Course s r names cache calls last) {name type resolved : String} {d : Class}
    (hnew : ¬ cache.contains name) (hcached : last.contains name) (hd : r.get? name = some d)
    (htype : type ∈ (s.describe r d).referencedTypes)
    (htarget : target? s r type = some resolved) : last.contains resolved := by
  induction h with
  | nil cache => exact absurd hcached hnew
  | skip _ _ ih => exact ih hnew hcached
  | @introspect begun names cache between last inner calls c hbegun hinner hrest ihinner ih =>
    have hlast : Grows between last := (grows_store _ _).trans hrest.keeps.grows
    by_cases hbetween : between.contains name
    · by_cases hself : name = c.name
      · subst hself
        obtain ⟨-, -, hc⟩ := begun?_eq_some_iff.mp hbegun
        rw [hd] at hc
        cases hc
        exact hlast _ (hinner.contains_target htype htarget)
      · refine hlast _ (ihinner (fun hstored => ?_) hbetween)
        rcases (Cache.contains_store ..).mp hstored with hstored | hstored
        · exact hself hstored
        · exact hnew hstored
    · have hbegunCached : between.contains c.name :=
        hinner.keeps.grows _ (contains_store_self _ _)
      refine ih (fun hstored => ?_) hcached
      rcases (Cache.contains_store ..).mp hstored with rfl | hstored
      · exact hbetween hbegunCached
      · exact hbetween hstored

/-- **A course stays within every set of classes** that has what the names stand for, and with a
class what its specification refers to. -/
theorem Course.within {names : List String} {cache last : Cache} {calls : List Call}
    (h : Course s r names cache calls last) {P : String → Prop}
    (hnames : ∀ name ∈ names, ∀ resolved, target? s r name = some resolved → P resolved)
    (hclosed : ∀ name d, P name → r.get? name = some d →
      ∀ type ∈ (s.describe r d).referencedTypes, ∀ resolved, target? s r type = some resolved →
        P resolved)
    {name : String} (hcached : last.contains name) : cache.contains name ∨ P name := by
  induction h with
  | nil cache => exact .inl hcached
  | skip _ _ ih => exact ih (List.forall_mem_cons.mp hnames).2 hcached
  | @introspect _ _ cache between _ _ _ d hbegun _ _ ihinner ih =>
    obtain ⟨hfirst, hnames⟩ := List.forall_mem_cons.mp hnames
    have hd := hfirst _ (target?_of_begun? hbegun)
    obtain ⟨-, -, hknown⟩ := begun?_eq_some_iff.mp hbegun
    by_cases hself : name = d.name
    · exact .inr (hself ▸ hd)
    have hbetween : between.contains name → cache.contains name ∨ P name := fun h =>
      (ihinner (hclosed _ _ hd hknown) h).imp_left fun h =>
        ((Cache.contains_store ..).mp h).resolve_left hself
    rcases ih hnames hcached with hstored | hin
    · exact hbetween (((Cache.contains_store ..).mp hstored).resolve_left hself)
    · exact .inr hin

/-! ### Sequences of loads -/

/-- The loader after it has loaded the names one after another. -/
def loads (l : Loader) (names : List String) : Loader :=
  names.foldl (fun l name => (l.load name).2) l

theorem loads_eq (l : Loader) (names : List String) :
    l.loads names = { l with cache := loadAll l.settings l.repository names l.cache } := by
  induction names generalizing l with
  | nil => rfl
  | cons name names ih => exact ih (l.load name).2

theorem loads_append (l : Loader) (names more : List String) :
    l.loads (names ++ more) = (l.loads names).loads more :=
  List.foldl_append

theorem course_loadAll (s : Settings) (r : Repository) (names : List String) (cache : Cache) :
    ∃ calls, Course s r names cache calls (loadAll s r names cache) :=
  exists_course_foldl fun name _ c _ => course_loadInto s r name c

theorem course_loads (s : Settings) (r : Repository) (names : List String) :
    ∃ calls, Course s r names .empty calls ((new s r).loads names).cache := by
  rw [loads_eq]
  exact course_loadAll s r names .empty

theorem keeps_loads (l : Loader) (names : List String) : Keeps l.cache (l.loads names).cache := by
  obtain ⟨calls, hcourse⟩ := course_loadAll l.settings l.repository names l.cache
  rw [loads_eq]
  exact hcourse.keeps

theorem not_contains_empty (name : String) : ¬ Cache.empty.contains name := Bool.false_ne_true

theorem described_loads {names : List String} {name : String} {spec : Specification}
    (h : ((new s r).loads names).cache.get? name = some spec) :
    ∃ d, r.get? name = some d ∧ spec = (s.describe r d).completed := by
  obtain ⟨calls, hcourse⟩ := course_loads s r names
  rcases hcourse.described h with hempty | hnew
  · cases hempty
  · exact hnew

/-- Of the names that were requested, those are cached whose class is known. -/
theorem get?_loads_eq_none_iff {names : List String} {name resolved : String}
    (hname : name ∈ names) (h : s.substitutor.substitute r name = some resolved) :
    ((new s r).loads names).cache.get? resolved = none ↔ r.get? resolved = none := by
  constructor
  · intro hnone
    by_contra hknown
    obtain ⟨d, hd⟩ := Option.ne_none_iff_exists'.mp hknown
    obtain ⟨calls, hcourse⟩ := course_loads s r names
    have hcached := hcourse.contains_target hname (target?_eq_some_iff.mpr ⟨h, d, hd⟩)
    exact (Cache.not_contains_iff ..).mpr hnone hcached
  · intro hunknown
    by_contra hcached
    obtain ⟨spec, hspec⟩ := Option.ne_none_iff_exists'.mp hcached
    obtain ⟨d, hd, -⟩ := described_loads hspec
    rw [hunknown] at hd
    cases hd

/-- A load answers with what is cached after it. -/
theorem answer_loads (s : Settings) (r : Repository) (names : List String) (name : String) :
    (((new s r).loads names).load name).1 =
      (s.substitutor.substitute r name).bind ((new s r).loads (names ++ [name])).cache.get? := by
  rw [loads_append, loads_eq]
  exact answer_loadInto s r name _

/-- What a name stands for is cached, or unknown, right after its load as well as later. -/
theorem get?_loads_append {names more : List String} {name resolved : String}
    (hname : name ∈ names) (h : s.substitutor.substitute r name = some resolved) :
    ((new s r).loads (names ++ more)).cache.get? resolved =
      ((new s r).loads names).cache.get? resolved := by
  cases hspec : ((new s r).loads names).cache.get? resolved with
  | some spec =>
    rw [loads_append]
    exact keeps_loads _ more resolved spec hspec
  | none =>
    have hunknown := (get?_loads_eq_none_iff hname h).mp hspec
    exact (get?_loads_eq_none_iff (List.mem_append_left more hname) h).mpr hunknown

/-- **Loading loads exactly what can be reached.** After any sequence of loads, the cache of a new
loader holds the classes that can be reached from the requested names and no others. Each is
complete, and is what introspection makes of the class alone. The next load answers with what will
be cached, whatever is loaded after it, for the class that its name stands for; it finds none
exactly if there is no such class. -/
theorem loads_reachable (s : Settings) (r : Repository) (names : List String) :
    (∀ name, ((new s r).loads names).cache.contains name ↔ Reachable s r names name) ∧
    (∀ name spec, ((new s r).loads names).cache.get? name = some spec →
      spec.state = .complete ∧
        ∃ d, r.get? name = some d ∧ spec = (s.describe r d).completed) ∧
    ∀ name,
      (∀ more, (((new s r).loads names).load name).1 =
        (s.substitutor.substitute r name).bind
          ((new s r).loads (names ++ name :: more)).cache.get?) ∧
      ((((new s r).loads names).load name).1 = none ↔
        s.substitutor.substitute r name = none ∨
          ∃ resolved, s.substitutor.substitute r name = some resolved ∧
            r.get? resolved = none) := by
  obtain ⟨calls, hcourse⟩ := course_loads s r names
  refine ⟨fun name => ⟨fun hcached => ?_, fun hreach => ?_⟩, fun name spec hspec => ?_,
    fun name => ⟨fun more => ?_, ?_⟩⟩
  · have hin := hcourse.within (P := Reachable s r names)
      (fun _ hname _ => .requested hname) (fun _ _ hin hd _ htype _ => .referenced hin hd htype)
      hcached
    exact hin.resolve_left (not_contains_empty name)
  · induction hreach with
    | requested hname htarget => exact hcourse.contains_target hname htarget
    | referenced _ hd htype htarget ih =>
      exact hcourse.closed (not_contains_empty _) ih hd htype htarget
  · obtain ⟨d, hd, rfl⟩ := described_loads hspec
    exact ⟨rfl, d, hd, rfl⟩
  · have hlast : name ∈ names ++ [name] := List.mem_append_right names List.mem_cons_self
    rw [answer_loads, List.append_cons names name more]
    cases hname : s.substitutor.substitute r name with
    | none => rfl
    | some resolved => exact (get?_loads_append hlast hname).symm
  · have hlast : name ∈ names ++ [name] := List.mem_append_right names List.mem_cons_self
    rw [answer_loads]
    cases hname : s.substitutor.substitute r name with
    | none => simp
    | some resolved => simpa using get?_loads_eq_none_iff hlast hname

end Loader
end Facetry
