/-
# The order of loads does not matter

A loader that is initialized has what can be reached from the domain classes. In which
order these are loaded, and what was loaded before, decides which classes are met half
built and which are stored first. But the classes that are cached are those that can be
reached (`Loader.contains_loadAll_iff`), each is as its description alone makes it, and
the validators and the index look at nothing but the cache. So loaders of the same
classes, with the same domain classes in whatever order, agree once they are initialized.

What was loaded before must not stand for a class that cannot be reached. The name of a
class that can be reached does not, where the substitution is idempotent
(`Loader.Reachable.target`). In a circle of proxies it may: the walk is cut off at a class
that stands for yet another one, and a load of that class brings the other one in
(`Loader.load_from_circle_brings_class_in`).

Key theorems: `Substitutor.substitute_congr`, `Loader.Reachable.congr`, `Loader.Made.congr`,
`Loader.contains_loadAll_iff`, `Loader.Reachable.append_iff`, `Loader.loadAll_congr`,
`Loader.lookup_init_loads`, `Loader.init_in_any_order`.
-/
import Facetry.Proofs.Closure
import Facetry.Proofs.ObjectTypes

namespace Facetry

/-! ### Repositories of the same classes -/

theorem Substitutor.resolve_congr {r r' : Repository} (h : r'.classes = r.classes)
    (s : Substitutor) (steps : Nat) (name : String) :
    s.resolve r' steps name = s.resolve r steps name := by
  induction steps generalizing name with
  | zero => rfl
  | succ steps ih =>
    simp only [resolve, ih, Repository.get?_congr h, standsForSuperclass, Repository.isEnum,
      Repository.isOfKind, h]
    rfl

theorem Substitutor.substitute_congr {r r' : Repository} (h : r'.classes = r.classes)
    (s : Substitutor) (name : String) : s.substitute r' name = s.substitute r name :=
  resolve_congr h s maxSteps name

namespace Loader

variable {s : Settings} {r r' : Repository}

section SameClasses

variable (h : r'.classes = r.classes)
include h

theorem target?_congr (s : Settings) (name : String) : target? s r' name = target? s r name := by
  simp only [target?, Substitutor.substitute_congr h, Repository.get?_congr h]

theorem describe_of_classes (s : Settings) (d : Class) : s.describe r' d = s.describe r d :=
  Settings.describe_congr (.of_classes h s.config s.services d)

/-- What can be reached depends on the classes, and on which names are requested. -/
theorem Reachable.congr {requested requested' : List String}
    (hrequested : ∀ name ∈ requested', name ∈ requested) {name : String}
    (hname : Reachable s r' requested' name) : Reachable s r requested name := by
  induction hname with
  | requested hmem htarget =>
    exact .requested (hrequested _ hmem) ((target?_congr h s _).symm.trans htarget)
  | referenced _ hd htype htarget ih =>
    rw [Repository.get?_congr h] at hd
    rw [describe_of_classes h] at htype
    exact .referenced ih hd htype ((target?_congr h s _).symm.trans htarget)

/-- What loading makes depends on the classes. -/
theorem Made.congr {name : String} {spec : Specification} (hmade : Made s r' name spec) :
    Made s r name spec := by
  obtain ⟨⟨requested, hrequested⟩, d, hd, rfl⟩ := hmade
  refine ⟨⟨requested, (target?_congr h s requested).symm.trans hrequested⟩, d, ?_, ?_⟩
  · rw [← Repository.get?_congr h, hd]
  · rw [describe_of_classes h]

end SameClasses

/-! ### What is there after all loads -/

/-- **Loading caches exactly what can be reached from the names**, in whatever order it comes
across it. -/
theorem contains_loadAll_iff (s : Settings) (r : Repository) (names : List String)
    (name : String) : (loadAll s r names .empty).contains name ↔ Reachable s r names name := by
  obtain ⟨calls, hcourse⟩ := course_loadAll s r names .empty
  constructor
  · intro hname
    exact (hcourse.within (fun _ hname _ => .requested hname) (Reachable.closed s r names)
      hname).resolve_left (not_contains_empty name)
  · exact Reachable.of_closed (hcourse.closed_last (closed_empty s r))
      fun _ hname _ => hcourse.contains_target hname

/-- What can be reached anyway need not be requested. -/
theorem Reachable.append_iff {names requested : List String}
    (hnames : ∀ name ∈ names, ∀ resolved, target? s r name = some resolved →
      Reachable s r requested resolved) (name : String) :
    Reachable s r (names ++ requested) name ↔ Reachable s r requested name := by
  constructor
  · refine Reachable.of_closed (Reachable.closed s r requested) fun other hother => ?_
    exact (List.mem_append.mp hother).elim (hnames other) fun hmem _ => .requested hmem
  · exact Reachable.congr rfl fun _ => List.mem_append_right names

theorem not_isInitialized_loadAll (s : Settings) (r : Repository) (names : List String) :
    ¬ (loadAll s r names .empty).isInitialized := by
  rw [isInitialized_loadAll]
  exact Bool.false_ne_true

/-- **The cache depends on what can be reached only**, and not on the order of the loads. -/
theorem loadAll_congr (h : r'.classes = r.classes) {names names' : List String}
    (hsame : ∀ name, Reachable s r names' name ↔ Reachable s r names name) :
    loadAll s r' names' .empty = loadAll s r names .empty := by
  have hmade : AllBut (Made s r) [] (loadAll s r names .empty) :=
    (AllBut.empty _ []).loadAll id names
  have hmade' : AllBut (Made s r) [] (loadAll s r' names' .empty) :=
    (AllBut.empty _ []).loadAll (Made.congr h) names'
  have hcontains : ∀ name, (loadAll s r' names' .empty).contains name ↔
      (loadAll s r names .empty).contains name := fun name => by
    rw [contains_loadAll_iff, contains_loadAll_iff, ← hsame]
    exact ⟨.congr h fun _ => id, .congr h.symm fun _ => id⟩
  have hinit := not_isInitialized_loadAll s r names
  have hinit' := not_isInitialized_loadAll s r' names'
  refine Cache.ext_answers (hmade.get?_eq hmade' hcontains) ?_ fun id => ?_
  · rw [isInitialized_loadAll, isInitialized_loadAll]
  · rw [Cache.classOf?_of_not_initialized hinit, Cache.classOf?_of_not_initialized hinit']

/-! ### Initialization -/

/-- Initialization loads the domain classes after what was loaded before. -/
theorem init_loads (s : Settings) (r : Repository) (names : List String) :
    ∃ c, (loadAll s r (names ++ r.domain) .empty).buildIndex = .ok c ∧
      ((new s r).loads names).init =
        .ok ⟨s, r, c, s.validate (loadAll s r (names ++ r.domain) .empty)⟩ := by
  have hall : loadAll s r (names ++ r.domain) .empty =
      loadAll s r r.domain (loadAll s r names .empty) := List.foldl_append
  rw [loads_eq, hall]
  exact init_eq_validated (l := ⟨s, r, loadAll s r names .empty, []⟩)
    (not_isInitialized_loadAll s r names)

/-- After initialization, a name has a specification if the class that it stands for can be reached
from the domain classes or from what was loaded before. -/
theorem lookup_init_loads (names : List String) {name resolved : String}
    (hname : s.substitutor.substitute r name = some resolved) :
    ∃ l, ((new s r).loads names).init = .ok l ∧
      ((l.lookup name).isSome ↔ Reachable s r (names ++ r.domain) resolved) := by
  obtain ⟨c, hbuild, hinit⟩ := init_loads s r names
  refine ⟨_, hinit, ?_⟩
  rw [lookup, hname, Option.bind_some]
  exact (Cache.contains_buildIndex hbuild resolved).trans (contains_loadAll_iff s r _ resolved)

/-- **Initialization does not depend on order.** Two loaders have repositories of the same classes,
with the same domain classes in whatever order and however often, and each may have loaded some
names that stand for nothing but classes that can be reached from the domain classes. Then both can
be initialized, with the same failures in the same order. What is cached is exactly what can be
reached, and both answer alike, by class, by object type, and as a whole. -/
theorem init_in_any_order (s : Settings) (r r' : Repository) (names names' : List String)
    (hclasses : r'.classes = r.classes)
    (hdomain : ∀ name, name ∈ r'.domain ↔ name ∈ r.domain)
    (hnames : ∀ name ∈ names ++ names', ∀ resolved, target? s r name = some resolved →
      Reachable s r r.domain resolved) :
    ∃ l l', ((new s r).loads names).init = .ok l ∧ ((new s r').loads names').init = .ok l' ∧
      (∀ name, l.cache.contains name ↔ Reachable s r r.domain name) ∧
      l'.failures = l.failures ∧ (∀ name, l'.lookup name = l.lookup name) ∧
      (∀ id, l'.withObjectType id = l.withObjectType id) ∧ l'.cache.all = l.cache.all := by
  obtain ⟨c, hbuild, hinit⟩ := init_loads s r names
  obtain ⟨c', hbuild', hinit'⟩ := init_loads s r' names'
  have hbefore : ∀ name ∈ names, ∀ resolved, target? s r name = some resolved →
      Reachable s r r.domain resolved := fun name hname =>
    hnames name (List.mem_append_left names' hname)
  have hbefore' : ∀ name ∈ names', ∀ resolved, target? s r name = some resolved →
      Reachable s r r'.domain resolved := fun name hname resolved htarget =>
    (hnames name (List.mem_append_right names hname) resolved htarget).congr rfl
      fun name => (hdomain name).mpr
  -- what is loaded before adds nothing to what the domain classes lead to
  have hsame : ∀ name, Reachable s r (names' ++ r'.domain) name ↔
      Reachable s r (names ++ r.domain) name := fun name => by
    rw [Reachable.append_iff hbefore, Reachable.append_iff hbefore']
    exact ⟨.congr rfl fun name => (hdomain name).mp, .congr rfl fun name => (hdomain name).mpr⟩
  have hcache := loadAll_congr hclasses hsame
  rw [hcache] at hbuild' hinit'
  obtain rfl : c' = c := Except.ok.inj (hbuild'.symm.trans hbuild)
  refine ⟨_, _, hinit, hinit', fun name => ?_, rfl, fun name => ?_, fun _ => rfl, rfl⟩
  · exact (Cache.contains_buildIndex hbuild name).trans
      ((contains_loadAll_iff s r _ name).trans (Reachable.append_iff hbefore name))
  · rw [lookup, lookup, Substitutor.substitute_congr hclasses]

/-- The domain classes in another order, one of them twice, and one of them loaded before. -/
theorem init_parties_in_another_order :
    let s := Settings.ofConfiguration .empty
    let r := parties ["shop.Buyer", "shop.Seller"] none
    let r' := parties ["shop.Buyer", "shop.Seller"]
      (some ["shop.Seller", "shop.Buyer", "shop.Seller"])
    r'.classes = r.classes ∧ (∀ name, name ∈ r'.domain ↔ name ∈ r.domain) ∧
      Reachable s r r.domain "shop.Seller" ∧
      ∃ l l', ((new s r).loads []).init = .ok l ∧
        ((new s r').loads ["shop.Seller"]).init = .ok l' ∧
        (∀ name, l.cache.contains name ↔ Reachable s r r.domain name) ∧
        l'.failures = l.failures ∧ (∀ name, l'.lookup name = l.lookup name) ∧
        (∀ id, l'.withObjectType id = l.withObjectType id) ∧ l'.cache.all = l.cache.all := by
  intro s r r'
  have hdomain : ∀ name, name ∈ r'.domain ↔ name ∈ r.domain := fun name => by
    show name ∈ ["shop.Seller", "shop.Buyer", "shop.Seller"] ↔ name ∈ ["shop.Buyer", "shop.Seller"]
    simp only [List.mem_cons, List.not_mem_nil, or_false]
    tauto
  have hidempotent : s.substitutor.Idempotent r :=
    Substitutor.idempotent_of_classes (by decide +kernel)
  obtain ⟨hseller, htarget, -⟩ := registered_parties "shop.Seller" (by simp)
  have hreach : Reachable s r r.domain "shop.Seller" := .requested hseller htarget
  have hnames : ∀ name ∈ [] ++ ["shop.Seller"], ∀ resolved, target? s r name = some resolved →
      Reachable s r r.domain resolved := by
    intro name hname resolved hresolved
    obtain rfl := List.mem_singleton.mp hname
    rw [hreach.target hidempotent] at hresolved
    exact Option.some.inj hresolved ▸ hreach
  exact ⟨rfl, hdomain, hreach, init_in_any_order s r r' [] ["shop.Seller"] rfl hdomain hnames⟩

/-! ### A circle of proxies -/

/-- A class that is a proxy of another one. -/
def proxyOf (superclass name : String) : Class :=
  { Class.named name with
    superclass := some superclass, interfaces := ["net.sf.cglib.proxy.Factory"] }

/-- The model of three proxies in a circle, the first of which is a domain class. -/
def proxyCircle : Repository :=
  .ofModel ⟨[proxyOf "a.B" "a.A", proxyOf "a.C" "a.B", proxyOf "a.A" "a.C"], some ["a.A"]⟩

/-- What a proxy refers to. -/
theorem referencedTypes_proxy (r : Repository) :
    ((Settings.ofConfiguration .empty).describe r (proxyOf "a.A" "a.C")).referencedTypes =
      ["a.A", "net.sf.cglib.proxy.Factory"] := by
  have halike : Environment.AlikeFor (proxyOf "a.A" "a.C")
      ⟨.empty, {}, fun _ => r.isCollectionType "a.C", fun _ => false⟩
      (.ofRepository .empty {} r) :=
    ⟨rfl, rfl, rfl, fun m hm => (by cases hm), fun m hm => (by cases hm)⟩
  have hclosed : ∀ collection : Bool,
      ((Introspection.ofClass (Settings.ofConfiguration .empty).model
        ⟨.empty, {}, fun _ => collection, fun _ => false⟩ (proxyOf "a.A" "a.C")).specification
          (proxyOf "a.A" "a.C")).referencedTypes = ["a.A", "net.sf.cglib.proxy.Factory"] := by
    decide +kernel
  rw [Settings.describe_of_alikeFor (s := .ofConfiguration .empty) halike]
  exact hclosed (r.isCollectionType "a.C")

/-- **A load can bring in a class that the domain classes do not lead to.** In the circle the walk
from the domain class is cut off at the third proxy, and the walk from there at the second one. So a
load of the third proxy, which can be reached, caches the second one, and a name that has a
specification after it has none without it. -/
theorem load_from_circle_brings_class_in :
    let s := Settings.ofConfiguration .empty
    Reachable s proxyCircle proxyCircle.domain "a.C" ∧
      ∃ l l', ((new s proxyCircle).loads ["a.C"]).init = .ok l ∧
        ((new s proxyCircle).loads []).init = .ok l' ∧
        (l.lookup "a.C").isSome ∧ l'.lookup "a.C" = none := by
  intro s
  have hregistered : proxyCircle.domain = ["a.A"] ∧
      target? s proxyCircle "a.A" = some "a.C" ∧ target? s proxyCircle "a.C" = some "a.B" ∧
      target? s proxyCircle "net.sf.cglib.proxy.Factory" = none ∧
      proxyCircle.get? "a.C" = some (proxyOf "a.A" "a.C") := by
    decide +kernel
  obtain ⟨hdomain, hfirst, hthird, hfactory, hget⟩ := hregistered
  have hreferenced : (s.describe proxyCircle (proxyOf "a.A" "a.C")).referencedTypes =
      ["a.A", "net.sf.cglib.proxy.Factory"] := referencedTypes_proxy proxyCircle
  obtain ⟨hself, -⟩ := target?_eq_some_iff.mp hthird
  generalize proxyCircle = r at *
  rw [hdomain]
  have hreach : Reachable s r ["a.A"] "a.C" := .requested (List.mem_singleton_self _) hfirst
  -- the third proxy refers to the domain class, which stands for the third proxy again
  have hclosed : Closed s r (· = "a.C") := by
    rintro name d rfl hd type htype resolved hresolved
    rw [hget] at hd
    cases hd
    rw [hreferenced] at htype
    rcases List.mem_pair.mp htype with rfl | rfl
    · rw [hfirst] at hresolved
      exact (Option.some.inj hresolved).symm
    · rw [hfactory] at hresolved
      cases hresolved
  have hout : ¬ Reachable s r ["a.A"] "a.B" := fun h => by
    refine absurd (h.of_closed hclosed fun name hname resolved hresolved => ?_) (by decide)
    rw [List.mem_singleton.mp hname, hfirst] at hresolved
    exact (Option.some.inj hresolved).symm
  obtain ⟨l, hinit, hlookup⟩ := lookup_init_loads ["a.C"] hself
  obtain ⟨l', hinit', hlookup'⟩ := lookup_init_loads [] hself
  rw [hdomain] at hlookup hlookup'
  refine ⟨hreach, l, l', hinit, hinit', ?_, ?_⟩
  · exact hlookup.mpr (.requested List.mem_cons_self hthird)
  · exact Option.not_isSome_iff_eq_none.mp fun h => hout (hlookup'.mp h)

end Loader
end Facetry
