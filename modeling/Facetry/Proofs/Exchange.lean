/-
# An exchange of the repository

A reload keeps a specification if the fingerprint of its class is what it was, and
builds from the new repository alone what it does not keep. So each specification is
kept as it was or is new (`Loader.kept_or_made`). The kept ones are those that a new loader
would build if the exchange is steady: their classes are really the same, and other
classes give the same answers about what their descriptions depend on. The invariant
along a run is that the loader is faithful: all that is cached is what loading makes from
the repository as it is.

Without steadiness a kept specification tells of the old repository. A property stays a
property when its type becomes one of collections
(`Loader.kept_specification_tells_of_old_repository`).

Key definitions: `Loader.KeptOrMade`, `Loader.Steady`, `Loader.SteadyIn`, `Loader.Faithful`.
Key theorems: `Loader.kept_or_made`, `Loader.Faithful.perform`, `Loader.faithful_run`,
`Loader.reload_as_fresh`.
-/
import Facetry.Proofs.Dependence
import Facetry.Proofs.DomainCoverage

namespace Facetry
namespace Loader

variable {s : Settings} {r : Repository}

/-! ### What a reload keeps and makes -/

/-- The specification is cached and kept when the repository comes, or it is what loading makes from
the repository. -/
def KeptOrMade (l : Loader) (r : Repository) (name : String) (spec : Specification) : Prop :=
  (l.cache.get? name = some spec ∧ fate l.settings r spec = .kept) ∨ Made l.settings r name spec

/-- **A reload keeps what it does not make anew.** What it makes, it makes from the new repository
alone. -/
theorem kept_or_made {l : Loader} (hl : l.cache.Coherent) (r : Repository) {name : String}
    {spec : Specification}
    (h : (applyChanges l.settings r (l.changes r) l.cache.snapshot).get? name = some spec) :
    l.KeptOrMade r name spec := by
  have hstart : AllBut (fun name spec => l.cache.get? name = some spec) [] l.cache :=
    ⟨hl, fun hspec => .inr hspec⟩
  have hfates := hstart.fates (s := l.settings) (r := r) (Q := l.KeptOrMade r)
    fun hspec _ hfate => .inl ⟨hspec, hfate⟩
  have hstepwise :
      Stepwise l.settings r (AllBut (l.KeptOrMade r)) := AllBut.stepwise .inr
  have hend : AllBut _ [] (applyChanges l.settings r (l.changes r) l.cache.snapshot) :=
    hstepwise.applyChanges hfates.snapshot
  exact hend.all h

/-- A specification of a class that is not stale goes through all steps of a reload unchanged. -/
theorem stepwise_unchanged (s : Settings) (r : Repository) (name : String)
    (spec : Specification) :
    Stepwise s r fun stale c => c.Coherent ∧ name ∉ stale ∧ c.get? name = some spec := by
  refine .of_loads (fun {other stale c} ⟨hc, hstale, hspec⟩ => ?_)
    (fun {stale c} other ⟨hc, hstale, hspec⟩ => ?_)
    fun {stale c c'} ⟨hc, hstale, hspec⟩ hrestored => ?_
  · have hother : name ≠ other := List.ne_of_not_mem_cons hstale
    exact ⟨hc.remove other, List.not_mem_of_not_mem_cons hstale,
      by rw [Cache.get?_remove, if_neg hother, hspec]⟩
  · obtain ⟨calls, hcourse⟩ := course_loadInto s r other c
    exact ⟨coherent_loadInto hc s r other, hstale, hcourse.keeps name spec hspec⟩
  · exact ⟨hrestored.coherent hc, hstale, (hrestored.get? hc name).trans hspec⟩

/-- What is kept is not among the stale classes. -/
theorem not_mem_stale {c : Cache} (hc : c.Coherent) {name : String} {spec : Specification}
    (hspec : c.get? name = some spec) (hfate : fate s r spec = .kept) :
    name ∉ classesWith s r c .evicted ++ classesWith s r c .reloaded := by
  intro hmem
  have hother : ∃ f, f ≠ Fate.kept ∧ name ∈ classesWith s r c f := by
    rcases List.mem_append.mp hmem with hmem | hmem
    · exact ⟨.evicted, by decide, hmem⟩
    · exact ⟨.reloaded, by decide, hmem⟩
  obtain ⟨f, hne, hmem⟩ := hother
  obtain ⟨other, ⟨key, hkey⟩, hf, hname⟩ := mem_of_mem_classesWith hmem
  rw [hc.keyed hkey] at hname
  subst hname
  rw [hspec] at hkey
  cases hkey
  exact hne (hf.symm.trans hfate)

/-- **What a reload keeps it leaves unchanged.** -/
theorem get?_applyChanges_of_kept {l : Loader} (hl : l.Coherent) {r : Repository} {name : String}
    {spec : Specification} (hspec : l.cache.get? name = some spec)
    (hfate : fate l.settings r spec = .kept) :
    (applyChanges l.settings r (l.changes r) l.cache.snapshot).get? name = some spec := by
  rw [hl.snapshot_eq]
  exact ((stepwise_unchanged l.settings r name spec).applyChanges
    ⟨hl.coherent, not_mem_stale hl.coherent hspec hfate, hspec⟩).2.2

/-! ### Steady exchanges -/

/-- The repository can be exchanged without making kept specifications false: their classes are the
same in both, and what their descriptions ask about other classes has the same answers. -/
def Steady (l : Loader) (r : Repository) : Prop :=
  ∀ (name : String) (spec : Specification) (d : Class), l.cache.get? name = some spec →
    fate l.settings r spec = .kept → l.repository.get? name = some d →
    r.get? name = some d ∧
      Environment.AlikeFor d
        (.ofRepository l.settings.config l.settings.services l.repository)
        (.ofRepository l.settings.config l.settings.services r)

/-- A request that exchanges the repository of an initialized loader does so steadily. -/
def SteadyIn (l : Loader) (q : Request) : Prop :=
  ∀ r, q = .reloadChanged r → l.isInitialized → l.Steady r

/-- To exchange the domain classes alone is steady. -/
theorem steadyIn_of_classes {l : Loader} {r : Repository} (h : r.classes = l.repository.classes) :
    l.SteadyIn (.reloadChanged r) := by
  rintro r' heq - name spec d - - hd
  cases heq
  exact ⟨(Repository.get?_congr h name).trans hd, .of_classes h _ _ d⟩

/-- The cache is coherent, and all that it has is what loading makes from the repository. -/
def Faithful (l : Loader) : Prop := AllBut (Made l.settings l.repository) [] l.cache

/-- **In a steady exchange, what is kept is what loading would make.** -/
theorem Steady.made {l : Loader} {r : Repository} (h : l.Steady r) {name : String}
    {spec : Specification} (hspec : l.cache.get? name = some spec)
    (hmade : Made l.settings l.repository name spec) (hfate : fate l.settings r spec = .kept) :
    Made l.settings r name spec := by
  obtain ⟨-, d, hd, rfl⟩ := hmade
  obtain rfl := Repository.name_of_get? hd
  obtain ⟨hd', halike⟩ := h _ _ d hspec hfate hd
  obtain ⟨hself, -⟩ := fate_eq_kept_iff.mp hfate
  exact ⟨⟨d.name, target?_eq_some_iff.mpr ⟨hself, d, hd'⟩⟩, d, hd',
    by rw [Settings.describe_congr halike]⟩

theorem faithful_new (s : Settings) (r : Repository) : (new s r).Faithful := .empty _ []

/-- A loader that is rebuilt is faithful, whatever it was before. -/
theorem faithful_rebuild (l : Loader) (r : Repository) : (l.perform (.rebuild r)).Faithful := by
  obtain ⟨c', hbuild, failures, hok⟩ := rebuild_eq_ok l r
  rw [perform_of_outcome (q := .rebuild r) hok]
  exact ((AllBut.empty _ []).loadAll id r.domain).buildIndex hbuild

/-- **A request keeps the loader faithful**, unless it exchanges the repository unsteadily. -/
theorem Faithful.perform {l : Loader} (h : l.Faithful) {q : Request}
    (hq : ∀ r, q ≠ .rebuild r) (hsteady : l.SteadyIn q) : (l.perform q).Faithful := by
  unfold Loader.perform
  split
  · rename_i l' hok
    obtain ⟨hsettings, hrepository⟩ := fields_of_outcome hok
    show AllBut (Made l'.settings l'.repository) [] l'.cache
    rw [hsettings]
    refine (effect_of_outcome hok).allBut (Q := Made l.settings) id
      (fun hspec hmade hfate => ?_) h
    cases q with
    | reloadChanged r =>
      -- the exchange was not refused, so that it has to be steady
      have hinit : l.isInitialized := by
        by_contra hinit
        rw [(outcome_eq_error_iff l (.reloadChanged r) .notInitialized).mpr
          (by rw [refusal?, if_neg hinit])] at hok
        cases hok
      rw [hrepository] at hfate ⊢
      exact (hsteady r rfl hinit).made hspec hmade hfate
    | rebuild r => exact absurd rfl (hq r)
    | _ => exact hrepository ▸ hmade
  · exact h

/-- **A loader is faithful after every run** in which no exchange since the last rebuild is
unsteady. -/
theorem faithful_run {l : Loader} (h : l.Faithful) {requests : List Request}
    (hfit : FitSinceRebuild SteadyIn l requests) : (l.run requests).Faithful :=
  run_sinceRebuild (P := Faithful) (fun l r => faithful_rebuild l r)
    (fun h hq hsteady => h.perform hq hsteady) h hfit

/-! ### Fresh loaders -/

/-- What a loader makes without another repository is determined by the name of the class. -/
theorem Made.unique {name : String} {spec other : Specification} (h : Made s r name spec)
    (h' : Made s r name other) : other = spec := by
  obtain ⟨-, d, hd, rfl⟩ := h
  obtain ⟨-, d', hd', rfl⟩ := h'
  rw [hd] at hd'
  cases hd'
  rfl

/-- What loading makes, a new loader answers with. -/
theorem Made.load_eq {name requested : String} {spec : Specification} (h : Made s r name spec)
    (hrequested : target? s r requested = some name) :
    ((new s r).load requested).1 = some spec := by
  obtain ⟨hname, -⟩ := target?_eq_some_iff.mp hrequested
  obtain ⟨found, hfound⟩ := (Cache.contains_iff ..).mp (contains_loadInto hrequested .empty)
  have hmade : Made s r name found :=
    ((AllBut.empty (Made s r) []).loadInto id requested).all hfound
  obtain rfl := h.unique hmade
  show (loadInto s r requested .empty).1 = some found
  rw [answer_loadInto, hname, Option.bind_some, hfound]

/-- A loader whose repository is never exchanged makes everything from it. -/
theorem made_run {more : List Request} (hmore : ∀ q ∈ more, q.repository? = none)
    {name : String} {spec : Specification}
    (h : ((new s r).run more).cache.get? name = some spec) : Made s r name spec := by
  have hfit : FitSinceRebuild SteadyIn (new s r) more := by
    rintro first q rest rfl - r' rfl
    simpa [Request.repository?] using hmore (.reloadChanged r') (by simp)
  have hfaithful := faithful_run (faithful_new s r) hfit
  have hmade := hfaithful.all h
  rw [settings_run, repository_run hmore] at hmade
  exact hmade

/-- A domain class that stands for itself is cached when a new loader is initialized. -/
theorem get?_run_init {d : Class} (hdomain : d.name ∈ r.domain)
    (hd : target? s r d.name = some d.name) (hget : r.get? d.name = some d) :
    ((new s r).run [.init]).cache.get? d.name = some (s.describe r d).completed := by
  obtain ⟨c, failures, hbuild, hinit⟩ := perform_init_new s r
  have hfaithful : AllBut (Made s r) [] c :=
    ((AllBut.empty _ []).loadAll id r.domain).buildIndex hbuild
  obtain ⟨spec, hspec⟩ := (Cache.contains_iff ..).mp (contains_assembled hbuild hdomain hd)
  obtain ⟨-, d', hget', rfl⟩ := hfaithful.all hspec
  rw [hget] at hget'
  cases hget'
  show ((new s r).perform .init).cache.get? d.name = _
  rw [hinit]
  exact hspec

/-- A domain class that is the same in both repositories keeps the specification that it has when
the loader is initialized. -/
theorem get?_run_kept {s : Settings} {r r' : Repository} {d : Class} (hdomain : d.name ∈ r.domain)
    (hd : target? s r d.name = some d.name) (hd' : target? s r' d.name = some d.name)
    (hget : r.get? d.name = some d) (hget' : r'.get? d.name = some d) :
    ((new s r).run [.init, .reloadChanged r']).cache.get? d.name =
      some (s.describe r d).completed := by
  have hspec := get?_run_init hdomain hd hget
  have hfate : fate ((new s r).run [.init]).settings r' (s.describe r d).completed = .kept := by
    rw [settings_run]
    exact fate_eq_kept_iff.mpr ⟨(target?_eq_some_iff.mp hd').1, d, hget', rfl⟩
  show (((new s r).run [.init]).perform (.reloadChanged r')).cache.get? d.name = _
  rw [perform_of_outcome
    (outcome_reloadChanged (reloadChanged_eq_ok (isInitialized_run_init s r) r'))]
  exact get?_applyChanges_of_kept (coherent_run s r [.init]) hspec hfate

/-! ### A model of baskets -/

/-- A class of baskets; what it holds is a list type of the shop. -/
def basket : Class :=
  { Class.named "shop.Basket" with
    methods := [{ Method.named "getContents" with returnType := .simple "shop.Items" }] }

/-- The list type of the shop, with the interfaces that it inherits from. -/
def itemsType (interfaces : List String) : Class :=
  { Class.named "shop.Items" with kind := .interface, interfaces := interfaces }

/-- The model of both classes, one of which is a domain class. -/
def shop (interfaces : List String) : Repository := basketModel [basket, itemsType interfaces]

/-- The environment that answers about the types of the shop, where its list type is one of
collections or not. -/
def shopEnvironment (collection : Bool) : Environment :=
  { config := .empty
    services := {}
    isCollectionType := fun name => collection && name == "shop.Items"
    isPrimitive := fun _ => false }

/-- The answers about the types of the shop's baskets are those of an environment in which they are
written down. -/
theorem alikeFor_basket {r : Repository} {collection : Bool}
    (hbasket : r.classes.get? "shop.Basket" = some basket)
    (hitems : r.isCollectionType "shop.Items" = collection)
    (hprimitive : r.isPrimitive "shop.Items" = false) :
    Environment.AlikeFor basket (shopEnvironment collection) (.ofRepository .empty {} r) := by
  have hself : r.isCollectionType "shop.Basket" = false :=
    Repository.isCollectionType_eq_false hbasket rfl (by decide) (by decide +kernel)
  refine ⟨rfl, rfl, ?_, ?_, ?_⟩
  · show r.isCollectionType "shop.Basket" = (collection && "shop.Basket" == "shop.Items")
    rw [hself, show ("shop.Basket" == "shop.Items") = false by decide, Bool.and_false]
  · intro m hm
    obtain rfl := List.mem_singleton.mp hm
    show r.isCollectionType "shop.Items" = (collection && "shop.Items" == "shop.Items")
    rw [hitems, beq_self_eq_true, Bool.and_true]
  · intro m hm t ht
    obtain rfl := List.mem_singleton.mp hm
    obtain rfl := List.mem_singleton.mp ht
    exact hprimitive

theorem membersOf_singleton {members : List (Nat × Member)} {id : String} {feature : Feature}
    (h : members.map (fun e => (e.2.id, e.2.feature)) = [(id, feature)]) (other : Feature) :
    (Introspection.membersOf members other).map (·.id) = if other = feature then [id] else [] := by
  obtain ⟨⟨index, m⟩, rfl, hm⟩ := List.map_eq_singleton_iff.mp h
  obtain ⟨rfl, rfl⟩ := Prod.mk.inj hm
  by_cases hother : m.feature = other
  · simp [Introspection.membersOf, Member.inOrder, hother]
  · simp [Introspection.membersOf, Member.inOrder, hother, Ne.symm hother]

/-- A class with one accessor has one property or collection. -/
theorem ids_describe {s : Settings} {r : Repository} {c : Class} {id : String} {feature : Feature}
    (h : (Introspection.ofClass s.model (.ofRepository s.config s.services r) c).associations.map
      (fun e => (e.2.id, e.2.feature)) = [(id, feature)]) :
    (s.describe r c).properties.map (·.id) = (if .property = feature then [id] else []) ∧
      (s.describe r c).collections.map (·.id) = if .collection = feature then [id] else [] :=
  ⟨membersOf_singleton h .property, membersOf_singleton h .collection⟩

/-- What the basket holds is a collection or a property, as its type is one of collections or
not. -/
theorem ids_basket {r : Repository} {collection : Bool}
    (hbasket : r.classes.get? "shop.Basket" = some basket)
    (hitems : r.isCollectionType "shop.Items" = collection)
    (hprimitive : r.isPrimitive "shop.Items" = false) :
    ((Settings.ofConfiguration .empty).describe r basket).properties.map (·.id) =
        (if collection then [] else ["contents"]) ∧
      ((Settings.ofConfiguration .empty).describe r basket).collections.map (·.id) =
        if collection then ["contents"] else [] := by
  have halike := alikeFor_basket hbasket hitems hprimitive
  have hmembers : (Introspection.ofClass (Settings.ofConfiguration .empty).model
      (.ofRepository (Settings.ofConfiguration .empty).config
        (Settings.ofConfiguration .empty).services r) basket).associations.map
          (fun e => (e.2.id, e.2.feature)) =
        [("contents", if collection then .collection else .property)] := by
    have hclosed : ∀ collection, (Introspection.ofClass (Settings.ofConfiguration .empty).model
      (shopEnvironment collection) basket).associations.map (fun e => (e.2.id, e.2.feature)) =
        [("contents", if collection then .collection else .property)] := by
      decide +kernel
    rw [← hclosed, ← Introspection.ofClass_congr halike]
    rfl
  obtain ⟨hproperties, hcollections⟩ := ids_describe hmembers
  rw [hproperties, hcollections]
  cases collection <;> exact ⟨rfl, rfl⟩

/-- What the two models of the shop register. -/
theorem registered_shop : ∀ interfaces ∈ [[], ["java.util.List"]],
    "shop.Basket" ∈ (shop interfaces).domain ∧
      target? (.ofConfiguration .empty) (shop interfaces) "shop.Basket" = some "shop.Basket" ∧
      (shop interfaces).classes.get? "shop.Basket" = some basket ∧
      (shop interfaces).classes.get? "shop.Items" = some (itemsType interfaces) ∧
      (shop interfaces).isPrimitive "shop.Items" = false := by
  decide +kernel

/-! ### Reloads and fresh starts -/

/-- **A reload agrees with a fresh start** if no exchange since the last rebuild is unsteady.
Whatever the loader was asked before, each specification that it has after the reload is what a new
loader makes of that class from the new repository: there is a name that it answers with this
specification, which is the name of the class if the class stands for itself, and it has no other
one of the class whatever it is asked. -/
theorem reload_as_fresh (s : Settings) (r : Repository) (requests : List Request)
    (r' : Repository) (hinit : ((new s r).run requests).isInitialized)
    (hfit : FitSinceRebuild SteadyIn (new s r) (requests ++ [.reloadChanged r'])) :
    ∃ changes l', ((new s r).run requests).reloadChanged r' = .ok (changes, l') ∧
      l'.repository = r' ∧
      ∀ name spec, l'.cache.get? name = some spec →
        (∃ requested, ((new s r').load requested).1 = some spec) ∧
        (s.substitutor.substitute r' name = some name →
          ((new s r').load name).1 = some spec) ∧
        ∀ more other, (∀ q ∈ more, q.repository? = none) →
          ((new s r').run more).cache.get? name = some other → other = spec := by
  have hok := reloadChanged_eq_ok hinit r'
  refine ⟨_, _, hok, rfl, fun name spec hspec => ?_⟩
  have hfaithful := faithful_run (faithful_new s r) hfit
  rw [run_append, run, List.foldl_cons, List.foldl_nil,
    perform_of_outcome (outcome_reloadChanged hok)] at hfaithful
  have hmade : Made s r' name spec := by
    have := (hfaithful.each hspec).resolve_left List.not_mem_nil
    rwa [settings_run] at this
  have ⟨⟨requested, hrequested⟩, d, hd, _⟩ := hmade
  refine ⟨⟨requested, hmade.load_eq hrequested⟩, fun hself => ?_, fun more other hmore hother => ?_⟩
  · exact hmade.load_eq (target?_eq_some_iff.mpr ⟨hself, d, hd⟩)
  · exact hmade.unique (made_run hmore hother)

/-- A second domain class is added, and the class of baskets is kept. -/
theorem reload_as_fresh_more_domain_classes :
    ((new (.ofConfiguration .empty) (shop [])).run [.init]).isInitialized ∧
      FitSinceRebuild SteadyIn (new (.ofConfiguration .empty) (shop []))
        ([.init] ++ [.reloadChanged (.ofModel ⟨[basket, itemsType []], none⟩)]) ∧
      ∃ changes l',
        ((new (.ofConfiguration .empty) (shop [])).run [.init]).reloadChanged
          (.ofModel ⟨[basket, itemsType []], none⟩) = .ok (changes, l') ∧
        ∀ name spec, l'.cache.get? name = some spec → ∃ requested,
          ((new (.ofConfiguration .empty) (.ofModel ⟨[basket, itemsType []], none⟩)).load
            requested).1 = some spec := by
  have hinit := isInitialized_run_init (.ofConfiguration .empty) (shop [])
  have hclasses : (Repository.ofModel ⟨[basket, itemsType []], none⟩).classes =
      ((new (.ofConfiguration .empty) (shop [])).perform .init).repository.classes := by
    rw [repository_perform (q := .init) rfl]
    rfl
  have hfit : FitSinceRebuild SteadyIn (new (.ofConfiguration .empty) (shop []))
      ([.init] ++ [.reloadChanged (.ofModel ⟨[basket, itemsType []], none⟩)]) :=
    .cons (fun r hr => by cases hr) (.cons (steadyIn_of_classes hclasses) .nil)
  obtain ⟨changes, l', hok, -, hspecs⟩ :=
    reload_as_fresh (.ofConfiguration .empty) (shop []) [.init] _ hinit hfit
  refine ⟨hinit, hfit, changes, l', hok, fun name spec hspec => ?_⟩
  obtain ⟨hfresh, -⟩ := hspecs name spec hspec
  exact hfresh

/-- **A kept specification can tell of the old repository.** The list type of the shop becomes one
of collections, but the class of baskets is the same: what it holds stays a property, while a new
loader finds a collection. -/
theorem kept_specification_tells_of_old_repository :
    ∃ spec fresh,
      ((new (.ofConfiguration .empty) (shop [])).run
        [.init, .reloadChanged (shop ["java.util.List"])]).cache.get? "shop.Basket" = some spec ∧
      ((new (.ofConfiguration .empty) (shop ["java.util.List"])).load "shop.Basket").1 =
        some fresh ∧
      (spec.properties.map (·.id) = ["contents"] ∧ spec.collections.map (·.id) = []) ∧
      (fresh.properties.map (·.id) = [] ∧ fresh.collections.map (·.id) = ["contents"]) := by
  obtain ⟨hdomain, htarget, hbasket, hitems, hprimitive⟩ :=
    registered_shop [] List.mem_cons_self
  obtain ⟨-, htarget', hbasket', hitems', hprimitive'⟩ :=
    registered_shop ["java.util.List"] (List.mem_cons_of_mem _ List.mem_cons_self)
  have hget := Repository.get?_of_registered hbasket
  have hget' := Repository.get?_of_registered hbasket'
  have hmade : Made (.ofConfiguration .empty) (shop ["java.util.List"]) "shop.Basket"
      ((Settings.ofConfiguration .empty).describe (shop ["java.util.List"]) basket).completed :=
    ⟨⟨"shop.Basket", htarget'⟩, basket, hget', rfl⟩
  refine ⟨_, _, get?_run_kept (d := basket) hdomain htarget htarget' hget hget',
    hmade.load_eq htarget', ?_, ?_⟩
  · have hplain : (shop []).isCollectionType "shop.Items" = false :=
      Repository.isCollectionType_eq_false hitems rfl (by decide) (by decide +kernel)
    exact ids_basket hbasket hplain hprimitive
  · have hparent : "java.util.List" ∈ Repository.parents (itemsType ["java.util.List"]) := by
      decide
    have hlist : (shop ["java.util.List"]).isCollectionType "shop.Items" = true :=
      Repository.isCollectionType_of_mem_parents hitems' hparent (by decide)
    exact ids_basket hbasket' hlist hprimitive'

end Loader
end Facetry
