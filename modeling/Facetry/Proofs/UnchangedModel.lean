/-
# Reloading a model that has not changed

To reload what has not changed makes no difference to any answer. That nothing is found
to do when the repository is the same is clear, as the cache is up to date. To build a
class again removes it, and loads it where the classes are cached that it refers to and
that refer back to it. The class is described as before, because all that is cached is
what loading makes from the repository; no other class comes in, because what is cached
refers to cached classes only; and the index leads where it led, because it is determined
by the classes as long as no object type is shared. These three facts are the invariant of
a run (`Loader.Whole`).

A class that stands for another one is not built again when it is reloaded, and a shared
object type moves to the class that is stored last. So the cached classes have to stand
for themselves, and to have their object types for themselves, throughout the run
(`Loader.Settled`).

Key definitions: `Loader.Whole`, `Loader.Settled`, `Loader.QuietIn`.
Key theorems: `Loader.Whole.perform`, `Loader.whole_run`, `Loader.Whole.reloadInto_eq`,
`Loader.reload_unchanged_invisible`.
-/
import Facetry.Proofs.Closure
import Facetry.Proofs.ObjectTypes

namespace Facetry

namespace Cache

/-- Where no object type is shared, each has at most one carrier. -/
theorem Unshared.lone {c : Cache} (h : c.Unshared) (id : String) (stale : List String) :
    c.Lone id stale := by
  rintro name other - - ⟨s, hs, hid⟩ ⟨t, ht, hid'⟩
  exact h name other id s t hs ht hid hid'

/-- An index that leads to the first carriers is determined by the classes. -/
theorem eq_of_leadsToFirst {c c' : Cache} (hinit : c'.isInitialized = c.isInitialized)
    (h : ∀ id, c.LeadsToFirst id) (h' : ∀ id, c'.LeadsToFirst id)
    (hget : ∀ name, c'.get? name = c.get? name) : c' = c := by
  have hclass : c'.byClass = c.byClass := NameMap.ext_get? hget
  exact ext_answers hget hinit fun id => by rw [h' id, h id, hclass]

end Cache

namespace Loader

/-! ### Whole loaders -/

/-- All that is cached is what loading makes from the repository, what it refers to is cached too,
and an index leads from each object type to the first class that carries it. -/
structure Whole (l : Loader) : Prop where
  faithful : l.Faithful
  closed : Closed l.settings l.repository (l.cache.contains ·)
  first : l.isInitialized → ∀ id, l.cache.LeadsToFirst id

/-- Every cached class stands for itself, and no two carry the same object type. -/
structure Settled (l : Loader) : Prop where
  fixed : ∀ name, l.cache.contains name →
    l.settings.substitutor.substitute l.repository name = some name
  unshared : l.cache.Unshared

/-- A request to an initialized loader brings no repository, and finds and leaves the loader
settled. -/
def QuietIn (l : Loader) (q : Request) : Prop :=
  l.isInitialized → q.repository? = none ∧ l.Settled ∧ (l.perform q).Settled

theorem Faithful.coherent {l : Loader} (h : l.Faithful) : l.Coherent :=
  ⟨AllBut.coherent h, fun hspec => (h.each hspec).imp_right Made.current⟩

/-- A cached class that the substitutor leaves alone stands for itself. -/
theorem Settled.target {l : Loader} (h : l.Settled) (hl : l.Faithful) {name : String}
    (hname : l.cache.contains name) : target? l.settings l.repository name = some name := by
  obtain ⟨spec, hspec⟩ := (Cache.contains_iff ..).mp hname
  obtain ⟨-, d, hd, -⟩ := hl.all hspec
  exact target?_eq_some_iff.mpr ⟨h.fixed name hname, d, hd⟩

theorem whole_new (s : Settings) (r : Repository) : (new s r).Whole :=
  ⟨faithful_new s r, closed_empty s r, fun h => absurd h Bool.false_ne_true⟩

theorem whole_rebuild (l : Loader) (r : Repository) : (l.perform (.rebuild r)).Whole := by
  refine ⟨faithful_rebuild l r, ?_, fun hinit id => (leading_rebuild id l r).first hinit⟩
  obtain ⟨c', hbuild, failures, hok⟩ := rebuild_eq_ok l r
  rw [perform_of_outcome (q := .rebuild r) hok]
  exact (closed_loadAll (closed_empty l.settings r) r.domain).congr
    (Cache.contains_buildIndex hbuild)

/-- A quiet request leaves a closed cache. -/
theorem Whole.closed_perform {l : Loader} (h : l.Whole) {q : Request} (hq : ∀ r, q ≠ .rebuild r)
    (hquiet : l.QuietIn q) :
    Closed (l.perform q).settings (l.perform q).repository ((l.perform q).cache.contains ·) := by
  have hrefused : ∀ {q e}, l.refusal? q = some e →
      Closed (l.perform q).settings (l.perform q).repository ((l.perform q).cache.contains ·) :=
    fun {q e} hrefusal => by
      rw [perform_of_outcome_eq_error ((outcome_eq_error_iff l q e).mpr hrefusal)]
      exact h.closed
  cases q with
  | load name => exact closed_loadInto h.closed name
  | lookup name => exact h.closed
  | validate => exact h.closed
  | withObjectType id =>
    by_cases hinit : l.isInitialized
    · have hanswered : l.outcome (.withObjectType id) = .ok l := by
        rw [outcome, withObjectType, Cache.withObjectType_of_isInitialized hinit]
        rfl
      rw [perform_of_outcome hanswered]
      exact h.closed
    · exact hrefused (by rw [refusal?, if_neg hinit])
  | init =>
    by_cases hinit : l.isInitialized
    · exact hrefused (by rw [refusal?, if_pos hinit])
    · obtain ⟨c', hbuild, failures, hok⟩ := init_eq_ok hinit
      rw [perform_of_outcome (q := .init) hok]
      exact (closed_loadAll h.closed l.repository.domain).congr (Cache.contains_buildIndex hbuild)
  | reloadClass name =>
    by_cases hinit : l.isInitialized
    · obtain ⟨-, hsettled, -⟩ := hquiet hinit
      rw [perform_of_outcome (outcome_reloadClass hinit name), h.faithful.coherent.snapshot_eq]
      exact closed_reloadInto h.faithful.coherent.coherent h.closed (hsettled.target h.faithful)
    · exact hrefused (by rw [refusal?, if_neg hinit])
  | reloadChanged r =>
    by_cases hinit : l.isInitialized
    · obtain ⟨hnone, -⟩ := hquiet hinit
      cases hnone
    · exact hrefused (by rw [refusal?, if_neg hinit])
  | rebuild r => exact absurd rfl (hq r)

/-- **A quiet request leaves a whole loader whole.** -/
theorem Whole.perform {l : Loader} (h : l.Whole) {q : Request} (hq : ∀ r, q ≠ .rebuild r)
    (hquiet : l.QuietIn q) : (l.perform q).Whole := by
  have hsteady : l.SteadyIn q := by
    rintro r rfl hinit
    obtain ⟨hnone, -⟩ := hquiet hinit
    cases hnone
  have hlead : ∀ id, (l.perform q).Leading id := fun id =>
    Leading.perform ⟨h.faithful.coherent, fun hinit => h.first hinit id⟩ fun hinit _ => by
      obtain ⟨-, hsettled, hsettled'⟩ := hquiet hinit
      exact ⟨hsettled.unshared.lone id [], hsettled'.unshared.lone id []⟩
  exact ⟨h.faithful.perform hq hsteady, h.closed_perform hq hquiet,
    fun hinit id => (hlead id).first hinit⟩

/-- **A loader is whole after every run** whose requests are quiet since the last rebuild. -/
theorem whole_run {l : Loader} (h : l.Whole) {requests : List Request}
    (hfit : FitSinceRebuild QuietIn l requests) : (l.run requests).Whole :=
  run_sinceRebuild (P := Whole) whole_rebuild (fun h hq hquiet => h.perform hq hquiet) h hfit

/-! ### Reloading a class that has not changed -/

/-- To build a class again leaves the cache of a whole and settled loader as it is. -/
theorem Whole.cache_reloadInto {l : Loader} (h : l.Whole) (hinit : l.isInitialized)
    (hsettled : l.Settled) {name : String} (hname : l.cache.contains name) :
    (reloadInto l.settings l.repository name l.cache).2 = l.cache := by
  have hcoherent := h.faithful.coherent
  have hself := hsettled.target h.faithful hname
  have heffect : l.Effect l.repository
      (reloadInto l.settings l.repository name l.cache).2 := by
    rw [← hcoherent.snapshot_eq]
    exact .reloaded name
  have hsame := contains_reloadInto_iff hcoherent.coherent h.closed hself hname
  have hmade : AllBut (Made l.settings l.repository) []
      (reloadInto l.settings l.repository name l.cache).2 :=
    (AllBut.stepwise id).reloadInto (AllBut.mono h.faithful fun _ hn => by cases hn)
  have hinit' := isInitialized_reloadInto l.settings l.repository name l.cache
  generalize (reloadInto l.settings l.repository name l.cache).2 = c at *
  -- the same classes are cached, each as loading makes it
  have hget : ∀ other, c.get? other = l.cache.get? other := AllBut.get?_eq h.faithful hmade hsame
  have hunshared : c.Unshared := fun a b id t u ht hu =>
    hsettled.unshared a b id t u ((hget a).symm.trans ht) ((hget b).symm.trans hu)
  -- and the index leads to the only carrier of each object type, before and after
  have hlead : ∀ id, c.LeadsToFirst id := fun id =>
    heffect.leadsToFirst_of_leads hcoherent hinit
      ((h.first hinit id).leads (hsettled.unshared.lone id [])) (hunshared.lone id [])
  exact Cache.eq_of_leadsToFirst hinit' (h.first hinit) hlead hget

/-- **A whole and settled loader answers with the cached specification** when it builds a class
again. -/
theorem Whole.reloadInto_eq {l : Loader} (h : l.Whole) (hinit : l.isInitialized)
    (hsettled : l.Settled) {name : String} {spec : Specification}
    (hspec : l.cache.get? name = some spec) :
    reloadInto l.settings l.repository name l.cache = (some spec, l.cache) := by
  have hname : l.cache.contains name := (Cache.contains_iff ..).mpr ⟨spec, hspec⟩
  have hcache := h.cache_reloadInto hinit hsettled hname
  obtain ⟨built, hbuilt, heq⟩ :=
    reloadInto_eq_of_target (hsettled.target h.faithful hname) l.cache
  have hloaded : Cache.Coherent
      (loadInto l.settings l.repository name (l.cache.remove name)).2 :=
    coherent_loadInto (h.faithful.coherent.coherent.remove name) _ _ name
  rw [heq] at hcache ⊢
  have hstored : l.cache.get? name = some built := by
    rw [← hcache, Cache.get?_store, if_pos (hloaded.keyed hbuilt).symm]
  rw [hspec] at hstored
  cases hstored
  exact Prod.ext rfl hcache

/-- A loader finds nothing to do for the repository that it has, if all that is cached is made from
it and stands for itself. -/
theorem Settled.changes_eq {l : Loader} (hsettled : l.Settled) (hl : l.Coherent) :
    l.changes l.repository = ⟨[], [], []⟩ := by
  have hkept : ∀ f, f ≠ .kept → classesWith l.settings l.repository l.cache f = [] :=
    fun f hf => List.eq_nil_iff_forall_not_mem.mpr fun name hname => by
      obtain ⟨spec, hspec, rfl⟩ := (mem_classesWith_iff hl.coherent).mp hname
      obtain ⟨-, hclass⟩ := hl.all hspec
      have hself := hsettled.fixed name ((Cache.contains_iff ..).mpr ⟨spec, hspec⟩)
      obtain rfl := hl.coherent.keyed hspec
      exact hf (fate_eq_kept_iff.mpr ⟨hself, hclass⟩)
  have hadded : (l.repository.domain.filter fun name =>
      !l.repository.domain.contains name && !l.cache.contains name) = [] :=
    List.filter_eq_nil_iff.mpr fun name hname => by simp [hname]
  rw [changes, hkept .reloaded (by decide), hkept .evicted (by decide), hadded]

/-! ### A model of two classes that refer to each other -/

/-- A buyer, which is a party and has an order. -/
def buyer : Class :=
  { party "shop.Buyer" with
    methods := [{ Method.named "getOrder" with returnType := .simple "shop.Order" }] }

/-- An order, which has a buyer. -/
def order : Class :=
  { Class.named "shop.Order" with
    methods := [{ Method.named "getBuyer" with returnType := .simple "shop.Buyer" }] }

/-- The model of both classes, neither of which is a domain class. -/
def orders : Repository := .ofModel ⟨[buyer, order], some []⟩

/-- The repository has both classes, which stand for themselves and are not primitive. -/
structure HasOrders (r : Repository) : Prop where
  registered : ∀ c ∈ [buyer, order], r.classes.get? c.name = some c
  target : ∀ c ∈ [buyer, order], target? (.ofConfiguration .empty) r c.name = some c.name
  primitive : ∀ c ∈ [buyer, order], r.isPrimitive c.name = false

theorem hasOrders_orders : orders.domain = [] ∧ HasOrders orders :=
  ⟨rfl, by decide +kernel, by decide +kernel, by decide +kernel⟩

namespace HasOrders

variable {r : Repository} (h : HasOrders r)
include h

/-- Neither class is one of collections. -/
theorem isCollectionType_eq_false : ∀ c ∈ [buyer, order], r.isCollectionType c.name = false := by
  intro c hc
  have hplain : ∀ c ∈ [buyer, order], Repository.parents c = [] ∧
      c.name ∉ Repository.collectionInterfaces ∧ TypeRef.componentName? c.name = none := by
    decide +kernel
  obtain ⟨hparents, hinterface, harray⟩ := hplain c hc
  exact Repository.isCollectionType_eq_false (h.registered c hc) hparents hinterface harray

/-- The answers about a class whose only method returns one of the two. -/
theorem alikeFor {c d : Class} (hc : c ∈ [buyer, order]) (hd : d ∈ [buyer, order]) {name : String}
    (hmethods : c.methods = [{ Method.named name with returnType := .simple d.name }]) :
    Environment.AlikeFor c (shopEnvironment false) (.ofRepository .empty {} r) := by
  refine ⟨rfl, rfl, h.isCollectionType_eq_false c hc, ?_, ?_⟩
  · rw [hmethods]
    exact List.forall_mem_singleton.mpr (h.isCollectionType_eq_false d hd)
  · rw [hmethods]
    exact List.forall_mem_singleton.mpr (List.forall_mem_singleton.mpr (h.primitive d hd))

/-- The two classes have different object types and refer to each other. -/
theorem describe :
    (((Settings.ofConfiguration .empty).describe r buyer).objectType? = some "shop.Party" ∧
      ((Settings.ofConfiguration .empty).describe r buyer).referencedTypes = ["shop.Order"]) ∧
    ((Settings.ofConfiguration .empty).describe r order).objectType? = some "shop.Order" ∧
      ((Settings.ofConfiguration .empty).describe r order).referencedTypes = ["shop.Buyer"] := by
  have hbuyer : buyer ∈ [buyer, order] := List.mem_cons_self
  have horder : order ∈ [buyer, order] := List.mem_cons_of_mem _ List.mem_cons_self
  rw [Settings.describe_of_alikeFor (s := .ofConfiguration .empty) (h.alikeFor hbuyer horder rfl),
    Settings.describe_of_alikeFor (s := .ofConfiguration .empty) (h.alikeFor horder hbuyer rfl)]
  decide +kernel

/-- What loading makes of the two classes. -/
theorem eq_of_made {c : Class} (hc : c ∈ [buyer, order]) {spec : Specification}
    (hmade : Made (.ofConfiguration .empty) r c.name spec) :
    spec = ((Settings.ofConfiguration .empty).describe r c).completed := by
  obtain ⟨-, d, hd, rfl⟩ := hmade
  rw [Repository.get?_of_registered (h.registered c hc)] at hd
  rw [Option.some.inj hd]

/-- The two classes are a closed set. -/
theorem closed : Closed (.ofConfiguration .empty) r fun name =>
    ∃ c ∈ [buyer, order], c.name = name := by
  rintro _ d ⟨c, hc, rfl⟩ hd type htype resolved hresolved
  have hreferenced : ∃ other ∈ [buyer, order],
      ((Settings.ofConfiguration .empty).describe r c).referencedTypes = [other.name] := by
    obtain ⟨⟨-, hbuyer⟩, -, horder⟩ := h.describe
    rcases List.mem_pair.mp hc with rfl | rfl
    · exact ⟨order, List.mem_cons_of_mem _ List.mem_cons_self, hbuyer⟩
    · exact ⟨buyer, List.mem_cons_self, horder⟩
  obtain ⟨other, hother, hreferenced⟩ := hreferenced
  rw [Repository.get?_of_registered (h.registered c hc)] at hd
  obtain rfl := Option.some.inj hd
  rw [hreferenced] at htype
  obtain rfl := List.mem_singleton.mp htype
  rw [h.target other hother] at hresolved
  exact ⟨other, hother, Option.some.inj hresolved⟩

/-- A loader is settled if it has no other classes than the two. -/
theorem settled {requests : List Request} (hstays : ∀ q ∈ requests, q.repository? = none)
    (hwithin : ∀ {name}, ((new (.ofConfiguration .empty) r).run requests).cache.contains name →
      ∃ c ∈ [buyer, order], c.name = name) :
    ((new (.ofConfiguration .empty) r).run requests).Settled := by
  have hspec : ∀ {name spec},
      ((new (.ofConfiguration .empty) r).run requests).cache.get? name = some spec →
        ∃ c ∈ [buyer, order], c.name = name ∧
          spec.objectType? = ((Settings.ofConfiguration .empty).describe r c).objectType? := by
    intro name spec hspec
    obtain ⟨c, hc, rfl⟩ := hwithin ((Cache.contains_iff ..).mpr ⟨spec, hspec⟩)
    rw [h.eq_of_made hc (made_run hstays hspec)]
    exact ⟨c, hc, rfl, rfl⟩
  refine ⟨fun name hname => ?_, fun name other id t u ht hu hid hid' => ?_⟩
  · obtain ⟨c, hc, rfl⟩ := hwithin hname
    rw [settings_run, repository_run hstays]
    exact (target?_eq_some_iff.mp (h.target c hc)).1
  · obtain ⟨c, hc, rfl, htype⟩ := hspec ht
    obtain ⟨d, hd, rfl, htype'⟩ := hspec hu
    have hsame : ((Settings.ofConfiguration .empty).describe r c).objectType? =
        ((Settings.ofConfiguration .empty).describe r d).objectType? := by
      rw [← htype, ← htype', hid, hid']
    obtain ⟨⟨hbuyer, -⟩, horder, -⟩ := h.describe
    rcases List.mem_pair.mp hc with rfl | rfl <;> rcases List.mem_pair.mp hd with rfl | rfl
    · rfl
    · rw [hbuyer, horder] at hsame
      exact absurd hsame (by decide)
    · rw [hbuyer, horder] at hsame
      exact absurd hsame (by decide)
    · rfl

/-- When the buyer is loaded after the start, the loader stays settled, and the order is cached with
it because the buyer refers to it. -/
theorem loaded (hdomain : r.domain = []) :
    let l := new (.ofConfiguration .empty) r
    (l.run [.init, .load "shop.Buyer"]).Settled ∧
      FitSinceRebuild QuietIn l [.init, .load "shop.Buyer"] ∧
      ∀ c ∈ [buyer, order], (l.run [.init, .load "shop.Buyer"]).cache.contains c.name := by
  intro l
  have hnone : ∀ name ∈ r.domain, ∀ resolved,
      target? (.ofConfiguration .empty) r name = some resolved →
        ∃ c ∈ [buyer, order], c.name = resolved := by
    simp [hdomain]
  have htarget : target? (.ofConfiguration .empty) r "shop.Buyer" = some "shop.Buyer" :=
    h.target buyer List.mem_cons_self
  have hstart : (l.run [.init]).Settled :=
    h.settled (by simp [Request.repository?]) (within_run_init h.closed hnone)
  have hstays : ∀ q ∈ [Request.init, .load "shop.Buyer"], q.repository? = none := by
    simp [Request.repository?]
  have hend : (l.run [.init, .load "shop.Buyer"]).Settled :=
    h.settled hstays (within_run_init_load h.closed hnone fun resolved hresolved =>
      ⟨buyer, List.mem_cons_self, Option.some.inj (htarget.symm.trans hresolved)⟩)
  have hquiet : FitSinceRebuild QuietIn l [.init, .load "shop.Buyer"] :=
    .cons (fun h => absurd h Bool.false_ne_true) (.cons (fun _ => ⟨rfl, hstart, hend⟩) .nil)
  have hclosed : Closed (.ofConfiguration .empty) r
      ((l.run [.init, .load "shop.Buyer"]).cache.contains ·) := by
    have hwhole := whole_run (whole_new _ r) hquiet
    have hclosed := hwhole.closed
    rw [settings_run, repository_run hstays] at hclosed
    exact hclosed
  have hbuyer : (l.run [.init, .load "shop.Buyer"]).cache.contains "shop.Buyer" := by
    rw [cache_run_init_load]
    exact contains_loadInto htarget _
  refine ⟨hend, hquiet, List.forall_mem_cons.mpr ⟨hbuyer, List.forall_mem_singleton.mpr ?_⟩⟩
  obtain ⟨⟨-, hreferenced⟩, -⟩ := h.describe
  have hget := Repository.get?_of_registered (h.registered buyer List.mem_cons_self)
  refine hclosed "shop.Buyer" buyer hbuyer hget "shop.Order" ?_ _
    (h.target order (List.mem_cons_of_mem _ List.mem_cons_self))
  rw [hreferenced]
  exact List.mem_cons_self

end HasOrders

/-! ### Runs -/

/-- **To reload a model that has not changed is not seen.** After any run whose requests since the
last rebuild, once the loader is initialized, bring no repository and find and leave it settled, a
reload of the same repository reports nothing, and a cached class that is built again has the
specification that it had. The loader is the same after either, so that whatever it is asked by
class, by object type, or as a whole, it answers as before. -/
theorem reload_unchanged_invisible (s : Settings) (r : Repository) (requests : List Request)
    (hinit : ((new s r).run requests).isInitialized)
    (hsettled : ((new s r).run requests).Settled)
    (hquiet : FitSinceRebuild QuietIn (new s r) requests) :
    let l := (new s r).run requests
    l.reloadChanged l.repository = .ok (⟨[], [], []⟩, l) ∧
      ∀ name spec, l.cache.get? name = some spec → l.reloadClass name = .ok (some spec, l) := by
  intro l
  have hwhole : l.Whole := whole_run (whole_new s r) hquiet
  have hcoherent := hwhole.faithful.coherent
  constructor
  · rw [reloadChanged_eq_ok hinit, hsettled.changes_eq hcoherent, hcoherent.snapshot_eq]
    rfl
  · intro name spec hspec
    rw [reloadClass, if_pos hinit, hcoherent.snapshot_eq,
      hwhole.reloadInto_eq hinit hsettled hspec]

/-- A buyer that is loaded after the start is the same when it is reloaded, and so is the order that
was loaded with it and refers back to it. -/
theorem reload_unchanged_orders :
    ∃ buyer order,
      let l := (new (.ofConfiguration .empty) orders).run [.init, .load "shop.Buyer"]
      l.isInitialized ∧ l.Settled ∧
        FitSinceRebuild QuietIn (new (.ofConfiguration .empty) orders)
          [.init, .load "shop.Buyer"] ∧
        l.cache.get? "shop.Buyer" = some buyer ∧ l.cache.get? "shop.Order" = some order ∧
        buyer.referencedTypes = ["shop.Order"] ∧ order.referencedTypes = ["shop.Buyer"] ∧
        l.reloadChanged l.repository = .ok (⟨[], [], []⟩, l) ∧
        l.reloadClass "shop.Buyer" = .ok (some buyer, l) ∧
        l.reloadClass "shop.Order" = .ok (some order, l) := by
  obtain ⟨hdomain, horders⟩ := hasOrders_orders
  generalize orders = r at *
  have hinit : ((new (.ofConfiguration .empty) r).run
      [.init, .load "shop.Buyer"]).isInitialized :=
    isInitialized_run (isInitialized_run_init _ r) [.load "shop.Buyer"]
  obtain ⟨hsettled, hquiet, hcached⟩ := horders.loaded hdomain
  have hbuyer : buyer ∈ [buyer, order] := List.mem_cons_self
  have horder : order ∈ [buyer, order] := List.mem_cons_of_mem _ List.mem_cons_self
  obtain ⟨spec, hspec⟩ := (Cache.contains_iff ..).mp (hcached buyer hbuyer)
  obtain ⟨other, hother⟩ := (Cache.contains_iff ..).mp (hcached order horder)
  have hstays : ∀ q ∈ [Request.init, .load "shop.Buyer"], q.repository? = none := by
    simp [Request.repository?]
  obtain ⟨hreport, hsame⟩ :=
    reload_unchanged_invisible (.ofConfiguration .empty) r _ hinit hsettled hquiet
  obtain ⟨⟨-, htoOrder⟩, -, htoBuyer⟩ := horders.describe
  refine ⟨spec, other, hinit, hsettled, hquiet, hspec, hother, ?_, ?_, hreport,
    hsame _ spec hspec, hsame _ other hother⟩
  · rw [horders.eq_of_made hbuyer (made_run hstays hspec)]
    exact htoOrder
  · rw [horders.eq_of_made horder (made_run hstays hother)]
    exact htoBuyer

end Loader
end Facetry
