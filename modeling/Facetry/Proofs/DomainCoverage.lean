/-
# Which domain classes are loaded

Initializing and rebuilding load every domain class, whatever was loaded before. A
reload goes by what was there: it adds a domain class that was none before and is not
cached, and it builds again or keeps the classes that are cached. A domain class that
the changes cover in one of these ways is cached afterwards: through the removals and
the reloads it is cached or still has its turn to come (`Loader.contains_reloads`), and
the additions only add.

The two ways leave a gap. A domain class that was on the old list while nothing was
loaded for it is not added; it stays out although the new repository knows its class
(`Loader.unknown_domain_class_left_out`).

Key definitions: `Loader.AnswersFor`, `Loader.SeesTo`.
Key theorems: `Loader.contains_reloads`, `Loader.contains_applyChanges`,
`Loader.domain_classes_cached`.
-/
import Facetry.Proofs.LoaderRuns

namespace Facetry

namespace Cache

theorem contains_remove (c : Cache) (className name : String) :
    (c.remove className).contains name ↔ name ≠ className ∧ c.contains name := by
  rw [contains_iff, get?_remove, contains_iff]
  by_cases h : name = className <;> simp [h]

theorem contains_buildIndex {c c' : Cache} (h : c.buildIndex = .ok c') (name : String) :
    c'.contains name ↔ c.contains name := by
  rw [contains_iff, contains_iff, get?_buildIndex h]

end Cache

namespace Loader

variable {s : Settings} {r : Repository}

/-! ### What one step leaves cached -/

theorem grows_loadInto (s : Settings) (r : Repository) (name : String) (c : Cache) :
    Grows c (loadInto s r name c).2 := by
  obtain ⟨calls, hcourse⟩ := course_loadInto s r name c
  exact hcourse.keeps.grows

theorem Restored.grows {a b : Cache} (h : Restored a b) : Grows a b := by
  rcases h with rfl | ⟨name, spec, -, rfl⟩
  · exact .refl _
  · exact grows_store a spec

theorem grows_addInto (s : Settings) (r : Repository) (name : String) (c : Cache) :
    Grows c (addInto s r name c) :=
  (grows_loadInto s r name c).trans (restored_addInto s r name c).grows

/-- A load caches what the name stands for. -/
theorem contains_loadInto {name resolved : String} (h : target? s r name = some resolved)
    (c : Cache) : (loadInto s r name c).2.contains resolved := by
  obtain ⟨calls, hcourse⟩ := course_loadInto s r name c
  exact hcourse.contains_target (List.mem_singleton_self name) h

theorem contains_addInto {name resolved : String} (h : target? s r name = some resolved)
    (c : Cache) : (addInto s r name c).contains resolved :=
  (restored_addInto s r name c).grows _ (contains_loadInto h c)

/-- A class that stands for itself is removed, loaded, and stored once more when it is reloaded, and
the answer is what is stored. -/
theorem reloadInto_eq_of_target {name : String} (h : target? s r name = some name) (c : Cache) :
    ∃ spec, (loadInto s r name (c.remove name)).2.get? name = some spec ∧
      reloadInto s r name c =
        (some spec, (loadInto s r name (c.remove name)).2.store spec) := by
  obtain ⟨hself, -⟩ := target?_eq_some_iff.mp h
  obtain ⟨spec, hspec⟩ := (Cache.contains_iff ..).mp (contains_loadInto h (c.remove name))
  have hanswer := answer_loadInto s r name (c.remove name)
  rw [hself, Option.bind_some, hspec] at hanswer
  refine ⟨spec, hspec, ?_⟩
  unfold reloadInto
  rw [hself]
  dsimp only
  generalize loadInto s r name (c.remove name) = result at hanswer
  obtain ⟨answer, cache⟩ := result
  obtain rfl : answer = some spec := hanswer
  dsimp only
  rw [if_pos rfl]
  rfl

theorem reloadInto_of_target {name : String} (h : target? s r name = some name) (c : Cache) :
    ∃ spec, (loadInto s r name (c.remove name)).2.get? name = some spec ∧
      (reloadInto s r name c).2 = (loadInto s r name (c.remove name)).2.store spec := by
  obtain ⟨spec, hspec, heq⟩ := reloadInto_eq_of_target h c
  exact ⟨spec, hspec, congrArg Prod.snd heq⟩

theorem contains_reloadInto {name : String} (h : target? s r name = some name) (c : Cache) :
    (reloadInto s r name c).2.contains name := by
  obtain ⟨spec, -, hstored⟩ := reloadInto_of_target h c
  rw [hstored]
  exact grows_store _ spec name (contains_loadInto h _)

/-- Reloading a class leaves the other ones cached. -/
theorem contains_reloadInto_of_ne {name other : String} {c : Cache} (hne : name ≠ other)
    (h : c.contains name) : (reloadInto s r other c).2.contains name := by
  have hremoved : (c.remove other).contains name := (c.contains_remove ..).mpr ⟨hne, h⟩
  rcases restored_reloadInto s r other c with ⟨-, heq⟩ | ⟨resolved, -, hrestored⟩
  · rw [heq]
    exact hremoved
  · exact hrestored.grows _ (grows_loadInto s r resolved _ _ hremoved)

/-! ### What all steps leave cached -/

/-- **A class is cached after the reloads**, or its turn is still to come. -/
theorem contains_reloads {name : String} (hname : target? s r name = some name)
    {names : List String} {c : Cache} (h : name ∈ names ∨ c.contains name) :
    (names.foldl (fun c other => (reloadInto s r other c).2) c).contains name := by
  have hstep : ∀ {other : String} {pending : List String} {c : Cache},
      name ∈ other :: pending ∨ c.contains name →
        name ∈ pending ∨ (reloadInto s r other c).2.contains name := by
    intro other pending c h
    -- its own turn caches the class again; in any other turn it stays what it was
    by_cases hself : name = other
    · subst hself
      exact .inr (contains_reloadInto hname c)
    · exact h.imp (fun hmem => (List.mem_cons.mp hmem).resolve_left hself)
        fun hcached => contains_reloadInto_of_ne hself hcached
  rw [← List.append_nil names] at h
  have hdone := foldl_stale (P := fun pending c => name ∈ pending ∨ c.contains name) hstep h
  exact hdone.resolve_left List.not_mem_nil

theorem contains_removes {name : String} {names : List String} {c : Cache} (hname : name ∉ names)
    (h : c.contains name) : (names.foldl Cache.remove c).contains name :=
  List.foldlRecOn (motive := fun c => c.contains name) names Cache.remove h
    fun c hc other hother =>
      (c.contains_remove other name).mpr ⟨fun heq => hname (heq ▸ hother), hc⟩

theorem mem_of_mem_classesWith {c : Cache} {name : String} {f : Fate}
    (h : name ∈ classesWith s r c f) :
    ∃ spec, (∃ key, c.get? key = some spec) ∧ fate s r spec = f ∧ spec.className = name := by
  obtain ⟨spec, hspec, rfl⟩ := List.mem_map.mp h
  obtain ⟨hall, hfate⟩ := List.mem_filter.mp hspec
  exact ⟨spec, (Cache.mem_all_iff c spec).mp hall, by simpa using hfate, rfl⟩

/-- A class that stands for itself is not evicted. -/
theorem not_mem_evicted {name : String} (hname : target? s r name = some name) (c : Cache) :
    name ∉ classesWith s r c .evicted := by
  intro hmem
  obtain ⟨hself, d, hd⟩ := target?_eq_some_iff.mp hname
  obtain ⟨spec, -, hfate, rfl⟩ := mem_of_mem_classesWith hmem
  simp only [fate, hd, hself, ne_eq, not_true_eq_false, if_false] at hfate
  split at hfate <;> cases hfate

/-- **A cached class that stands for itself is cached after the changes.** -/
theorem contains_applyChanges {l : Loader} {r : Repository} {name : String}
    (hname : target? l.settings r name = some name) {c : Cache} (h : c.contains name) :
    (applyChanges l.settings r (l.changes r) c).contains name := by
  have hremoved := contains_removes (not_mem_evicted hname l.cache) h
  have hreloaded : ((l.changes r).reloaded.foldl
      (fun c other => (reloadInto l.settings r other c).2) _).contains name :=
    contains_reloads hname (.inr hremoved)
  exact List.foldlRecOn (motive := fun c => c.contains name) (l.changes r).added _ hreloaded
    fun c hc other _ => grows_addInto _ _ other c name hc

/-- What an added name stands for is cached after the changes. -/
theorem contains_applyChanges_of_added {changes : Changes} {name resolved : String}
    (hname : name ∈ changes.added) (h : target? s r name = some resolved) (c : Cache) :
    (applyChanges s r changes c).contains resolved := by
  unfold applyChanges
  generalize changes.reloaded.foldl (fun c name => (reloadInto s r name c).2)
    (changes.evicted.foldl Cache.remove c) = c
  obtain ⟨before, after, hsplit⟩ := List.append_of_mem hname
  rw [hsplit, List.foldl_append, List.foldl_cons]
  exact List.foldlRecOn (motive := fun c => c.contains resolved) after _ (contains_addInto h _)
    fun c hc other _ => grows_addInto s r other c resolved hc

/-! ### Domain classes -/

/-- The loader has a complete specification of what the domain class stands for, and answers with
it. -/
def AnswersFor (l : Loader) (name : String) : Prop :=
  ∃ resolved spec, target? l.settings l.repository name = some resolved ∧
    l.cache.get? resolved = some spec ∧ spec.state = .complete ∧ l.lookup name = some spec

theorem answersFor_of_contains {l : Loader} (hl : l.Coherent) {name resolved : String}
    (h : target? l.settings l.repository name = some resolved)
    (hcached : l.cache.contains resolved) : l.AnswersFor name := by
  obtain ⟨spec, hspec⟩ := (Cache.contains_iff ..).mp hcached
  obtain ⟨hcomplete, -⟩ := hl.all hspec
  obtain ⟨hresolved, -⟩ := target?_eq_some_iff.mp h
  exact ⟨resolved, spec, h, hspec, hcomplete, by rw [lookup, hresolved, Option.bind_some, hspec]⟩

theorem coherent_of_outcome {l l' : Loader} (hl : l.Coherent) {q : Request}
    (h : l.outcome q = .ok l') : l'.Coherent :=
  (effect_of_outcome h).upToDate hl

/-- A cache that is assembled has all domain classes. -/
theorem contains_assembled {c c' : Cache} (h : (loadAll s r r.domain c).buildIndex = .ok c')
    {name resolved : String} (hname : name ∈ r.domain)
    (htarget : target? s r name = some resolved) : c'.contains resolved := by
  obtain ⟨calls, hcourse⟩ := course_loadAll s r r.domain c
  exact (Cache.contains_buildIndex h resolved).mpr (hcourse.contains_target hname htarget)

/-- A reload to the repository sees to the domain class, which stands for `resolved` there: it adds
the name, or it builds again or keeps what is cached under `resolved`. -/
def SeesTo (l : Loader) (r : Repository) (name resolved : String) : Prop :=
  (name ∉ l.repository.domain ∧ ¬ l.cache.contains name) ∨
    (l.cache.contains resolved ∧ target? l.settings r resolved = some resolved)

/-- **What a reload sees to is cached after it.** -/
theorem SeesTo.contains {l : Loader} {r : Repository} {name resolved : String}
    (h : l.SeesTo r name resolved) (hname : name ∈ r.domain)
    (htarget : target? l.settings r name = some resolved) :
    (applyChanges l.settings r (l.changes r) l.cache).contains resolved := by
  rcases h with ⟨hnew, hcached⟩ | ⟨hcached, hself⟩
  · refine contains_applyChanges_of_added (List.mem_filter.mpr ⟨hname, ?_⟩) htarget l.cache
    simp [hnew, hcached]
  · exact contains_applyChanges hself hcached

/-- **Which domain classes a loader answers for.** Whatever was asked of it before, a loader that is
initialized or rebuilt answers for every domain class whose class is known. After a reload, it
answers for those that the reload sees to. -/
theorem domain_classes_cached (s : Settings) (r : Repository) (requests : List Request) :
    (¬ ((new s r).run requests).isInitialized →
      ∃ l', ((new s r).run requests).init = .ok l' ∧
        ∀ name ∈ l'.repository.domain, (target? s l'.repository name).isSome →
          l'.AnswersFor name) ∧
    ∀ r',
      (∃ l', ((new s r).run requests).rebuild r' = .ok l' ∧
        ∀ name ∈ r'.domain, (target? s r' name).isSome → l'.AnswersFor name) ∧
      (((new s r).run requests).isInitialized →
        ∃ changes l', ((new s r).run requests).reloadChanged r' = .ok (changes, l') ∧
          ∀ name ∈ r'.domain, ∀ resolved, target? s r' name = some resolved →
            ((new s r).run requests).SeesTo r' name resolved → l'.AnswersFor name) := by
  have hl := coherent_run s r requests
  have hs : ((new s r).run requests).settings = s := settings_run ..
  generalize (new s r).run requests = l at hl hs
  subst hs
  refine ⟨fun hinit => ?_, fun r' => ⟨?_, fun hinit => ?_⟩⟩
  · obtain ⟨c', hbuild, failures, hok⟩ := init_eq_ok hinit
    refine ⟨_, hok, fun name hname hknown => ?_⟩
    obtain ⟨resolved, htarget⟩ := Option.isSome_iff_exists.mp hknown
    exact answersFor_of_contains (coherent_of_outcome (q := .init) hl hok) htarget
      (contains_assembled hbuild hname htarget)
  · obtain ⟨c', hbuild, failures, hok⟩ := rebuild_eq_ok l r'
    refine ⟨_, hok, fun name hname hknown => ?_⟩
    obtain ⟨resolved, htarget⟩ := Option.isSome_iff_exists.mp hknown
    exact answersFor_of_contains (coherent_of_outcome (q := .rebuild r') hl hok) htarget
      (contains_assembled hbuild hname htarget)
  · have hok := reloadChanged_eq_ok hinit r'
    refine ⟨_, _, hok, fun name hname resolved htarget hsees => ?_⟩
    have houtcome := outcome_reloadChanged hok
    exact answersFor_of_contains (coherent_of_outcome hl houtcome) htarget
      (by rw [hl.snapshot_eq]; exact hsees.contains hname htarget)

/-- The repository of a model with one domain class. -/
def basketModel (classes : List Class) : Repository := .ofModel ⟨classes, some ["shop.Basket"]⟩

/-- **A domain class whose class was unknown stays out.** It is on the list of domain classes before
and after the reload, so that it is not added when its class becomes known. -/
theorem unknown_domain_class_left_out :
    ((new (.ofConfiguration .empty) (basketModel [])).run [.init]).isInitialized ∧
      "shop.Basket" ∈ (basketModel [.named "shop.Basket"]).domain ∧
      target? (.ofConfiguration .empty) (basketModel [.named "shop.Basket"]) "shop.Basket" =
        some "shop.Basket" ∧
      (((new (.ofConfiguration .empty) (basketModel [])).run [.init]).changes
        (basketModel [.named "shop.Basket"])).isEmpty ∧
      (((new (.ofConfiguration .empty) (basketModel [])).run
        [.init, .reloadChanged (basketModel [.named "shop.Basket"])]).lookup
          "shop.Basket").isNone := by
  decide +kernel

end Loader
end Facetry
