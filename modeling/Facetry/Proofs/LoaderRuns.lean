/-
# Runs of a loader

Whatever is asked of a loader, and in whatever order, its cache stays up to date
with the repository that it has by then, and its index stays built. A request
that is refused changes nothing: it is refused for what the loader is, before
anything is done.

A request that is not refused has one of six effects on the cache, and each of them
keeps what loading brings about (`Effect.allBut`). What is not kept in every run is kept
if the requests fit. A rebuild starts from nothing, so only the requests since the last
one have to (`run_sinceRebuild`).

Key definitions: `Loader.Request`, `Loader.outcome`, `Loader.perform`, `Loader.Effect`,
`Loader.run`, `Loader.FitSinceRebuild`, `Loader.Coherent`.
Key theorems: `Loader.outcome_eq_error_iff`, `Loader.effect_of_outcome`, `Loader.Effect.allBut`,
`Loader.Effect.upToDate`, `Loader.run_sinceRebuild`, `Loader.coherent_run`,
`Loader.run_keeps_coherent`.
-/
import Facetry.Proofs.Currency
import Mathlib.Data.List.Induction

namespace Facetry
namespace Loader

/-! ### Requests -/

/-- What can be asked of a loader. -/
inductive Request
  | load (name : String)
  | lookup (name : String)
  | withObjectType (id : String)
  | init
  | validate
  | reloadClass (name : String)
  | reloadChanged (r : Repository)
  | rebuild (r : Repository)

/-- The loader after a request, or why the request is refused. -/
def outcome (l : Loader) : Request → Except Cache.Error Loader
  | .load name => .ok (l.load name).2
  | .lookup _ => .ok l
  | .withObjectType id => (l.withObjectType id).map fun _ => l
  | .init => l.init
  | .validate => .ok l.validate
  | .reloadClass name => (l.reloadClass name).map (·.2)
  | .reloadChanged r => (l.reloadChanged r).map (·.2)
  | .rebuild r => l.rebuild r

/-- The loader after a request; a request that is refused leaves it alone. -/
def perform (l : Loader) (q : Request) : Loader :=
  match l.outcome q with
  | .ok l' => l'
  | .error _ => l

theorem perform_of_outcome {l l' : Loader} {q : Request} (h : l.outcome q = .ok l') :
    l.perform q = l' := by
  rw [perform, h]

/-- The loader after the requests, one after another. -/
def run (l : Loader) (requests : List Request) : Loader := requests.foldl perform l

theorem run_append (l : Loader) (requests more : List Request) :
    l.run (requests ++ more) = (l.run requests).run more :=
  List.foldl_append

theorem perform_of_outcome_eq_error {l : Loader} {q : Request} {e : Cache.Error}
    (h : l.outcome q = .error e) : l.perform q = l := by
  rw [perform, h]

theorem exists_of_map_eq_ok {α β : Type} {x : Except Cache.Error α} {f : α → β} {b : β}
    (h : x.map f = .ok b) : ∃ a, x = .ok a ∧ f a = b := by
  cases x with
  | error e => cases h
  | ok a => exact ⟨a, rfl, Except.ok.inj h⟩

/-! ### Refusals -/

/-- Why the loader refuses a request, if it does: the index is built once, and what needs it needs
it built. -/
def refusal? (l : Loader) : Request → Option Cache.Error
  | .init => if l.isInitialized then some .alreadyInitialized else none
  | .withObjectType _ | .reloadClass _ | .reloadChanged _ =>
    if l.isInitialized then none else some .notInitialized
  | .load _ | .lookup _ | .validate | .rebuild _ => none

/-- An index can be built over whatever was loaded into a cache that had none. -/
theorem assemble_eq_ok {s : Settings} {r : Repository} {c : Cache} (h : ¬ c.isInitialized) :
    ∃ c', (loadAll s r r.domain c).buildIndex = .ok c' ∧
      assemble s r c = .ok (s.validate (loadAll s r r.domain c), c') := by
  have hindex : (loadAll s r r.domain c).index = none := by
    rw [← isInitialized_loadAll s r r.domain c] at h
    exact Option.not_isSome_iff_eq_none.mp h
  refine ⟨_, by rw [Cache.buildIndex, hindex], ?_⟩
  simp only [assemble, Cache.buildIndex, hindex]
  rfl

/-- What initializing makes of a loader: the domain classes are loaded beside what it has. -/
theorem init_eq_validated {l : Loader} (h : ¬ l.isInitialized) :
    ∃ c', (loadAll l.settings l.repository l.repository.domain l.cache).buildIndex = .ok c' ∧
      l.init = .ok { l with
        cache := c'
        failures := l.settings.validate
          (loadAll l.settings l.repository l.repository.domain l.cache) } := by
  obtain ⟨c', hbuild, hassemble⟩ := assemble_eq_ok (s := l.settings) (r := l.repository) h
  refine ⟨c', hbuild, ?_⟩
  rw [init, if_neg h, hassemble]
  rfl

theorem init_eq_ok {l : Loader} (h : ¬ l.isInitialized) :
    ∃ c', (loadAll l.settings l.repository l.repository.domain l.cache).buildIndex = .ok c' ∧
      ∃ failures, l.init = .ok { l with cache := c', failures := failures } := by
  obtain ⟨c', hbuild, hinit⟩ := init_eq_validated h
  exact ⟨c', hbuild, _, hinit⟩

/-- What a rebuild makes of a loader: the domain classes are loaded into an empty cache. -/
theorem rebuild_eq_validated (l : Loader) (r : Repository) :
    ∃ c', (loadAll l.settings r r.domain .empty).buildIndex = .ok c' ∧
      l.rebuild r = .ok { l with
        repository := r
        cache := c'
        failures := l.settings.validate (loadAll l.settings r r.domain .empty) } := by
  obtain ⟨c', hbuild, hassemble⟩ :=
    assemble_eq_ok (s := l.settings) (r := r) (c := .empty) Bool.false_ne_true
  refine ⟨c', hbuild, ?_⟩
  rw [rebuild, hassemble]
  rfl

theorem rebuild_eq_ok (l : Loader) (r : Repository) :
    ∃ c', (loadAll l.settings r r.domain .empty).buildIndex = .ok c' ∧
      ∃ failures, l.rebuild r =
        .ok { l with repository := r, cache := c', failures := failures } := by
  obtain ⟨c', hbuild, hrebuild⟩ := rebuild_eq_validated l r
  exact ⟨c', hbuild, _, hrebuild⟩

theorem reloadChanged_eq_ok {l : Loader} (h : l.isInitialized) (r : Repository) :
    l.reloadChanged r = .ok (l.changes r, { l with
      repository := r
      cache := applyChanges l.settings r (l.changes r) l.cache.snapshot }) := by
  rw [reloadChanged, if_pos h]

theorem outcome_reloadChanged {l l' : Loader} {r : Repository} {changes : Changes}
    (h : l.reloadChanged r = .ok (changes, l')) : l.outcome (.reloadChanged r) = .ok l' := by
  rw [outcome, h]
  rfl

theorem outcome_reloadClass {l : Loader} (h : l.isInitialized) (name : String) :
    l.outcome (.reloadClass name) = .ok { l with
      cache := (reloadInto l.settings l.repository name l.cache.snapshot).2 } := by
  rw [outcome, reloadClass, if_pos h]
  rfl

/-- **A request is refused exactly for what the loader is**, initialized or not. -/
theorem outcome_eq_error_iff (l : Loader) (q : Request) (e : Cache.Error) :
    l.outcome q = .error e ↔ l.refusal? q = some e := by
  cases q with
  | load name => simp [outcome, refusal?]
  | lookup name => simp [outcome, refusal?]
  | validate => simp [outcome, refusal?]
  | withObjectType id =>
    cases hindex : l.cache.index <;>
      simp [outcome, refusal?, withObjectType, Cache.withObjectType, isInitialized,
        Cache.isInitialized, hindex, Except.map]
  | init =>
    by_cases h : l.isInitialized
    · simp [outcome, refusal?, init, h]
    · obtain ⟨c', -, failures, hinit⟩ := init_eq_ok h
      simp [outcome, refusal?, hinit, h]
  | reloadClass name =>
    by_cases h : l.isInitialized <;> simp [outcome, refusal?, reloadClass, h, Except.map]
  | reloadChanged r =>
    by_cases h : l.isInitialized <;> simp [outcome, refusal?, reloadChanged, h, Except.map]
  | rebuild r =>
    obtain ⟨c', -, failures, hrebuild⟩ := rebuild_eq_ok l r
    simp [outcome, refusal?, hrebuild]

/-! ### Effects -/

/-- What a request that is not refused makes of the repository and the cache of a loader. -/
inductive Effect (l : Loader) : Repository → Cache → Prop
  | unchanged : Effect l l.repository l.cache
  | loaded (name : String) :
      Effect l l.repository (loadInto l.settings l.repository name l.cache).2
  | indexed {c : Cache} : ¬ l.isInitialized →
      (loadAll l.settings l.repository l.repository.domain l.cache).buildIndex = .ok c →
      Effect l l.repository c
  | reloaded (name : String) :
      Effect l l.repository (reloadInto l.settings l.repository name l.cache.snapshot).2
  | exchanged (r : Repository) :
      Effect l r (applyChanges l.settings r (l.changes r) l.cache.snapshot)
  | rebuilt {r : Repository} {c : Cache} :
      (loadAll l.settings r r.domain .empty).buildIndex = .ok c → Effect l r c

theorem effect_of_outcome {l l' : Loader} {q : Request} (h : l.outcome q = .ok l') :
    Effect l l'.repository l'.cache := by
  cases q with
  | load name =>
    cases h
    exact .loaded name
  | lookup name =>
    cases h
    exact .unchanged
  | withObjectType id =>
    obtain ⟨_, -, rfl⟩ := exists_of_map_eq_ok h
    exact .unchanged
  | init =>
    have hinit : ¬ l.isInitialized := fun hinit => by
      rw [outcome, init, if_pos hinit] at h
      cases h
    obtain ⟨c', hbuild, failures, hok⟩ := init_eq_ok hinit
    cases hok.symm.trans h
    exact .indexed hinit hbuild
  | validate =>
    cases h
    exact .unchanged
  | reloadClass name =>
    obtain ⟨⟨spec, l''⟩, hreload, rfl⟩ := exists_of_map_eq_ok h
    unfold reloadClass at hreload
    split at hreload <;> cases hreload
    exact .reloaded name
  | reloadChanged r =>
    obtain ⟨⟨changes, l''⟩, hreload, rfl⟩ := exists_of_map_eq_ok h
    unfold reloadChanged at hreload
    split at hreload <;> cases hreload
    exact .exchanged r
  | rebuild r =>
    obtain ⟨c', hbuild, failures, hok⟩ := rebuild_eq_ok l r
    cases hok.symm.trans h
    exact .rebuilt hbuild

/-- **What loading brings about, every effect keeps**, if an exchange of the repository keeps it of
the specifications that it keeps. -/
theorem Effect.allBut {l : Loader} {r : Repository} {c : Cache} (h : Effect l r c)
    {Q : Repository → String → Specification → Prop}
    (hmade : ∀ {r : Repository} {name : String} {spec : Specification},
      Made l.settings r name spec → Q r name spec)
    (hkept : ∀ {name : String} {spec : Specification}, l.cache.get? name = some spec →
      Q l.repository name spec → fate l.settings r spec = .kept → Q r name spec)
    (hl : AllBut (Q l.repository) [] l.cache) : AllBut (Q r) [] c := by
  cases h with
  | unchanged => exact hl
  | loaded name => exact hl.loadInto hmade name
  | indexed _ hbuild => exact (hl.loadAll hmade _).buildIndex hbuild
  | reloaded name =>
    have hstale : AllBut (Q l.repository) [name] l.cache.snapshot :=
      hl.snapshot.mono fun _ hn => by cases hn
    exact (AllBut.stepwise hmade).reloadInto hstale
  | exchanged r => exact (AllBut.stepwise hmade).applyChanges (hl.fates hkept).snapshot
  | rebuilt hbuild => exact ((AllBut.empty (Q r) []).loadAll hmade _).buildIndex hbuild

/-- **A cache that is up to date stays so**, with the repository that is there afterwards. -/
theorem Effect.upToDate {l : Loader} {r : Repository} {c : Cache} (h : Effect l r c)
    (hl : UpToDate l.repository [] l.cache) : UpToDate r [] c := by
  refine upToDate_iff.mpr (h.allBut (Q := Current) Made.current (fun hspec hcurrent hfate => ?_)
    (upToDate_iff.mp hl))
  obtain ⟨-, hclass⟩ := fate_eq_kept_iff.mp hfate
  rw [hl.coherent.keyed hspec] at hclass
  exact ⟨hcurrent.1, hclass⟩

/-- An index that is built stays, also with another repository. -/
theorem Effect.isInitialized {l : Loader} {r : Repository} {c : Cache} (h : Effect l r c)
    (hl : l.isInitialized) : c.isInitialized := by
  have hsnapshot : l.cache.snapshot.isInitialized :=
    (Cache.isInitialized_snapshot l.cache).trans hl
  cases h with
  | unchanged => exact hl
  | loaded name => exact (isInitialized_loadInto ..).trans hl
  | indexed hinit _ => exact absurd hl hinit
  | reloaded name => exact (isInitialized_reloadInto ..).trans hsnapshot
  | exchanged r => exact (isInitialized_applyChanges ..).trans hsnapshot
  | rebuilt hbuild => exact Cache.isInitialized_buildIndex hbuild

/-! ### Runs -/

/-- A new loader that is initialized has the domain classes and their index. -/
theorem perform_init_new (s : Settings) (r : Repository) :
    ∃ c failures, (loadAll s r r.domain .empty).buildIndex = .ok c ∧
      (new s r).perform .init = ⟨s, r, c, failures⟩ := by
  obtain ⟨c, hbuild, failures, hok⟩ := init_eq_ok (l := new s r) Bool.false_ne_true
  exact ⟨c, failures, hbuild, perform_of_outcome (q := .init) hok⟩

theorem isInitialized_run_init (s : Settings) (r : Repository) :
    ((new s r).run [.init]).isInitialized := by
  obtain ⟨c, failures, hbuild, hinit⟩ := perform_init_new s r
  show ((new s r).perform .init).isInitialized
  rw [hinit]
  exact Cache.isInitialized_buildIndex hbuild

/-- What every request keeps that is not refused, a run keeps. -/
theorem run_invariant {P : Loader → Prop}
    (hstep : ∀ {l l' : Loader}, P l → Effect l l'.repository l'.cache → P l')
    {l : Loader} (h : P l) (requests : List Request) : P (l.run requests) := by
  induction requests generalizing l with
  | nil => exact h
  | cons q requests ih =>
    refine ih ?_
    unfold perform
    split
    · rename_i l' hq
      exact hstep h (effect_of_outcome hq)
    · exact h

/-- The repository that a request brings. -/
def Request.repository? : Request → Option Repository
  | .reloadChanged r | .rebuild r => some r
  | _ => none

/-- A request changes the repository only if it brings one, and never the settings. -/
theorem fields_of_outcome {l l' : Loader} {q : Request} (h : l.outcome q = .ok l') :
    l'.settings = l.settings ∧ l'.repository = q.repository?.getD l.repository := by
  cases q with
  | load name =>
    cases h
    exact ⟨rfl, rfl⟩
  | lookup name =>
    cases h
    exact ⟨rfl, rfl⟩
  | validate =>
    cases h
    exact ⟨rfl, rfl⟩
  | withObjectType id =>
    obtain ⟨_, -, rfl⟩ := exists_of_map_eq_ok h
    exact ⟨rfl, rfl⟩
  | init =>
    by_cases hinit : l.isInitialized
    · rw [outcome, init, if_pos hinit] at h
      cases h
    · obtain ⟨c', -, failures, hok⟩ := init_eq_ok hinit
      cases hok.symm.trans h
      exact ⟨rfl, rfl⟩
  | reloadClass name =>
    obtain ⟨⟨spec, l''⟩, hreload, rfl⟩ := exists_of_map_eq_ok h
    unfold reloadClass at hreload
    split at hreload <;> cases hreload
    exact ⟨rfl, rfl⟩
  | reloadChanged r =>
    obtain ⟨⟨changes, l''⟩, hreload, rfl⟩ := exists_of_map_eq_ok h
    unfold reloadChanged at hreload
    split at hreload <;> cases hreload
    exact ⟨rfl, rfl⟩
  | rebuild r =>
    obtain ⟨c', -, failures, hok⟩ := rebuild_eq_ok l r
    cases hok.symm.trans h
    exact ⟨rfl, rfl⟩

theorem settings_run (l : Loader) (requests : List Request) :
    (l.run requests).settings = l.settings := by
  induction requests generalizing l with
  | nil => rfl
  | cons q requests ih =>
    have hfirst : (l.perform q).settings = l.settings := by
      unfold perform
      split
      · exact (fields_of_outcome ‹_›).1
      · rfl
    exact (ih (l.perform q)).trans hfirst

theorem repository_perform {l : Loader} {q : Request} (h : q.repository? = none) :
    (l.perform q).repository = l.repository := by
  unfold perform
  split
  · rename_i l' hok
    rw [(fields_of_outcome hok).2, h, Option.getD_none]
  · rfl

/-- Requests that bring no repository leave the one that is there. -/
theorem repository_run {l : Loader} {requests : List Request}
    (h : ∀ q ∈ requests, q.repository? = none) : (l.run requests).repository = l.repository := by
  induction requests generalizing l with
  | nil => rfl
  | cons q requests ih =>
    obtain ⟨hq, hrest⟩ := List.forall_mem_cons.mp h
    exact (ih hrest).trans (repository_perform hq)

/-- Each request since the last rebuild finds the loader as `Fit` demands. -/
def FitSinceRebuild (Fit : Loader → Request → Prop) (l : Loader) (requests : List Request) : Prop :=
  ∀ first q rest, requests = first ++ q :: rest → (∀ r, Request.rebuild r ∉ q :: rest) →
    Fit (l.run first) q

theorem FitSinceRebuild.nil {Fit : Loader → Request → Prop} {l : Loader} :
    FitSinceRebuild Fit l [] := fun first q rest heq => by simp at heq

theorem FitSinceRebuild.cons {Fit : Loader → Request → Prop} {l : Loader} {q : Request}
    {requests : List Request} (hq : Fit l q)
    (h : FitSinceRebuild Fit (l.perform q) requests) : FitSinceRebuild Fit l (q :: requests) := by
  rintro first q' rest heq hno
  cases first with
  | nil =>
    cases heq
    exact hq
  | cons q'' first =>
    cases heq
    exact h first q' rest rfl hno

/-- What every rebuild brings about, and the fitting requests keep, holds after a run whose
requests since the last rebuild are fitting. -/
theorem run_sinceRebuild {P : Loader → Prop} {Fit : Loader → Request → Prop}
    (hrebuild : ∀ (l : Loader) r, P (l.perform (.rebuild r)))
    (hstep : ∀ {l : Loader} {q : Request}, P l → (∀ r, q ≠ .rebuild r) → Fit l q →
      P (l.perform q))
    {l : Loader} (h : P l) {requests : List Request} (hfit : FitSinceRebuild Fit l requests) :
    P (l.run requests) := by
  induction requests using List.reverseRecOn with
  | nil => exact h
  | append_singleton first q ih =>
    rw [run_append]
    show P ((l.run first).perform q)
    by_cases hq : ∃ r, q = .rebuild r
    · obtain ⟨r, rfl⟩ := hq
      exact hrebuild _ r
    · have hne : ∀ r, q ≠ .rebuild r := fun r heq => hq ⟨r, heq⟩
      have hlast : ∀ r, Request.rebuild r ∉ [q] := fun r hr =>
        hne r (List.mem_singleton.mp hr).symm
      refine hstep (ih fun f q' rest heq hno => ?_) hne (hfit first q [] rfl hlast)
      refine hfit f q' (rest ++ [q]) (by simp [heq]) fun r hr => ?_
      rw [← List.cons_append] at hr
      exact (List.mem_append.mp hr).elim (hno r) (hlast r)

/-- The cache is coherent, and all that it has is complete and made from the classes of the
repository as they are. -/
def Coherent (l : Loader) : Prop := UpToDate l.repository [] l.cache

theorem Coherent.snapshot_eq {l : Loader} (hl : l.Coherent) : l.cache.snapshot = l.cache :=
  hl.coherent.snapshot_eq fun _ _ hspec => (hl.all hspec).1

/-- A new loader stays coherent in every run. -/
theorem coherent_run (s : Settings) (r : Repository) (requests : List Request) :
    ((new s r).run requests).Coherent := by
  have hnew : (new s r).Coherent := upToDate_iff.mpr (.empty _ [])
  exact run_invariant (P := Coherent) (fun h he => he.upToDate h) hnew requests

theorem isInitialized_run {l : Loader} (h : l.isInitialized) (requests : List Request) :
    (l.run requests).isInitialized :=
  run_invariant (P := fun l => l.isInitialized) (fun h he => he.isInitialized h) h requests

/-- **A loader is coherent after every run.** All that is cached is complete, kept under the name of
its class, and made from the class that the repository has by then, as far as fingerprints tell.
The index leads only to cached specifications that carry the object type. Initialized, a loader
stays so, and to initialize it again is refused; to reload is refused until then. What is refused
changes nothing. -/
theorem run_keeps_coherent (s : Settings) (r : Repository) (requests : List Request) :
    (∀ name spec, ((new s r).run requests).cache.get? name = some spec →
      spec.state = .complete ∧ spec.className = name ∧
        ∃ d, ((new s r).run requests).repository.get? name = some d ∧
          d.fingerprint = spec.fingerprint) ∧
    (∀ id name, ((new s r).run requests).cache.classOf? id = some name →
      ∃ spec, ((new s r).run requests).cache.get? name = some spec ∧
        spec.objectType? = some id) ∧
    (((new s r).run requests).isInitialized →
      (∀ more, ((new s r).run (requests ++ more)).isInitialized) ∧
      ((new s r).run requests).init = .error .alreadyInitialized ∧
      (new s r).run (requests ++ [.init]) = (new s r).run requests) ∧
    (¬ ((new s r).run requests).isInitialized →
      (∀ name, ((new s r).run requests).reloadClass name = .error .notInitialized ∧
        (new s r).run (requests ++ [.reloadClass name]) = (new s r).run requests) ∧
      ∀ r', ((new s r).run requests).reloadChanged r' = .error .notInitialized ∧
        (new s r).run (requests ++ [.reloadChanged r']) = (new s r).run requests) := by
  have hc := coherent_run s r requests
  have hrefused : ∀ q e, ((new s r).run requests).outcome q = .error e →
      (new s r).run (requests ++ [q]) = (new s r).run requests := by
    intro q e hq
    rw [run_append]
    exact perform_of_outcome_eq_error hq
  refine ⟨fun name spec hspec => ?_, fun id name => hc.coherent.indexed, fun hinit => ?_,
    fun hinit => ⟨fun name => ?_, fun r' => ?_⟩⟩
  · obtain ⟨hcomplete, hcurrent⟩ := (hc.current hspec).resolve_left List.not_mem_nil
    exact ⟨hcomplete, hc.coherent.keyed hspec, hcurrent⟩
  · have hinitError : ((new s r).run requests).init = .error .alreadyInitialized := by
      rw [init, if_pos hinit]
    refine ⟨fun more => ?_, hinitError, hrefused .init _ hinitError⟩
    rw [run_append]
    exact isInitialized_run hinit more
  · refine ⟨by rw [reloadClass, if_neg hinit], hrefused (.reloadClass name) .notInitialized ?_⟩
    rw [outcome_eq_error_iff, refusal?, if_neg hinit]
  · refine ⟨by rw [reloadChanged, if_neg hinit], hrefused (.reloadChanged r') .notInitialized ?_⟩
    rw [outcome_eq_error_iff, refusal?, if_neg hinit]

end Loader
end Facetry
