/-
# The report of shared object types and the index

Two parts of the program sort classes by their object types. The validator lists the classes
of each object type and reports the lists that have more than one, in the name of the first
class. The index keeps one class for each object type, the first in the order of the names.
Both see the same specifications when a loader is initialized or rebuilt, so they tell the same:
the index leads to the class in whose name the object type is reported.

Nothing else reports a shared object type. What the analysis of a class finds are problems of its
elements, and the other validators report problems of their own.

Key definitions: `Validator.carriers`, `Validator.sharedBy`, `Failure.isSharing`.
Key theorems: `Validator.filter_repeated`, `Validator.filter_sharedObjectTypesOf`,
`Introspection.problems_ofClass`, `Validator.filter_report`,
`Loader.shared_object_types_as_indexed`.
-/
import Facetry.Proofs.ObjectTypes

namespace Facetry

/-! ### Groups of pairs -/

/-- The names that a list of pairs binds are those of its pairs. -/
theorem NameMap.mem_keys_ofList {α : Type} {pairs : List (String × α)} {name : String} :
    name ∈ (ofList pairs).keys ↔ ∃ pair ∈ pairs, pair.1 = name := by
  have hfoldl : ∀ m : NameMap α, (pairs.foldl (fun m e => m.insert e.1 e.2) m).contains name ↔
      m.contains name ∨ ∃ pair ∈ pairs, pair.1 = name := by
    induction pairs with
    | nil => simp
    | cons pair pairs ih =>
      intro m
      rw [List.foldl_cons, ih, contains, get?_insert, List.exists_mem_cons_iff, ← or_assoc]
      by_cases h : name = pair.1
      · simp [h]
      · simp [h, Ne.symm h, contains]
  rw [mem_keys_iff, ofList, hfoldl]
  simp [contains]

theorem NameMap.nodup_keys {α : Type} (m : NameMap α) : m.keys.Nodup :=
  (List.pairwise_map.mpr m.ascending).imp Std.ne_of_lt

namespace Validator

/-- What a name is paired with. -/
def pairedWith (pairs : List (String × String)) (name : String) : List String :=
  (pairs.filter (·.1 == name)).map (·.2)

/-- **The group of a name is all that it is paired with**, if that is more than one. -/
theorem filter_repeated (pairs : List (String × String)) (name : String) :
    (repeated pairs).filter (·.1 == name) =
      if 1 < (pairedWith pairs name).length then [(name, pairedWith pairs name)] else [] := by
  have hkeys : (NameMap.ofList pairs).keys.filter (· == name) =
      if 0 < (pairedWith pairs name).length then [name] else [] := by
    have hmem : name ∈ (NameMap.ofList pairs).keys ↔ 0 < (pairedWith pairs name).length := by
      rw [NameMap.mem_keys_ofList, pairedWith, List.length_map, List.length_pos_iff_exists_mem]
      simp
    rw [List.filter_beq, (NameMap.nodup_keys _).count]
    by_cases h : name ∈ (NameMap.ofList pairs).keys
    · rw [if_pos h, if_pos (hmem.mp h)]
      rfl
    · rw [if_neg h, if_neg (hmem.not.mp h)]
      rfl
  rw [repeated, List.filter_comm, List.filter_map]
  show (((NameMap.ofList pairs).keys.filter (· == name)).map fun name =>
    (name, pairedWith pairs name)).filter _ = _
  rw [hkeys]
  by_cases h : 1 < (pairedWith pairs name).length
  · rw [if_pos h, if_pos (Nat.zero_lt_of_lt h), List.map_singleton]
    exact List.filter_cons_of_pos (by simpa using h)
  · rw [if_neg h, List.filter_eq_nil_iff]
    intro group hgroup
    split at hgroup
    · obtain rfl := List.mem_singleton.mp hgroup
      simpa using h
    · cases hgroup

/-! ### Shared object types in a report -/

/-- The classes that carry an object type, in the order of their specifications. -/
def carriers (specifications : List Specification) (id : String) : List String :=
  (specifications.filter (·.objectType? == some id)).map (·.className)

/-- The failure of an object type that these classes carry, if they are more than one: of the first
of them, with all of them. -/
def sharedBy (id : String) : List String → List Failure
  | first :: second :: others =>
    [⟨.ofClass first, .sharedObjectType id (first :: second :: others)⟩]
  | _ => []

end Validator

/-- Whether the failure says that the object type is shared. -/
def Failure.isSharing (id : String) (f : Failure) : Bool :=
  match f.problem with
  | .sharedObjectType shared _ => shared == id
  | _ => false

theorem Failure.isSharing_eq_false {f : Failure} (h : f.problem.isOfElement) (id : String) :
    f.isSharing id = false := by
  obtain ⟨element, problem⟩ := f
  cases problem <;> first | rfl | cases h

namespace Validator

theorem pairedWith_objectTypes (specifications : List Specification) (id : String) :
    pairedWith (specifications.filterMap fun s => s.objectType?.map (·, s.className)) id =
      carriers specifications id := by
  induction specifications with
  | nil => rfl
  | cons s specifications ih =>
    unfold pairedWith carriers at ih ⊢
    cases hs : s.objectType? with
    | none =>
      rw [List.filterMap_cons_none (by rw [hs]; rfl), List.filter_cons_of_neg (by simp [hs]), ih]
    | some other =>
      rw [List.filterMap_cons_some (b := (other, s.className)) (by rw [hs]; rfl)]
      by_cases hid : other = id
      · rw [List.filter_cons_of_pos (by simpa using hid),
          List.filter_cons_of_pos (by simpa [hs] using hid), List.map_cons, List.map_cons, ih]
      · rw [List.filter_cons_of_neg (by simpa using hid),
          List.filter_cons_of_neg (by simpa [hs] using hid), ih]

/-- **An object type is reported with the classes that carry it**, in increasing order, if they are
more than one. -/
theorem filter_sharedObjectTypesOf (specifications : List Specification) (id : String) :
    (sharedObjectTypesOf specifications).filter (·.isSharing id) =
      sharedBy id ((carriers specifications id).mergeSort (· ≤ ·)) := by
  have hgroups := filter_repeated
    (specifications.filterMap fun s => s.objectType?.map (·, s.className)) id
  rw [pairedWith_objectTypes] at hgroups
  have hfilter : (sharedObjectTypesOf specifications).filter (·.isSharing id) =
      ((repeated (specifications.filterMap fun s => s.objectType?.map (·, s.className))).filter
        (·.1 == id)).filterMap fun group =>
          (group.2.mergeSort (· ≤ ·)).head?.map fun first =>
            ⟨.ofClass first, .sharedObjectType group.1 (group.2.mergeSort (· ≤ ·))⟩ := by
    rw [sharedObjectTypesOf, List.filter_filterMap, List.filterMap_filter]
    refine List.filterMap_congr fun group _ => ?_
    cases hhead : (group.2.mergeSort (· ≤ ·)).head? with
    | none => simp [hhead]
    | some first => by_cases h : group.1 = id <;> simp [hhead, Failure.isSharing, h]
  have hlength : ((carriers specifications id).mergeSort (· ≤ ·)).length =
      (carriers specifications id).length := List.length_mergeSort _
  rw [hfilter, hgroups, ← hlength]
  have hone : ∀ classes : List String, classes = (carriers specifications id).mergeSort (· ≤ ·) →
      (if 1 < classes.length then [(id, carriers specifications id)] else []).filterMap
        (fun group => (group.2.mergeSort (· ≤ ·)).head?.map fun first =>
          (⟨.ofClass first, .sharedObjectType group.1 (group.2.mergeSort (· ≤ ·))⟩ : Failure)) =
        sharedBy id classes := by
    intro classes hclasses
    rcases classes with _ | ⟨first, _ | ⟨second, others⟩⟩
    · rfl
    · rfl
    · have hmany : 1 < (first :: second :: others).length := by simp
      rw [if_pos hmany, List.filterMap_cons_some (by rw [← hclasses]; rfl)]
      rfl
  exact hone _ rfl

/-- The other validators report no shared object types. -/
theorem filter_failures {config : Configuration} {specifications : List Specification}
    (helements : ∀ s ∈ specifications, ∀ f ∈ s.failures, f.problem.isOfElement)
    (hchecked : config.reportsSharedObjectTypes) (id : String) (v : Validator) :
    (failures config specifications v).filter (·.isSharing id) =
      if v = sharedObjectTypes then (sharedObjectTypesOf specifications).filter (·.isSharing id)
      else [] := by
  cases v with
  | sharedObjectTypes =>
    rw [if_pos rfl]
    exact congrArg (List.filter _) (if_pos hchecked)
  | deferredFailures =>
    rw [if_neg nofun, List.filter_eq_nil_iff]
    intro f hf
    obtain ⟨s, hs, hf⟩ := List.mem_flatMap.mp hf
    simp [Failure.isSharing_eq_false (helements s hs f hf) id]
  | duplicateMembers =>
    rw [if_neg nofun, List.filter_eq_nil_iff]
    intro f hf
    have hf : f ∈ specifications.flatMap duplicatesOf := hf
    obtain ⟨s, -, hf⟩ := List.mem_flatMap.mp hf
    obtain ⟨group, -, rfl⟩ := List.mem_map.mp hf
    exact Bool.false_ne_true
  | orphanedMethods =>
    rw [if_neg nofun, List.filter_eq_nil_iff]
    intro f hf
    have hf : f ∈ if config.reportsOrphanedMethods then specifications.flatMap orphansOf else [] :=
      hf
    split at hf
    · obtain ⟨s, -, hf⟩ := List.mem_flatMap.mp hf
      obtain ⟨method, -, rfl⟩ := List.mem_map.mp hf
      exact Bool.false_ne_true
    · cases hf

/-- **What a report says of an object type**, if the validator for shared ones runs once. -/
theorem filter_report {validators : List Validator} {config : Configuration}
    {specifications : List Specification} (honce : validators.count sharedObjectTypes = 1)
    (helements : ∀ s ∈ specifications, ∀ f ∈ s.failures, f.problem.isOfElement)
    (hchecked : config.reportsSharedObjectTypes) (id : String) :
    (report validators config specifications).filter (·.isSharing id) =
      sharedBy id ((carriers specifications id).mergeSort (· ≤ ·)) := by
  rw [← filter_sharedObjectTypesOf, report, List.filter_flatMap]
  simp only [filter_failures helements hchecked id]
  generalize (sharedObjectTypesOf specifications).filter (·.isSharing id) = found
  have hcount : ∀ vs : List Validator,
      (vs.flatMap fun v => if v = sharedObjectTypes then found else []) =
        (List.replicate (vs.count sharedObjectTypes) found).flatten := by
    intro vs
    induction vs with
    | nil => rfl
    | cons v vs ih =>
      rw [List.flatMap_cons, ih, List.count_cons]
      by_cases h : v = sharedObjectTypes
      · simp [h, List.replicate_succ]
      · simp [h]
  rw [hcount, honce]
  simp

end Validator

/-! ### Problems of elements -/

namespace Introspection

variable {model : ProgrammingModel} {env : Environment} {c : Class} {classFacets : FacetHolder}

/-- The failures of the later analysis are those of the earlier one and problems of elements. -/
def FindsProblems (a b : Analysis) : Prop :=
  ∀ f ∈ b.failures, f ∈ a.failures ∨ f.problem.isOfElement

theorem FindsProblems.trans {a b c : Analysis} (h : FindsProblems a b) (h' : FindsProblems b c) :
    FindsProblems a c := fun f hf => (h' f hf).elim (h f) .inr

theorem findsProblems_parametersFrom (m : MemberContext) (index : Nat) (ps : List Parameter)
    (a : Analysis) : FindsProblems a (parametersFrom model env m index ps a).2 := by
  induction ps generalizing index a with
  | nil => exact fun _ => .inl
  | cons p ps ih =>
    have hfirst := (model.progress_analyseParameter env
      (a.turnTo (.ofParameter m.owner.name m.id index)) ⟨m.owner, m.method, m.id, index, p⟩).problems
    exact FindsProblems.trans hfirst (ih (index + 1) _)

theorem findsProblems_member (m : MemberContext) (a : Analysis) :
    FindsProblems a (member model env m a).2 := by
  have hmember := (model.progress_analyseMember env (a.turnTo (.ofMember m.owner.name m.id)) m).problems
  exact FindsProblems.trans hmember (findsProblems_parametersFrom m 0 _ _)

theorem findsProblems_associationsOf (entries : List (Nat × Method)) (a : Analysis) :
    FindsProblems a (associationsOf model env c classFacets entries a).2 := by
  induction entries generalizing a with
  | nil => exact fun _ => .inl
  | cons e entries ih =>
    obtain ⟨index, accessor⟩ := e
    cases hid : Naming.propertyOf? accessor.name with
    | none =>
      rw [associationsOf, hid]
      exact ih a
    | some id =>
      rw [associationsOf, hid]
      exact (findsProblems_member _ a).trans (ih _)

theorem findsProblems_actionsOf (entries : List (Nat × Method)) (a : Analysis) :
    FindsProblems a (actionsOf model env c classFacets entries a).2 := by
  induction entries generalizing a with
  | nil => exact fun _ => .inl
  | cons e entries ih =>
    obtain ⟨index, method⟩ := e
    by_cases h : a.pool.contains index
    · rw [actionsOf, if_pos h]
      exact (findsProblems_member _ { a with pool := a.pool.claim index }).trans (ih _)
    · rw [actionsOf, if_neg h]
      exact ih a

/-- **Introspection finds problems of elements only.** -/
theorem problems_ofClass (model : ProgrammingModel) (env : Environment) (c : Class) :
    ∀ f ∈ (ofClass model env c).last.failures, f.problem.isOfElement := by
  let start : Analysis :=
    ⟨.empty (.ofClass c.name), (MethodPool.ofClass c).discard isExcluded, []⟩
  have hclass : FindsProblems start (analyseClass model env c) :=
    (model.progress_analyseClass env start c).problems
  have hpool : FindsProblems start { analyseClass model env c with
      pool := (analyseClass model env c).pool.discard isAccessor } := hclass
  have hassociations : FindsProblems start
      (associationsOf model env c (analyseClass model env c).facets _ _).2 :=
    hpool.trans (findsProblems_associationsOf
      ((analyseClass model env c).pool.unclaimed.filter fun e => isAccessor e.2) _)
  have hall : FindsProblems start (ofClass model env c).last :=
    hassociations.trans (findsProblems_actionsOf _ _)
  exact fun f hf => (hall f hf).resolve_left List.not_mem_nil

end Introspection

/-! ### Loaders -/

namespace Loader

variable {s : Settings} {r : Repository}

theorem Made.isOfElement {name : String} {spec : Specification} (h : Made s r name spec) :
    ∀ f ∈ spec.failures, f.problem.isOfElement := by
  obtain ⟨-, d, -, rfl⟩ := h
  exact Introspection.problems_ofClass s.model (.ofRepository s.config s.services r) d

/-- Whatever is cached has problems of elements only, after every run. -/
theorem isOfElement_run (s : Settings) (r : Repository) (requests : List Request) :
    AllBut (fun _ spec => ∀ f ∈ spec.failures, f.problem.isOfElement) []
      ((new s r).run requests).cache :=
  run_invariant (P := fun l => AllBut _ [] l.cache)
    (fun h heffect => heffect.allBut
      (Q := fun _ _ spec => ∀ f ∈ spec.failures, f.problem.isOfElement) Made.isOfElement
      (fun hspec _ _ => h.all hspec) h)
    (AllBut.empty _ []) requests

/-- The loader is validated as it is, and its index is new. -/
structure Fresh (l : Loader) : Prop where
  validated : l.failures = l.settings.validate l.cache
  isInitialized : l.isInitialized
  leadsToFirst : ∀ id, l.cache.LeadsToFirst id

/-- Building the index changes nothing that validators see. -/
theorem validate_buildIndex (s : Settings) {c c' : Cache} (h : c.buildIndex = .ok c') :
    s.validate c' = s.validate c := by
  have hclass : c'.byClass = c.byClass := NameMap.ext_get? (Cache.get?_buildIndex h)
  rw [Settings.validate, Settings.validate, Cache.all, Cache.all, hclass]

/-- **A loader is fresh after it is initialized**, which only an initialized one refuses, and after
every rebuild. -/
theorem fresh_of_request {l : Loader} {q : Request}
    (hq : (q = .init ∧ ¬ l.isInitialized) ∨ ∃ r', q = .rebuild r') :
    ∃ l', l.outcome q = .ok l' ∧ l'.Fresh := by
  obtain ⟨hinit, rfl⟩ | ⟨r', rfl⟩ : (¬ l.isInitialized ∧ q = .init) ∨ ∃ r', q = .rebuild r' :=
    hq.imp_left And.symm
  · obtain ⟨c', hbuild, hok⟩ := init_eq_validated hinit
    exact ⟨_, hok, (validate_buildIndex _ hbuild).symm, Cache.isInitialized_buildIndex hbuild,
      .buildIndex hbuild⟩
  · obtain ⟨c', hbuild, hok⟩ := rebuild_eq_validated l r'
    exact ⟨_, hok, (validate_buildIndex _ hbuild).symm, Cache.isInitialized_buildIndex hbuild,
      .buildIndex hbuild⟩

/-- The classes that carry an object type in a coherent cache, in increasing order. -/
theorem mem_carriers_iff {c : Cache} (hc : c.Coherent) {id name : String} :
    name ∈ Validator.carriers c.all id ↔ c.Carries id name := by
  rw [Validator.carriers, List.mem_map]
  simp only [List.mem_filter, beq_iff_eq, Cache.mem_all_iff]
  constructor
  · rintro ⟨spec, ⟨⟨key, hspec⟩, hid⟩, rfl⟩
    exact ⟨spec, (hc.keyed hspec).symm ▸ hspec, hid⟩
  · rintro ⟨spec, hspec, hid⟩
    exact ⟨spec, ⟨⟨name, hspec⟩, hid⟩, hc.keyed hspec⟩

theorem ascending_carriers {c : Cache} (hc : c.Coherent) (id : String) :
    (Validator.carriers c.all id).Pairwise (· < ·) :=
  (ascending_all hc).sublist (List.filter_sublist.map _)

/-- The first class by name that carries an object type is the first of all that do. -/
theorem firstWith_eq_head? {c : Cache} (hc : c.Coherent) (id : String) :
    Cache.firstWith c.byClass.entries id = (Validator.carriers c.all id).head? := by
  unfold Cache.firstWith Validator.carriers Cache.all NameMap.values
  rw [List.head?_map, List.head?_filter, List.find?_map, Option.map_map]
  refine Option.map_congr fun e he => ?_
  have hmem : (e.1, e.2) ∈ c.byClass.entries := List.mem_of_find?_eq_some he
  exact (hc.keyed ((c.byClass.mem_entries_iff e.1 e.2).mp hmem)).symm

/-- What a fresh loader answers, as the carriers of the object type are listed. -/
theorem Fresh.withObjectType_eq {l : Loader} (h : l.Fresh) (hc : l.cache.Coherent) (id : String) :
    l.withObjectType id =
      .ok ((Validator.carriers l.cache.all id).head?.bind l.cache.get?) := by
  rw [← firstWith_eq_head? hc]
  exact (h.leadsToFirst id).withObjectType_eq h.isInitialized

/-- **A carrier is not found by its object type exactly if it is not the first of the carriers.** -/
theorem Fresh.withObjectType_ne_iff {l : Loader} (h : l.Fresh) (hc : l.cache.Coherent)
    {id name : String} {spec : Specification} (hspec : l.cache.get? name = some spec)
    (hid : spec.objectType? = some id) :
    l.withObjectType id ≠ .ok (some spec) ↔ name ∈ (Validator.carriers l.cache.all id).tail := by
  have hmem : name ∈ Validator.carriers l.cache.all id :=
    (mem_carriers_iff hc).mpr ⟨spec, hspec, hid⟩
  have hascending := ascending_carriers hc id
  rw [h.withObjectType_eq hc]
  generalize Validator.carriers l.cache.all id = classes at hmem hascending
  cases classes with
  | nil => cases hmem
  | cons first rest =>
    have hrest : ∀ other ∈ rest, first < other := (List.pairwise_cons.mp hascending).1
    show Except.ok (l.cache.get? first) ≠ _ ↔ name ∈ rest
    constructor
    · intro hne
      refine (List.mem_cons.mp hmem).resolve_left fun hfirst => hne ?_
      rw [← hfirst, hspec]
    · intro hname hfound
      have hkey : spec.className = first := hc.keyed (Except.ok.inj hfound)
      exact Std.ne_of_lt (hrest name hname) (hkey.symm.trans (hc.keyed hspec))

end Loader

namespace Validator

variable {failures : List Failure} {id : String} {classes : List String}

theorem mem_sharedBy_iff {f : Failure} :
    f ∈ sharedBy id classes ↔ ∃ first others, classes = first :: others ∧ others ≠ [] ∧
      f = ⟨.ofClass first, .sharedObjectType id classes⟩ := by
  rcases classes with _ | ⟨first, _ | ⟨second, others⟩⟩
  · simp [sharedBy]
  · simp [sharedBy]
  · simp [sharedBy]

/-- The failures of an object type name all classes that share it. -/
theorem message_of_isSharing (h : failures.filter (·.isSharing id) = sharedBy id classes)
    {f : Failure} (hf : f ∈ failures) (hsharing : f.isSharing id) :
    f.message = "object type '" ++ id ++ "' is shared by " ++ ", ".intercalate classes := by
  have hlisted : f ∈ sharedBy id classes := h ▸ List.mem_filter.mpr ⟨hf, hsharing⟩
  obtain ⟨first, others, -, -, rfl⟩ := mem_sharedBy_iff.mp hlisted
  rfl

/-- A class is listed behind the first in a failure of an object type exactly if it is among the
others of the classes that are reported. -/
theorem listed_behind_iff (h : failures.filter (·.isSharing id) = sharedBy id classes)
    (name : String) :
    (∃ f ∈ failures, ∃ first others,
      f.problem = .sharedObjectType id (first :: others) ∧ name ∈ others) ↔
      name ∈ classes.tail := by
  constructor
  · rintro ⟨f, hf, first, others, hproblem, hname⟩
    have hsharing : f.isSharing id := by simp [Failure.isSharing, hproblem]
    have hlisted : f ∈ sharedBy id classes := h ▸ List.mem_filter.mpr ⟨hf, hsharing⟩
    obtain ⟨_, _, _, _, rfl⟩ := mem_sharedBy_iff.mp hlisted
    obtain ⟨-, hclasses⟩ := Problem.sharedObjectType.inj hproblem
    rw [hclasses]
    exact hname
  · intro hname
    obtain ⟨first, others, rfl⟩ : ∃ first others, classes = first :: others :=
      List.exists_cons_of_ne_nil fun hnil => by rw [hnil] at hname; cases hname
    have hlisted : ⟨.ofClass first, .sharedObjectType id (first :: others)⟩ ∈
        failures.filter (·.isSharing id) :=
      h ▸ mem_sharedBy_iff.mpr ⟨first, others, rfl, List.ne_nil_of_mem hname, rfl⟩
    exact ⟨_, (List.mem_filter.mp hlisted).1, first, others, rfl, hname⟩

end Validator

namespace Loader

/-! ### The report and the index -/

/-- **The report of shared object types and the index tell the same.** When a loader is initialized
or rebuilt, an object type is reported once if several cached classes carry it, in the name of
the first of them and with all of them in increasing order, and otherwise not at all; the loader
answers with the first of them, and with none if there is none. So a class that carries the
object type is not found by it exactly if it is reported behind another. -/
theorem shared_object_types_as_indexed (s : Settings) (r : Repository) (requests : List Request)
    (q : Request) (honce : s.validators.count .sharedObjectTypes = 1)
    (hchecked : s.config.reportsSharedObjectTypes)
    (hq : (q = .init ∧ ¬ ((new s r).run requests).isInitialized) ∨ ∃ r', q = .rebuild r') :
    ∃ l, ((new s r).run requests).outcome q = .ok l ∧
      ∀ id, ∃ classes : List String,
        classes.Pairwise (· < ·) ∧ (∀ name, name ∈ classes ↔ l.cache.Carries id name) ∧
        l.failures.filter (·.isSharing id) = Validator.sharedBy id classes ∧
        (∀ f ∈ l.failures, f.isSharing id →
          f.message = "object type '" ++ id ++ "' is shared by " ++ ", ".intercalate classes) ∧
        l.withObjectType id = .ok (classes.head?.bind l.cache.get?) ∧
        ∀ {name : String} {spec : Specification}, l.cache.get? name = some spec →
          spec.objectType? = some id →
          (l.withObjectType id ≠ .ok (some spec) ↔
            ∃ f ∈ l.failures, ∃ first others,
              f.problem = .sharedObjectType id (first :: others) ∧ name ∈ others) := by
  obtain ⟨l, hok, hfresh⟩ := fresh_of_request hq
  have hrun : (new s r).run (requests ++ [q]) = l := by
    rw [run_append]
    exact perform_of_outcome hok
  have hc : l.cache.Coherent := hrun ▸ (coherent_run s r (requests ++ [q])).coherent
  have hsettings : l.settings = s := hrun ▸ settings_run (new s r) (requests ++ [q])
  have helements : ∀ spec ∈ l.cache.all, ∀ f ∈ spec.failures, f.problem.isOfElement := by
    intro spec hspec
    obtain ⟨name, hname⟩ := (Cache.mem_all_iff ..).mp hspec
    exact (hrun ▸ isOfElement_run s r (requests ++ [q])).all hname
  refine ⟨l, hok, fun id => ⟨Validator.carriers l.cache.all id, ascending_carriers hc id,
    fun name => mem_carriers_iff hc, ?_⟩⟩
  have hreport : l.failures.filter (·.isSharing id) =
      Validator.sharedBy id (Validator.carriers l.cache.all id) := by
    have hsorted : (Validator.carriers l.cache.all id).mergeSort (· ≤ ·) =
        Validator.carriers l.cache.all id :=
      List.mergeSort_of_pairwise
        ((ascending_carriers hc id).imp fun h => decide_eq_true (Std.le_of_lt h))
    rw [hfresh.validated, hsettings, Settings.validate,
      Validator.filter_report honce helements hchecked id, hsorted]
  refine ⟨hreport, fun f => Validator.message_of_isSharing hreport,
    hfresh.withObjectType_eq hc id, fun hspec hid => ?_⟩
  exact (hfresh.withObjectType_ne_iff hc hspec hid).trans
    (Validator.listed_behind_iff hreport _).symm

/-- The seller is reported behind another party, and it is not what the loader finds. -/
theorem shared_object_types_as_indexed_parties :
    (Settings.ofConfiguration .empty).validators.count .sharedObjectTypes = 1 ∧
      (Settings.ofConfiguration .empty).config.reportsSharedObjectTypes ∧
      ∃ l seller, (new (.ofConfiguration .empty)
          (parties ["shop.Buyer", "shop.Seller"] none)).outcome .init = .ok l ∧
        l.cache.get? "shop.Seller" = some seller ∧ seller.objectType? = some "shop.Party" ∧
        l.withObjectType "shop.Party" ≠ .ok (some seller) ∧
        ∃ f ∈ l.failures, ∃ first others,
          f.problem = .sharedObjectType "shop.Party" (first :: others) ∧
            "shop.Seller" ∈ others := by
  have honce : (Settings.ofConfiguration .empty).validators.count .sharedObjectTypes = 1 := by
    decide +kernel
  have hchecked : (Settings.ofConfiguration .empty).config.reportsSharedObjectTypes := by
    decide +kernel
  obtain ⟨buyer, hbuyer, -, htypeBuyer⟩ := exists_party_at_start "shop.Buyer" (by simp)
  obtain ⟨seller, hseller, hname, htypeSeller⟩ := exists_party_at_start "shop.Seller" (by simp)
  generalize parties ["shop.Buyer", "shop.Seller"] none = r at *
  refine ⟨honce, hchecked, ?_⟩
  obtain ⟨l, hok, htell⟩ := shared_object_types_as_indexed (.ofConfiguration .empty) r [] .init
    honce hchecked (.inl ⟨rfl, Bool.false_ne_true⟩)
  have hrun : (new (.ofConfiguration .empty) r).run [.init] = l := perform_of_outcome hok
  have hc : l.cache.Coherent := hrun ▸ (coherent_run _ r [.init]).coherent
  rw [hrun] at hbuyer hseller
  obtain ⟨classes, hascending, hmem, -, -, hanswer, hlisted⟩ := htell "shop.Party"
  have hlost : l.withObjectType "shop.Party" ≠ .ok (some seller) := by
    rw [hanswer]
    intro hfound
    obtain ⟨first, hfirst, hget⟩ := Option.bind_eq_some_iff.mp (Except.ok.inj hfound)
    have hkeyed : seller.className = first := hc.keyed hget
    rw [hname] at hkeyed
    obtain ⟨rest, rfl⟩ := List.head?_eq_some_iff.mp (hkeyed ▸ hfirst)
    have hbefore : "shop.Buyer" ∈ "shop.Seller" :: rest := (hmem _).mpr ⟨buyer, hbuyer, htypeBuyer⟩
    have hrest : "shop.Buyer" ∈ rest := (List.mem_cons.mp hbefore).resolve_left (by decide)
    exact absurd ((List.pairwise_cons.mp hascending).1 _ hrest) (by decide)
  exact ⟨l, seller, hok, hseller, htypeSeller, hlost, (hlisted hseller htypeSeller).mp hlost⟩

end Loader
end Facetry
