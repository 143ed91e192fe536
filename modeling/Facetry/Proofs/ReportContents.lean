/-
# What a report says

The standard validators go through the specifications one after the other, and sort what they find
by name in between. What they report does not depend on any of this: it is a multiset, put together
from four parts that can each be read off the specifications. Introspection has left failures
behind; an id is carried by several members of a class; a supporting method supports nothing; an
object type is carried by several classes. Each of these is reported as often as it is the case, and
nothing else is.

A name that is repeated makes one group, however often it is repeated (`coe_repeated`), so each
repeated id and each shared object type is reported once, with all that carry it.

Key definitions: `Validator.repeatedIn`, `Validator.methodsWith`, `Validator.sharing`,
`Validator.reportable`.
Key theorems: `Validator.coe_repeated`, `Validator.coe_duplicatesOf`,
`Validator.coe_sharedObjectTypesOf`, `Validator.report_contents`.
-/
import Facetry.Proofs.SharedObjectTypes
import Mathlib.Data.Finset.Dedup
import Mathlib.Data.Finset.Filter
import Mathlib.Data.Multiset.Bind

namespace Facetry
namespace Validator

/-! ### Repeated names -/

/-- The names that occur at least twice. -/
def repeatedIn (names : List String) : Finset String :=
  names.toFinset.filter fun name => 2 ≤ names.count name

theorem repeatedIn_congr {names others : List String} (h : names.Perm others) :
    repeatedIn names = repeatedIn others := by
  ext name
  simp [repeatedIn, h.mem_iff, h.count_eq]

theorem length_pairedWith (pairs : List (String × String)) (name : String) :
    (pairedWith pairs name).length = (pairs.map (·.1)).count name := by
  rw [pairedWith, List.length_map, List.count, List.countP_map, List.countP_eq_length_filter]
  rfl

/-- **Each repeated name makes one group**, of all that it is paired with. -/
theorem coe_repeated (pairs : List (String × String)) :
    (repeated pairs : Multiset (String × List String)) =
      (repeatedIn (pairs.map (·.1))).val.map fun name => (name, pairedWith pairs name) := by
  have hgroups : repeated pairs =
      ((NameMap.ofList pairs).keys.filter fun name => 1 < (pairedWith pairs name).length).map
        fun name => (name, pairedWith pairs name) := by
    rw [repeated, List.filter_map]
    rfl
  have hnames :
      (((NameMap.ofList pairs).keys.filter fun name => 1 < (pairedWith pairs name).length :
        List String) : Multiset String) = (repeatedIn (pairs.map (·.1))).val := by
    refine (Multiset.Nodup.ext ?_ (repeatedIn (pairs.map (·.1))).nodup).mpr fun name => ?_
    · exact Multiset.coe_nodup.mpr ((NameMap.nodup_keys _).filter _)
    · rw [Multiset.mem_coe, List.mem_filter, NameMap.mem_keys_ofList, decide_eq_true_iff,
        length_pairedWith, Finset.mem_val, repeatedIn, Finset.mem_filter, List.mem_toFinset,
        List.mem_map]
      rfl
  rw [hgroups, ← hnames]
  rfl

/-! ### Members with one id -/

/-- The methods of the members with an id, first of the properties, then of the collections, and of
the actions last. -/
def methodsWith (s : Specification) (id : String) : List String :=
  ((s.properties ++ s.collections ++ s.actions).filter (·.id == id)).map (·.method)

/-- **Each id that several members of a class carry is reported once**, with the methods of those
members. -/
theorem coe_duplicatesOf (s : Specification) :
    (duplicatesOf s : Multiset Failure) =
      (repeatedIn (s.members.map (·.id))).val.map fun id =>
        ⟨s.identifier, .duplicateMember id (methodsWith s id)⟩ := by
  have hmethods (id : String) :
      pairedWith (s.members.map fun m => (m.id, m.method)) id = methodsWith s id := by
    rw [pairedWith, List.filter_map, List.map_map]
    rfl
  rw [duplicatesOf, ← Multiset.map_coe, coe_repeated, Multiset.map_map, List.map_map]
  simp only [Function.comp_def, hmethods]

/-! ### Classes with one object type -/

/-- The failure that classes share an object type, in the name of the first of them. -/
def sharing (id : String) (classes : List String) : Failure :=
  ⟨.ofClass (classes.headD ""), .sharedObjectType id classes⟩

/-- The classes that carry an object type, in increasing order. -/
def sortedCarriers (specifications : List Specification) (id : String) : List String :=
  (carriers specifications id).mergeSort (· ≤ ·)

theorem sortedCarriers_congr {specifications others : List Specification}
    (h : specifications.Perm others) (id : String) :
    sortedCarriers specifications id = sortedCarriers others id := by
  have hclasses : (carriers specifications id).Perm (carriers others id) := (h.filter _).map _
  have hsorted (classes : List String) :
      (classes.mergeSort (· ≤ ·)).Pairwise fun a b => decide (a ≤ b) :=
    List.pairwise_mergeSort
      (fun a b c hab hbc => by simp only [decide_eq_true_eq] at *; exact String.le_trans hab hbc)
      (fun a b => by simpa using String.le_total a b) classes
  refine (((List.mergeSort_perm _ _).trans hclasses).trans
    (List.mergeSort_perm _ _).symm).eq_of_pairwise (fun a b _ _ hab hba => ?_)
      (hsorted _) (hsorted _)
  exact String.le_antisymm (of_decide_eq_true hab) (of_decide_eq_true hba)

/-- **Each object type that several classes carry is reported once**, with those classes. -/
theorem coe_sharedObjectTypesOf (specifications : List Specification) :
    (sharedObjectTypesOf specifications : Multiset Failure) =
      (repeatedIn (specifications.filterMap (·.objectType?))).val.map fun id =>
        sharing id (sortedCarriers specifications id) := by
  let pairs : List (String × String) :=
    specifications.filterMap fun s => s.objectType?.map (·, s.className)
  have hids : pairs.map (·.1) = specifications.filterMap (·.objectType?) := by
    simp [pairs, List.map_filterMap, Option.map_map, Function.comp_def]
  have hmap : sharedObjectTypesOf specifications =
      (repeated pairs).map fun group => sharing group.1 (group.2.mergeSort (· ≤ ·)) := by
    rw [sharedObjectTypesOf, ← List.filterMap_eq_map]
    refine List.filterMap_congr fun group hgroup => ?_
    have hmany : 1 < group.2.length := of_decide_eq_true (List.mem_filter.mp hgroup).2
    have hlength : (group.2.mergeSort (· ≤ ·)).length = group.2.length := List.length_mergeSort _
    obtain ⟨first, others, hsorted⟩ : ∃ first others,
        group.2.mergeSort (· ≤ ·) = first :: others :=
      List.exists_cons_of_length_pos (by omega)
    simp [hsorted, sharing]
  rw [hmap, ← Multiset.map_coe, coe_repeated, Multiset.map_map, hids]
  refine Multiset.map_congr rfl fun id _ => ?_
  rw [Function.comp_apply, pairedWith_objectTypes]
  rfl

/-! ### The report -/

/-- What there is to report of the classes: the failures of their introspection, one failure for
each id that several members of a class carry, one for each orphaned method of a class, and one for
each object type that several classes carry. The last two parts can be switched off. -/
def reportable (config : Configuration) (specifications : List Specification) : Multiset Failure :=
  let classes : Multiset Specification := specifications
  (classes.bind fun s => s.failures) +
    (classes.bind fun s => (repeatedIn (s.members.map (·.id))).val.map fun id =>
      ⟨s.identifier, .duplicateMember id (methodsWith s id)⟩) +
    (if config.reportsOrphanedMethods then
      classes.bind fun s => (s.orphans : Multiset String).map fun method =>
        ⟨s.identifier, .orphanedMethod method⟩
    else 0) +
    if config.reportsSharedObjectTypes then
      (repeatedIn (specifications.filterMap (·.objectType?))).val.map fun id =>
        sharing id (sortedCarriers specifications id)
    else 0

/-- The order of the specifications makes no difference to what there is to report. -/
theorem reportable_congr (config : Configuration) {specifications others : List Specification}
    (h : others.Perm specifications) :
    reportable config others = reportable config specifications := by
  have hclasses : (others : Multiset Specification) = specifications := Multiset.coe_eq_coe.mpr h
  have hids : repeatedIn (others.filterMap (·.objectType?)) =
      repeatedIn (specifications.filterMap (·.objectType?)) := repeatedIn_congr (h.filterMap _)
  simp only [reportable, hclasses, hids, sortedCarriers_congr h]

theorem coe_report (config : Configuration) (specifications : List Specification) :
    (report standard config specifications : Multiset Failure) =
      reportable config specifications := by
  have hlist : report standard config specifications =
      specifications.flatMap (·.failures) ++ specifications.flatMap duplicatesOf ++
        (if config.reportsOrphanedMethods then specifications.flatMap orphansOf else []) ++
        (if config.reportsSharedObjectTypes then sharedObjectTypesOf specifications else []) := by
    simp [report, standard, failures]
  have hswitch (on : Bool) (found : List Failure) :
      ((if on then found else [] : List Failure) : Multiset Failure) =
        if on then (found : Multiset Failure) else 0 := by
    cases on <;> rfl
  rw [hlist, ← Multiset.coe_add, ← Multiset.coe_add, ← Multiset.coe_add, hswitch, hswitch,
    coe_sharedObjectTypesOf, ← Multiset.coe_bind, ← Multiset.coe_bind, ← Multiset.coe_bind]
  simp only [coe_duplicatesOf]
  rfl

/-- **The report of the standard validators is exact, in any order.** As a multiset it holds what
there is to report of the classes: every failure that was left behind, one failure for each id that
two or more members of a class carry, with the methods of precisely those members, one for each
orphaned method and one for each object type of two or more classes. If the specifications are put
in another order, the failures are the same, each as often as before. -/
theorem report_contents (config : Configuration) (specifications : List Specification) :
    (report standard config specifications : Multiset Failure) =
      reportable config specifications ∧
    ∀ others : List Specification, others.Perm specifications →
      (report standard config others).Perm (report standard config specifications) := by
  refine ⟨coe_report config specifications, fun others h => Multiset.coe_eq_coe.mp ?_⟩
  rw [coe_report, coe_report, reportable_congr config h]

/-- A class of parties with two accessors of one property and a method that supports nothing. -/
def partySpecification (name : String) : Specification :=
  { Specification.placeholder (Class.named name) with
    facets := (FacetHolder.empty (.ofClass name)).attach (.objectSpecId "shop.Party")
    properties := ["getActive", "isActive"].map fun method =>
      ⟨"active", .property, method, .simple "boolean", .empty (.ofMember name "active"), []⟩
    orphans := ["hideNothing"] }

/-- Buyers and sellers share an object type, and each has an id of two methods; whoever comes first,
the report is the same. -/
theorem report_contents_parties :
    let buyer := partySpecification "shop.Buyer"
    let seller := partySpecification "shop.Seller"
    repeatedIn ([buyer, seller].filterMap (·.objectType?)) = {"shop.Party"} ∧
      repeatedIn (buyer.members.map (·.id)) = {"active"} ∧
      methodsWith buyer "active" = ["getActive", "isActive"] ∧
      [seller, buyer].Perm [buyer, seller] ∧
      (report standard .empty [seller, buyer]).Perm (report standard .empty [buyer, seller]) := by
  have hswap : [partySpecification "shop.Seller", partySpecification "shop.Buyer"].Perm
      [partySpecification "shop.Buyer", partySpecification "shop.Seller"] := List.Perm.swap _ _ _
  refine ⟨?_, ?_, ?_, hswap, (report_contents .empty _).2 _ hswap⟩ <;> decide +kernel

end Validator
end Facetry
