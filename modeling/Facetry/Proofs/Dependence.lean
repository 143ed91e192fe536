/-
# What a description depends on

The description of a class depends on more than the class. Its analysis asks whether
the class and the types that its methods return are collections, and whether the
types of its properties and parameters are primitive. These are all the questions about
other classes: in two environments that answer them alike, and have the same
configuration and services, introspection finds the same
(`Introspection.ofClass_congr`).

None of the answers shows in the fingerprint of the class. So a class that is the same
in two repositories can have two descriptions: a class becomes one of collections as soon
as it inherits from such an interface (`Repository.isCollectionType_of_mem_parents`), and
a property of that type becomes a collection.

Key definitions: `Environment.AlikeFor`, `tillModel`.
Key theorems: `Factory.onMember_congr`, `Introspection.member_congr`,
`Introspection.ofClass_congr`, `Loader.Settings.describe_congr`,
`Loader.Settings.describe_by_two_questions`.
-/
import Facetry.Proofs.References

namespace Facetry

/-! ### Which classes are ones of collections -/

namespace Repository

variable {r : Repository}

/-- A search finds what is pending. -/
theorem searchAncestor_of_mem {ancestor : String} {visited pending : List String}
    (h : ancestor ∈ pending) : r.searchAncestor ancestor visited pending := by
  fun_induction searchAncestor r ancestor visited pending with
  | case1 visited => cases h
  | case2 visited pending => rfl
  | case3 visited name pending hne hseen ih =>
    exact ih ((List.mem_cons.mp h).resolve_left (Ne.symm hne))
  | case4 visited name pending hne hseen hnone ih =>
    exact ih ((List.mem_cons.mp h).resolve_left (Ne.symm hne))
  | case5 visited name pending hne hseen c hc hless ih =>
    exact ih (List.mem_append_right _ ((List.mem_cons.mp h).resolve_left (Ne.symm hne)))

/-- A search passes over a name that is not registered. -/
theorem searchAncestor_cons_of_none {ancestor name : String} (hne : name ≠ ancestor)
    (hnone : r.classes.get? name = none) (visited pending : List String) :
    r.searchAncestor ancestor visited (name :: pending) =
      r.searchAncestor ancestor visited pending := by
  rw [searchAncestor, if_neg hne]
  split
  · rfl
  split
  · rfl
  · rename_i c hc
    rw [hnone] at hc
    cases hc

/-- A search goes on with the parents of a registered class. -/
theorem searchAncestor_cons {ancestor name : String} {c : Class} (hne : name ≠ ancestor)
    (hc : r.classes.get? name = some c) {visited : List String} (hnew : name ∉ visited)
    (pending : List String) :
    r.searchAncestor ancestor visited (name :: pending) =
      r.searchAncestor ancestor (name :: visited) (parents c ++ pending) := by
  rw [searchAncestor, if_neg hne, dif_neg hnew]
  split
  · rename_i hnone
    rw [hc] at hnone
    cases hnone
  · rename_i c' hc'
    rw [hc] at hc'
    cases hc'
    rfl

/-- A search asks for the registered classes only. -/
theorem searchAncestor_congr {r r' : Repository} (h : r'.classes = r.classes) (ancestor : String)
    (visited pending : List String) :
    r'.searchAncestor ancestor visited pending = r.searchAncestor ancestor visited pending := by
  fun_induction searchAncestor r ancestor visited pending with
  | case1 visited => rw [searchAncestor]
  | case2 visited pending => rw [searchAncestor, if_pos rfl]
  | case3 visited name pending hne hseen ih => rw [searchAncestor, if_neg hne, dif_pos hseen, ih]
  | case4 visited name pending hne hseen hnone ih =>
    rw [← h] at hnone
    rw [searchAncestor_cons_of_none hne hnone, ih]
  | case5 visited name pending hne hseen c hc hless ih =>
    rw [← h] at hc
    rw [searchAncestor_cons hne hc hseen, ih]

theorem isSubtypeOf_of_mem_parents {name ancestor : String} {c : Class}
    (hc : r.classes.get? name = some c) (h : ancestor ∈ parents c) :
    r.isSubtypeOf name ancestor := by
  by_cases hname : name = ancestor
  · exact searchAncestor_of_mem (by simp [hname])
  · rw [isSubtypeOf, searchAncestor_cons hname hc (by simp), List.append_nil]
    exact searchAncestor_of_mem h

/-- A class that inherits from nothing is no other's subtype. -/
theorem isSubtypeOf_eq_false {name ancestor : String} {c : Class}
    (hc : r.classes.get? name = some c) (hparents : parents c = []) (hname : name ≠ ancestor) :
    r.isSubtypeOf name ancestor = false := by
  rw [isSubtypeOf, searchAncestor_cons hname hc (by simp), hparents, List.append_nil,
    searchAncestor]

theorem isCollectionType_of_mem_parents {name interface : String} {c : Class}
    (hc : r.classes.get? name = some c) (hparent : interface ∈ parents c)
    (hinterface : interface ∈ collectionInterfaces) : r.isCollectionType name := by
  have hany : collectionInterfaces.any fun interface => r.isSubtypeOf name interface :=
    List.any_eq_true.mpr ⟨interface, hinterface, isSubtypeOf_of_mem_parents hc hparent⟩
  rw [isCollectionType, hany, Bool.or_true]

theorem isCollectionType_eq_false {name : String} {c : Class}
    (hc : r.classes.get? name = some c) (hparents : parents c = [])
    (hname : name ∉ collectionInterfaces) (harray : TypeRef.componentName? name = none) :
    r.isCollectionType name = false := by
  have hany : (collectionInterfaces.any fun interface => r.isSubtypeOf name interface) = false :=
    List.any_eq_false.mpr fun interface hinterface => by
      rw [isSubtypeOf_eq_false hc hparents fun heq => hname (heq ▸ hinterface)]
      exact Bool.false_ne_true
  rw [isCollectionType, harray, hany]
  rfl

theorem isCollectionType_congr {r r' : Repository} (h : r'.classes = r.classes) (name : String) :
    r'.isCollectionType name = r.isCollectionType name := by
  simp only [isCollectionType, isSubtypeOf, searchAncestor_congr h]

theorem get?_congr {r r' : Repository} (h : r'.classes = r.classes) (name : String) :
    r'.get? name = r.get? name := by
  rw [get?, get?, h]

theorem get?_of_registered {name : String} {c : Class} (h : r.classes.get? name = some c) :
    r.get? name = some c := by
  rw [get?, h]

end Repository

/-! ### Environments -/

/-- The environments answer alike what the analysis of the class asks. -/
structure Environment.AlikeFor (c : Class) (e e' : Environment) : Prop where
  config : e'.config = e.config
  services : e'.services = e.services
  itself : e'.isCollectionType c.name = e.isCollectionType c.name
  returned : ∀ m ∈ c.methods,
    e'.isCollectionType m.returnType.name = e.isCollectionType m.returnType.name
  primitive : ∀ m ∈ c.methods, ∀ t ∈ m.returnType :: m.parameters.map (·.type),
    e'.isPrimitive t.name = e.isPrimitive t.name

namespace Environment.AlikeFor

variable {c : Class} {e e' : Environment}

/-- Repositories of the same classes answer alike about them, whatever their domain classes are. -/
theorem of_classes {r r' : Repository} (h : r'.classes = r.classes)
    (config : Configuration) (services : Services) (c : Class) :
    AlikeFor c (.ofRepository config services r) (.ofRepository config services r') := by
  refine ⟨rfl, rfl, Repository.isCollectionType_congr h _,
    fun m _ => Repository.isCollectionType_congr h _, fun m _ t _ => ?_⟩
  show r'.isPrimitive t.name = r.isPrimitive t.name
  rw [Repository.isPrimitive, Repository.isPrimitive, Repository.isOfKind, Repository.isOfKind, h]

theorem primitive_parameter (h : AlikeFor c e e') {m : Method} (hm : m ∈ c.methods)
    {p : Parameter} (hp : p ∈ m.parameters) :
    e'.isPrimitive p.type.name = e.isPrimitive p.type.name :=
  h.primitive m hm p.type (List.mem_cons_of_mem _ (List.mem_map_of_mem hp))

end Environment.AlikeFor

open Environment (AlikeFor)

variable {c : Class} {e e' : Environment} (h : AlikeFor c e e')
include h

/-! ### Factories -/

namespace Analysis

variable (a : Analysis)

theorem localized_congr (owner : Class) (annotations : List Annotation) (simpleName : String)
    (facet : String → Facet.Data) :
    a.localized e' owner annotations simpleName facet =
      a.localized e owner annotations simpleName facet := by
  rw [localized, localized, h.services]

theorem search_congr (name : String) (choices : Facet.Kind)
    (facet : String → Nat → Facet.Data) :
    a.search e' name choices facet = a.search e name choices facet := by
  simp only [search, minSearchLength, h.config]

theorem elementType_congr {m : MemberContext} (hm : m.method ∈ c.methods) :
    a.elementType e' m = a.elementType e m := by
  simp only [elementType, inferredElement, h.returned m.method hm]

end Analysis

namespace Factory

theorem onClass_congr (f : Factory) (a : Analysis) : f.onClass e' c a = f.onClass e c a := by
  cases f with
  | named => exact a.localized_congr h c _ _ _
  | describedAs => exact a.localized_congr h c _ _ _
  | plural => exact a.localized_congr h c _ _ _
  | collectionType => simp only [onClass, Analysis.collectionClass, h.itself]
  | grid => simp only [onClass, Analysis.layout, h.services, h.config]
  | _ => rfl

/-- **A factory that looks at a member asks about its type only.** -/
theorem onMember_congr (f : Factory) {m : MemberContext} (hm : m.method ∈ c.methods)
    (a : Analysis) : f.onMember e' m a = f.onMember e m a := by
  cases f with
  | named => exact a.localized_congr h m.owner _ _ _
  | describedAs => exact a.localized_congr h m.owner _ _ _
  | mandatory =>
    simp only [onMember, Analysis.mandatory, h.primitive m.method hm _ List.mem_cons_self]
  | propertyAutoComplete => exact a.search_congr h _ _ _
  | typeOf => exact a.elementType_congr h hm
  | filterVisibility =>
    simp only [onMember, Analysis.filtered, h.config, h.returned m.method hm]
  | _ => rfl

/-- **A factory that looks at a parameter asks about its type only.** -/
theorem onParameter_congr (f : Factory) {p : ParameterContext} (hm : p.method ∈ c.methods)
    (hp : p.parameter ∈ p.method.parameters) (a : Analysis) :
    f.onParameter e' p a = f.onParameter e p a := by
  cases f with
  | named => exact a.localized_congr h p.owner _ _ _
  | describedAs => exact a.localized_congr h p.owner _ _ _
  | mandatory => simp only [onParameter, Analysis.mandatory, h.primitive_parameter hm hp]
  | actionParameterAutoComplete => exact a.search_congr h _ _ _
  | _ => rfl

end Factory

/-! ### Members -/

namespace Introspection

variable (model : ProgrammingModel) (classFacets : FacetHolder)

theorem parametersFrom_congr {m : MemberContext} (hm : m.method ∈ c.methods) (index : Nat)
    {ps : List Parameter} (hps : ∀ p ∈ ps, p ∈ m.method.parameters) (a : Analysis) :
    parametersFrom model e' m index ps a = parametersFrom model e m index ps a := by
  induction ps generalizing index a with
  | nil => rfl
  | cons p ps ih =>
    obtain ⟨hp, hps⟩ := List.forall_mem_cons.mp hps
    have hstep : ∀ a, model.analyseParameter e' ⟨m.owner, m.method, m.id, index, p⟩ a =
        model.analyseParameter e ⟨m.owner, m.method, m.id, index, p⟩ a := fun a => by
      simp only [ProgrammingModel.analyseParameter,
        Factory.onParameter_congr h _ (p := ⟨m.owner, m.method, m.id, index, p⟩) hm hp]
    simp only [parametersFrom, hstep, ih _ hps]

/-- **A member of the class is the same in both environments.** -/
theorem member_congr {m : MemberContext} (hm : m.method ∈ c.methods) (a : Analysis) :
    member model e' m a = member model e m a := by
  have hparameters : ∀ p ∈ if m.feature = .action then m.method.parameters else [],
      p ∈ m.method.parameters := fun p hp => by
    split at hp
    · exact hp
    · cases hp
  simp only [member, ProgrammingModel.analyseMember, Factory.onMember_congr h _ hm,
    parametersFrom_congr h model hm 0 hparameters]

theorem featureOf_congr {accessor : Method} (hm : accessor ∈ c.methods) :
    featureOf e' accessor = featureOf e accessor := by
  rw [featureOf, featureOf, h.returned accessor hm]

theorem associationsOf_congr {entries : List (Nat × Method)}
    (hentries : ∀ entry ∈ entries, entry.2 ∈ c.methods) (a : Analysis) :
    associationsOf model e' c classFacets entries a =
      associationsOf model e c classFacets entries a := by
  induction entries generalizing a with
  | nil => rfl
  | cons entry entries ih =>
    obtain ⟨index, accessor⟩ := entry
    obtain ⟨hm, hentries⟩ := List.forall_mem_cons.mp hentries
    have hmember : ∀ id a,
        member model e' ⟨c, classFacets, accessor, id, featureOf e accessor⟩ a =
          member model e ⟨c, classFacets, accessor, id, featureOf e accessor⟩ a :=
      fun id a => member_congr h model hm a
    simp only [associationsOf, featureOf_congr h hm, hmember, ih hentries]

theorem actionsOf_congr {entries : List (Nat × Method)}
    (hentries : ∀ entry ∈ entries, entry.2 ∈ c.methods) (a : Analysis) :
    actionsOf model e' c classFacets entries a = actionsOf model e c classFacets entries a := by
  induction entries generalizing a with
  | nil => rfl
  | cons entry entries ih =>
    obtain ⟨index, method⟩ := entry
    obtain ⟨hm, hentries⟩ := List.forall_mem_cons.mp hentries
    have hmember : ∀ a, member model e' ⟨c, classFacets, method, method.name, .action⟩ a =
        member model e ⟨c, classFacets, method, method.name, .action⟩ a :=
      fun a => member_congr h model hm a
    simp only [actionsOf, hmember, ih hentries]

/-! ### Classes -/

theorem analyseClass_congr : analyseClass model e' c = analyseClass model e c := by
  simp only [analyseClass, ProgrammingModel.analyseClass, Factory.onClass_congr h]

/-- **Introspection finds the same in both environments.** -/
theorem ofClass_congr : ofClass model e' c = ofClass model e c := by
  have hpool := (pool_analyseClass model e c).subset
  have haccessors : ∀ entry ∈ (analyseClass model e c).pool.unclaimed.filter
      (fun entry => isAccessor entry.2), entry.2 ∈ c.methods := fun entry hentry =>
    mem_methods_of_mem_ofClass (hpool (List.mem_filter.mp hentry).1)
  have hleft : ∀ {entries : List (Nat × Method)} {a : Analysis} {entry : Nat × Method},
      (∀ entry ∈ a.pool.unclaimed, entry.2 ∈ c.methods) →
      entry ∈ (associationsOf model e c (analyseClass model e c).facets entries
        a).2.pool.unclaimed.filter (fun entry => !model.isReserved entry.2.name) →
      entry.2 ∈ c.methods := fun ha hentry =>
    ha _ ((pool_associationsOf _ _).subset (List.mem_filter.mp hentry).1)
  unfold ofClass
  rw [analyseClass_congr h model]
  dsimp only
  rw [associationsOf_congr h model _ haccessors]
  rw [actionsOf_congr h model _ fun entry hentry => hleft (fun entry hentry => ?_) hentry]
  exact mem_methods_of_mem_ofClass (hpool (List.mem_filter.mp hentry).1)

end Introspection

omit h in
/-- A class is described as in every environment that answers alike about it. -/
theorem Loader.Settings.describe_of_alikeFor {s : Settings} {r : Repository} {c : Class}
    {e : Environment} (h : AlikeFor c e (.ofRepository s.config s.services r)) :
    s.describe r c = (Introspection.ofClass s.model e c).specification c := by
  rw [describe, Introspection.ofClass_congr h]

omit h in
/-- **The description of a class depends on other classes through the answers about them only.** -/
theorem Loader.Settings.describe_congr {s : Settings} {r r' : Repository} {c : Class}
    (h : AlikeFor c (.ofRepository s.config s.services r) (.ofRepository s.config s.services r')) :
    s.describe r' c = s.describe r c :=
  describe_of_alikeFor h

/-! ### The two questions -/

omit h in
/-- **Introspection asks a repository two questions.** Two repositories may differ in everything
else: if they agree which of the class and the types that its methods return are collections, and
which of the types that its methods return or take are primitive, the class has the same facets,
members and orphans and the same failures in both of them. -/
theorem Loader.Settings.describe_by_two_questions (s : Settings) (r r' : Repository) (c : Class)
    (itself : r'.isCollectionType c.name = r.isCollectionType c.name)
    (returned : ∀ m ∈ c.methods,
      r'.isCollectionType m.returnType.name = r.isCollectionType m.returnType.name)
    (primitive : ∀ m ∈ c.methods, ∀ t ∈ m.returnType :: m.parameters.map (·.type),
      r'.isPrimitive t.name = r.isPrimitive t.name) :
    Introspection.ofClass s.model (.ofRepository s.config s.services r') c =
        Introspection.ofClass s.model (.ofRepository s.config s.services r) c ∧
      s.describe r' c = s.describe r c := by
  have halike : AlikeFor c (.ofRepository s.config s.services r)
      (.ofRepository s.config s.services r') := ⟨rfl, rfl, itself, returned, primitive⟩
  exact ⟨Introspection.ofClass_congr halike s.model, describe_congr halike⟩

/-- A class with a list of notes and an action that takes an amount. -/
def till : Class :=
  { Class.named "shop.Till" with
    methods := [{ Method.named "getNotes" with returnType := .simple "java.util.List" },
      { Method.named "charge" with parameters := [⟨.simple "int", some "amount", []⟩] }] }

/-- The model of the till and other classes. -/
def tillModel (others : List Class) : Repository := .ofModel ⟨till :: others, none⟩

omit h in
/-- Which types of the till are ones of collections, where the platform's classes are as they
are. -/
theorem isCollectionType_till {r : Repository} (htill : r.classes.get? "shop.Till" = some till)
    (hvoid : (r.classes.get? "void").map Repository.parents = some [])
    (hlist : (r.classes.get? "java.util.List").map Repository.parents =
      some ["java.util.Collection"]) :
    r.isCollectionType "shop.Till" = false ∧ r.isCollectionType "void" = false ∧
      r.isCollectionType "java.util.List" = true := by
  obtain ⟨void, hvoid, hparents⟩ := Option.map_eq_some_iff.mp hvoid
  obtain ⟨list, hlist, hcollection⟩ := Option.map_eq_some_iff.mp hlist
  have hparent : "java.util.Collection" ∈ Repository.parents list := by simp [hcollection]
  exact ⟨Repository.isCollectionType_eq_false htill rfl (by decide) (by decide +kernel),
    Repository.isCollectionType_eq_false hvoid hparents (by decide) (by decide +kernel),
    Repository.isCollectionType_of_mem_parents hlist hparent (by decide)⟩

omit h in
/-- The till is the same whether there is a class of buyers or not. -/
theorem Loader.Settings.describe_till_beside_buyer :
    let s := ofConfiguration .empty
    tillModel [Class.named "shop.Buyer"] ≠ tillModel [] ∧
      s.describe (tillModel [Class.named "shop.Buyer"]) till = s.describe (tillModel []) till := by
  intro s
  have hregistered : ∀ others ∈ [[], [Class.named "shop.Buyer"]],
      (tillModel others).classes.get? "shop.Till" = some till ∧
      ((tillModel others).classes.get? "void").map Repository.parents = some [] ∧
      ((tillModel others).classes.get? "java.util.List").map Repository.parents =
        some ["java.util.Collection"] := by
    decide +kernel
  have hanswers : ∀ others ∈ [[], [Class.named "shop.Buyer"]],
      (tillModel others).isCollectionType "shop.Till" = false ∧
      (tillModel others).isCollectionType "void" = false ∧
      (tillModel others).isCollectionType "java.util.List" = true := fun others hothers =>
    have ⟨htill, hvoid, hlist⟩ := hregistered others hothers
    isCollectionType_till htill hvoid hlist
  obtain ⟨hself, hvoid, hlist⟩ := hanswers [] (by simp)
  obtain ⟨hself', hvoid', hlist'⟩ := hanswers [Class.named "shop.Buyer"] (by simp)
  refine ⟨by decide +kernel, (describe_by_two_questions s _ _ till ?_ ?_ ?_).2⟩
  · exact hself'.trans hself.symm
  · refine List.forall_mem_cons.mpr ⟨hlist'.trans hlist.symm, List.forall_mem_singleton.mpr ?_⟩
    exact hvoid'.trans hvoid.symm
  · decide +kernel

end Facetry
