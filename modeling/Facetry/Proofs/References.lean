/-
# What a specification refers to

A specification refers to no type out of the blue: each is one that its class
mentions, or the component of an array that the class mentions. Members carry
the types of their methods, and only two factories say what the elements of a
collection are: one for the class of arrays, one for a member, from what its
method declares or returns.

Key definitions: `TypeRef.IsPartOf`, `Analysis.elementTypes`, `Introspection.MadeOf`.
Key theorems: `Introspection.isPartOf_typeNames_member`, `Introspection.madeOf_members`,
`Loader.Settings.isPartOf_referencedTypes`.
-/
import Facetry.Loader
import Facetry.Proofs.Progress

namespace Facetry

/-- Whether a name is one of the list, or the component of an array that is. -/
def TypeRef.IsPartOf (names : List String) (name : String) : Prop :=
  name ∈ names ∨ ∃ array ∈ names, TypeRef.componentName? array = some name

theorem TypeRef.IsPartOf.mono {names more : List String} {name : String}
    (h : TypeRef.IsPartOf names name) (hsub : ∀ n ∈ names, n ∈ more) :
    TypeRef.IsPartOf more name := by
  rcases h with h | ⟨array, harray, hname⟩
  · exact .inl (hsub name h)
  · exact .inr ⟨array, hsub array harray, hname⟩

/-! ### Element types -/

namespace FacetHolder

/-- The element type is read off one facet. -/
theorem elementType?_congr {h h' : FacetHolder} (heq : h'.get? .typeOf = h.get? .typeOf) :
    h'.elementType? = h.elementType? := by
  simp only [elementType?, data?, heq]

theorem elementType?_put_typeOf (h : FacetHolder) (owner : Identifier) (derived : Bool)
    (t : TypeRef) : (h.put ⟨owner, derived, .typeOf t⟩).elementType? = some t := by
  simp [elementType?, data?, get?_put, Facet.kind]

end FacetHolder

namespace Analysis

theorem elementType?_attach_typeOf (a : Analysis) (t : TypeRef) :
    (a.attach (.typeOf t)).facets.elementType? = some t :=
  a.facets.elementType?_put_typeOf ..

theorem elementType?_attachDerived_typeOf (a : Analysis) (t : TypeRef) :
    (a.attachDerived (.typeOf t)).facets.elementType? = some t :=
  a.facets.elementType?_put_typeOf ..

/-- What a factory leaves alone says the same elements. -/
theorem Progress.elementType? {kinds : List Facet.Kind} {a b : Analysis} (h : Progress kinds a b)
    (hkinds : Facet.Kind.typeOf ∉ kinds) : b.facets.elementType? = a.facets.elementType? :=
  FacetHolder.elementType?_congr (h.facets _ hkinds)

theorem elementType?_collectionClass {env : Environment} {c : Class} {a : Analysis} {t : TypeRef}
    (h : (a.collectionClass env c).facets.elementType? = some t) :
    a.facets.elementType? = some t ∨ c.component = some t := by
  have hmark : (a.attach .collectionType).facets.elementType? = a.facets.elementType? :=
    FacetHolder.elementType?_congr rfl
  unfold collectionClass at h
  split at h
  · split at h
    · rename_i component hcomponent
      rw [elementType?_attachDerived_typeOf] at h
      exact .inr (hcomponent.trans h)
    · exact .inl (hmark ▸ h)
  · exact .inl h

/-- The element types that a method gives rise to: the declared one, and the one that its return
type shows. -/
def elementTypes (m : Method) : List TypeRef :=
  (shownElement? m.returnType).toList ++
    match declaredElement? m with
    | some (.ok element) => [element]
    | _ => []

theorem elementType?_inferredElement {env : Environment} {m : MemberContext} {a : Analysis}
    {t : TypeRef} (h : (a.inferredElement env m).facets.elementType? = some t) :
    a.facets.elementType? = some t ∨ t ∈ elementTypes m.method := by
  unfold inferredElement at h
  split at h
  · exact .inl h
  · split at h
    · rename_i element helement
      rw [elementType?_attachDerived_typeOf] at h
      exact .inr (List.mem_append_left _ (by simp [helement, Option.some.inj h]))
    · exact .inl h

theorem elementType?_elementType {env : Environment} {m : MemberContext} {a : Analysis}
    {t : TypeRef} (h : (a.elementType env m).facets.elementType? = some t) :
    a.facets.elementType? = some t ∨ t ∈ elementTypes m.method := by
  unfold elementType at h
  split at h
  · exact elementType?_inferredElement h
  · rename_i element helement
    rw [elementType?_attach_typeOf] at h
    exact .inr (List.mem_append_right _ (by simp [helement, Option.some.inj h]))
  · exact elementType?_inferredElement (a := a.report _) h

end Analysis

/-- Only two factories say what the elements are. -/
theorem Factory.typeOf_mem_kinds_iff (f : Factory) :
    Facet.Kind.typeOf ∈ f.kinds ↔ f = .collectionType ∨ f = .typeOf := by
  cases f <;> simp [Factory.kinds]

namespace ProgrammingModel

theorem elementType?_foldl (allowed : TypeRef → Prop) {step : Analysis → Factory → Analysis}
    (hstep : ∀ a f t, (step a f).facets.elementType? = some t →
      a.facets.elementType? = some t ∨ allowed t)
    (factories : List Factory) {a : Analysis} {t : TypeRef}
    (h : (factories.foldl step a).facets.elementType? = some t) :
    a.facets.elementType? = some t ∨ allowed t := by
  induction factories generalizing a with
  | nil => exact .inl h
  | cons f factories ih =>
    rcases ih h with h | h
    · exact hstep a f t h
    · exact .inr h

/-- The elements of a class are those of its component. -/
theorem elementType?_analyseClass {model : ProgrammingModel} {env : Environment} {c : Class}
    {a : Analysis} {t : TypeRef}
    (h : (model.analyseClass env c a).facets.elementType? = some t) :
    a.facets.elementType? = some t ∨ c.component = some t := by
  refine elementType?_foldl (fun t => c.component = some t) (fun a f t h => ?_) _ h
  by_cases hf : Facet.Kind.typeOf ∈ f.kinds
  · rcases f.typeOf_mem_kinds_iff.mp hf with rfl | rfl
    · exact Analysis.elementType?_collectionClass h
    · exact .inl h
  · exact .inl ((f.progress_onClass env c a).elementType? hf ▸ h)

/-- The elements of a member are those that its method gives rise to. -/
theorem elementType?_analyseMember {model : ProgrammingModel} {env : Environment}
    {m : MemberContext} {a : Analysis} {t : TypeRef}
    (h : (model.analyseMember env m a).facets.elementType? = some t) :
    a.facets.elementType? = some t ∨ t ∈ Analysis.elementTypes m.method := by
  refine elementType?_foldl (· ∈ Analysis.elementTypes m.method) (fun a f t h => ?_) _ h
  by_cases hf : Facet.Kind.typeOf ∈ f.kinds
  · rcases f.typeOf_mem_kinds_iff.mp hf with rfl | rfl
    · exact .inl h
    · exact Analysis.elementType?_elementType h
  · exact .inl ((f.progress_onMember env m a).elementType? hf ▸ h)

end ProgrammingModel

/-! ### Members come of methods -/

namespace Introspection

variable {model : ProgrammingModel} {env : Environment} {c : Class} {classFacets : FacetHolder}

theorem types_parametersFrom (m : MemberContext) (index : Nat) (ps : List Parameter)
    (a : Analysis) :
    (parametersFrom model env m index ps a).1.map (·.type) = ps.map (·.type) := by
  induction ps generalizing index a with
  | nil => rfl
  | cons p ps ih => simp [parametersFrom, ih]

theorem pool_parametersFrom (m : MemberContext) (index : Nat) (ps : List Parameter)
    (a : Analysis) :
    (parametersFrom model env m index ps a).2.pool.unclaimed.Sublist a.pool.unclaimed := by
  induction ps generalizing index a with
  | nil => exact List.Sublist.refl _
  | cons p ps ih => exact (ih _ _).trans (model.progress_analyseParameter env _ _).pool

theorem pool_member (m : MemberContext) (a : Analysis) :
    (member model env m a).2.pool.unclaimed.Sublist a.pool.unclaimed :=
  (pool_parametersFrom m 0 _ _).trans (model.progress_analyseMember env _ m).pool

theorem elementType?_member {m : MemberContext} {a : Analysis} {t : TypeRef}
    (h : (member model env m a).1.elementType? = some t) :
    t ∈ Analysis.elementTypes m.method := by
  rcases ProgrammingModel.elementType?_analyseMember h with h | h
  · cases h
  · exact h

/-- The types of the parameters of a member are those of its method. -/
theorem mem_parameters_member {m : MemberContext} {a : Analysis} {name : String}
    (h : name ∈ (member model env m a).1.parameters.map (·.type.name)) :
    name ∈ m.method.parameters.map (·.type.name) := by
  obtain ⟨p, hp, rfl⟩ := List.mem_map.mp h
  have hp : p.type ∈ (member model env m a).1.parameters.map (·.type) :=
    List.mem_map_of_mem hp
  simp only [member] at hp
  rw [types_parametersFrom] at hp
  split at hp
  · obtain ⟨q, hq, heq⟩ := List.mem_map.mp hp
    exact List.mem_map.mpr ⟨q, hq, by rw [heq]⟩
  · simp at hp

/-- An element type is one that the method mentions, or the component of its return type. -/
theorem isPartOf_elementTypes {m : Method} {t : TypeRef} (h : t ∈ Analysis.elementTypes m) :
    TypeRef.IsPartOf m.mentioned t.name := by
  rcases List.mem_append.mp h with h | h
  · have h := Option.mem_toList.mp h
    rcases Option.or_eq_some_iff.mp h with h | ⟨-, h⟩
    · obtain ⟨component, hcomponent, rfl⟩ := Option.map_eq_some_iff.mp h
      refine .inr ⟨m.returnType.name, ?_, hcomponent⟩
      simp [Method.mentioned, TypeRef.mentioned]
    · have harg : t ∈ m.returnType.args := List.mem_of_head? h
      exact .inl (by simpa [Method.mentioned, TypeRef.mentioned] using .inr (.inl ⟨t, harg, rfl⟩))
  · refine .inl ?_
    split at h
    · rename_i element helement
      obtain rfl := List.mem_singleton.mp h
      simp [Method.mentioned, helement]
    · simp at h

/-- **A member mentions what its method mentions**, or the component of an array among that. -/
theorem isPartOf_typeNames_member {m : MemberContext} {a : Analysis} {name : String}
    (h : name ∈ (member model env m a).1.typeNames) : TypeRef.IsPartOf m.method.mentioned name := by
  rcases List.mem_append.mp h with h | h
  · rcases List.mem_cons.mp h with rfl | h
    · exact .inl (by simp [Method.mentioned, TypeRef.mentioned, member])
    · obtain ⟨t, ht, rfl⟩ := List.mem_map.mp h
      exact isPartOf_elementTypes (elementType?_member (Option.mem_toList.mp ht))
  · refine .inl ?_
    have := mem_parameters_member h
    simp only [Method.mentioned, List.mem_append]
    exact .inl (.inr this)

/-- Whether the member is what the analysis made of the method at the place. -/
def MadeOf (model : ProgrammingModel) (env : Environment) (c : Class)
    (methods : List (Nat × Method)) (found : Nat × Member) : Prop :=
  ∃ m : MemberContext, (found.1, m.method) ∈ methods ∧ m.owner = c ∧
    ∃ a, found.2 = (member model env m a).1

theorem MadeOf.mono {methods more : List (Nat × Method)} {found : Nat × Member}
    (h : MadeOf model env c methods found) (hsub : ∀ e ∈ methods, e ∈ more) :
    MadeOf model env c more found := by
  obtain ⟨m, hm, howner, hfound⟩ := h
  exact ⟨m, hsub _ hm, howner, hfound⟩

theorem pool_associationsOf (entries : List (Nat × Method)) (a : Analysis) :
    (associationsOf model env c classFacets entries a).2.pool.unclaimed.Sublist
      a.pool.unclaimed := by
  induction entries generalizing a with
  | nil => exact List.Sublist.refl _
  | cons e entries ih =>
    obtain ⟨index, accessor⟩ := e
    unfold associationsOf
    split
    · exact ih a
    · exact (ih _).trans (pool_member _ a)

theorem madeOf_associationsOf {entries : List (Nat × Method)} {a : Analysis}
    {found : Nat × Member} (h : found ∈ (associationsOf model env c classFacets entries a).1) :
    MadeOf model env c entries found := by
  induction entries generalizing a with
  | nil => cases h
  | cons e entries ih =>
    obtain ⟨index, accessor⟩ := e
    unfold associationsOf at h
    split at h
    · exact (ih h).mono fun _ => List.mem_cons_of_mem _
    · rename_i id hid
      rcases List.mem_cons.mp h with rfl | h
      · exact ⟨⟨c, classFacets, accessor, id, featureOf env accessor⟩, List.mem_cons_self, rfl, a,
          rfl⟩
      · exact (ih h).mono fun _ => List.mem_cons_of_mem _

theorem madeOf_actionsOf {entries : List (Nat × Method)} {a : Analysis} {found : Nat × Member}
    (h : found ∈ (actionsOf model env c classFacets entries a).1) :
    MadeOf model env c entries found := by
  induction entries generalizing a with
  | nil => cases h
  | cons e entries ih =>
    obtain ⟨index, method⟩ := e
    unfold actionsOf at h
    split at h
    · rcases List.mem_cons.mp h with rfl | h
      · exact ⟨⟨c, classFacets, method, method.name, .action⟩, List.mem_cons_self, rfl, _, rfl⟩
      · exact (ih h).mono fun _ => List.mem_cons_of_mem _
    · exact (ih h).mono fun _ => List.mem_cons_of_mem _

theorem pool_analyseClass (model : ProgrammingModel) (env : Environment) (c : Class) :
    (analyseClass model env c).pool.unclaimed.Sublist (MethodPool.ofClass c).unclaimed :=
  List.filter_sublist.trans
    ((model.progress_analyseClass env _ c).pool.trans List.filter_sublist)

/-- **Every member is made of a method of its class.** -/
theorem madeOf_members (model : ProgrammingModel) (env : Environment) (c : Class) :
    ∀ found ∈ (ofClass model env c).associations ++ (ofClass model env c).actions,
      MadeOf model env c (MethodPool.ofClass c).unclaimed found := by
  intro found hfound
  have hpool := (pool_analyseClass model env c).subset
  rcases List.mem_append.mp hfound with h | h
  · exact (madeOf_associationsOf h).mono fun e he => hpool (List.mem_filter.mp he).1
  · refine (madeOf_actionsOf h).mono fun e he => hpool ?_
    have hleft := (pool_associationsOf _ _).subset (List.mem_filter.mp he).1
    exact (List.mem_filter.mp hleft).1

theorem mem_membersOf {members : List (Nat × Member)} {feature : Feature} {x : Member}
    (h : x ∈ membersOf members feature) : ∃ index, (index, x) ∈ members := by
  have h := (List.mem_filter.mp (List.mem_mergeSort.mp h)).1
  obtain ⟨⟨index, x⟩, hfound, rfl⟩ := List.mem_map.mp h
  exact ⟨index, hfound⟩

theorem elementType?_ofClass {t : TypeRef}
    (h : (ofClass model env c).classFacets.elementType? = some t) : c.component = some t := by
  rcases ProgrammingModel.elementType?_analyseClass h with h | h
  · cases h
  · exact h

theorem mem_methods_of_mem_ofClass {index : Nat} {m : Method}
    (h : (index, m) ∈ (MethodPool.ofClass c).unclaimed) : m ∈ c.methods := by
  obtain ⟨i, hi, heq⟩ := List.mem_mapIdx.mp h
  cases heq
  exact List.getElem_mem hi

theorem exists_of_mem_members {x : Member}
    (h : x ∈ ((ofClass model env c).specification c).members) :
    ∃ m ∈ c.methods, ∃ context : MemberContext, context.method = m ∧
      ∃ a, x = (member model env context a).1 := by
  have hfound : ∃ index, (index, x) ∈
      (ofClass model env c).associations ++ (ofClass model env c).actions := by
    rcases List.mem_append.mp h with h | h
    · rcases List.mem_append.mp h with h | h <;> obtain ⟨index, h⟩ := mem_membersOf h
      · exact ⟨index, List.mem_append_left _ h⟩
      · exact ⟨index, List.mem_append_left _ h⟩
    · obtain ⟨index, h⟩ := mem_membersOf h
      exact ⟨index, List.mem_append_right _ h⟩
  obtain ⟨index, hfound⟩ := hfound
  obtain ⟨m, hm, -, a, hx⟩ := madeOf_members model env c _ hfound
  exact ⟨m.method, mem_methods_of_mem_ofClass hm, m, rfl, a, hx⟩

end Introspection

namespace Loader.Settings

/-- **A specification refers to what its class mentions**, or to the component of an array among
that. -/
theorem isPartOf_referencedTypes {s : Settings} {r : Repository} {c : Class} {name : String}
    (h : name ∈ (s.describe r c).referencedTypes) : TypeRef.IsPartOf c.mentioned name := by
  have h := (List.mem_filter.mp (List.mem_eraseDups.mp h)).1
  rcases List.mem_append.mp h with h | h
  · refine .inl ?_
    rcases List.mem_append.mp h with h | h
    · have h : name ∈ c.superclass.toList ++ c.interfaces := h
      rcases List.mem_append.mp h with h | h <;> simp [Class.mentioned, h]
    · obtain ⟨t, ht, rfl⟩ := List.mem_map.mp h
      have := Introspection.elementType?_ofClass (Option.mem_toList.mp ht)
      simp [Class.mentioned, this]
  · obtain ⟨x, hx, hname⟩ := List.mem_flatMap.mp h
    obtain ⟨m, hm, context, rfl, a, rfl⟩ := Introspection.exists_of_mem_members hx
    refine (Introspection.isPartOf_typeNames_member hname).mono fun n hn => ?_
    exact List.mem_append_right _ (List.mem_flatMap.mpr ⟨_, hm, hn⟩)

end Loader.Settings
end Facetry
