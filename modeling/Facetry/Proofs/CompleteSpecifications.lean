/-
# Specifications are complete

Whoever reads a specification relies on facets that are always there: a property says how it is read
and either how it is changed or that it is not, a collection says how it is changed, and an action
how it is invoked and, for each of its parameters, whether it is needed. Some factory attaches each of
these facets whatever it meets, and no factory ever takes a facet away, so in the end they are there
(`Analysis.exists_turn`).

The reader also relies on what is not there. A facet has its place with certain features only
(`Facet.Kind.features`), since the factories for the others never attach it, and it is filed under
its own kind and refers to the very element that it sits on (`FacetHolder.Fits`).

Key definitions: `Facet.Kind.features`, `FacetHolder.Fits`, `Member.IsCompleteProperty`,
`Member.IsCompleteCollection`, `Member.IsCompleteAction`.
Key theorems: `Analysis.Progress.fits`, `Introspection.isCompleteProperty_member`,
`Introspection.isCompleteCollection_member`, `Introspection.isCompleteAction_member`,
`Introspection.complete_specification`.
-/
import Facetry.Proofs.RecordedFailures

namespace Facetry

/-! ### Where facets have their place -/

/-- The features of the elements that can have a facet of the kind. -/
def Facet.Kind.features : Facet.Kind → List Feature
  | named | describedAs => Feature.all
  | objectSpecId | title | iconName | plural | immutable | notPersistable | value | collectionType
  | grid => [.object]
  | typeOf => [.object, .collection, .action]
  | hidden => Feature.classLevel
  | memberOrder | disabled | hideForContext | disableForContext => Feature.members
  | mandatory | maxLength | regEx => [.property, .parameter]
  | propertyAccessor | propertySetter | propertyClear | propertyDefault | propertyChoices
  | autoComplete | propertyValidate => [.property]
  | collectionAccessor | collectionAddTo | collectionRemoveFrom | collectionClear
  | collectionValidateAddTo | collectionValidateRemoveFrom => [.collection]
  | filterVisibility => [.collection, .action]
  | actionInvocation | actionValidate => [.action]
  | actionParameterChoices | actionParameterDefaults | actionParameterAutoComplete => [.parameter]

/-- A factory attaches facets only to elements that can have them. -/
theorem Factory.mem_features_of_mem_kinds {f : Factory} {k : Facet.Kind} (hk : k ∈ f.kinds)
    {feature : Feature} (hf : f.appliesTo feature) : feature ∈ k.features := by
  have hall : ∀ k ∈ f.kinds, ∀ feature ∈ f.features, feature ∈ k.features := by
    cases f <;> decide
  exact hall k hk feature (by simpa [appliesTo] using hf)

namespace FacetHolder

/-- The facets are of kinds that an element of the feature can have, of each kind at most one, each
is in the place of its kind, and each refers to the element. -/
structure Fits (h : FacetHolder) (element : Identifier) (feature : Feature) : Prop where
  owner : h.owner = element
  kinds : ∀ k, h.contains k → feature ∈ k.features
  filed : ∀ k f, h.get? k = some f → f.kind = k ∧ f.owner = element
  once : (h.toList.map Facet.kind).Nodup

theorem map_kind_toList {h : FacetHolder} (hfiled : h.IsFiled) :
    h.toList.map Facet.kind = Facet.Kind.all.filter h.contains := by
  rw [toList, List.map_filterMap, ← List.filterMap_eq_filter]
  refine List.filterMap_congr fun k _ => ?_
  cases hk : h.get? k with
  | none => simp [contains, hk, Option.guard]
  | some f => simp [contains, hk, Option.guard, (hfiled k f hk).1]

end FacetHolder

namespace Analysis

variable {a b : Analysis}

/-- What the factories for a feature attach to an element without facets fits the element. -/
theorem Progress.fits {model : ProgrammingModel} {feature : Feature} {element : Identifier}
    (h : Progress ((model.factoriesFor feature).flatMap Factory.kinds) a b)
    (ha : a.facets = .empty element) : b.facets.Fits element feature where
  owner := by rw [h.owner, ha]; rfl
  kinds k hk := by
    by_contra hplace
    have hno : k ∉ (model.factoriesFor feature).flatMap Factory.kinds := by
      intro hmem
      obtain ⟨f, hf, hkind⟩ := List.mem_flatMap.mp hmem
      exact hplace (f.mem_features_of_mem_kinds hkind (List.mem_filter.mp hf).2)
    rw [FacetHolder.contains, h.facets k hno, ha] at hk
    exact absurd hk (by simp)
  filed k f hf := by
    have hfiled := h.filed (ha ▸ FacetHolder.isFiled_empty element) k f hf
    rwa [h.owner, ha] at hfiled
  once := by
    have hnodup : Facet.Kind.all.Nodup := by decide
    rw [FacetHolder.map_kind_toList (h.filed (ha ▸ FacetHolder.isFiled_empty element))]
    exact hnodup.filter _

/-- Every factory has its turn, and what is there after it stays. -/
theorem exists_turn {step : Analysis → Factory → Analysis}
    (hprogress : ∀ a f, Progress f.kinds a (step a f)) {factories : List Factory} {f : Factory}
    (hf : f ∈ factories) (a : Analysis) :
    ∃ b, ∀ k, (step b f).facets.contains k → (factories.foldl step a).facets.contains k := by
  obtain ⟨before, after, rfl⟩ := List.append_of_mem hf
  refine ⟨before.foldl step a, fun k hk => ?_⟩
  rw [List.foldl_append, List.foldl_cons]
  exact (ProgrammingModel.progress_foldl hprogress after _).keeps k hk

/-- A facet is not there in the end unless one of the factories had a reason for it. -/
theorem contains_foldl {step : Analysis → Factory → Analysis} {k : Facet.Kind} {reason : Prop}
    (hstep : ∀ a f, (step a f).facets.contains k → a.facets.contains k ∨ reason)
    (factories : List Factory) {a : Analysis}
    (h : (factories.foldl step a).facets.contains k) : a.facets.contains k ∨ reason := by
  induction factories generalizing a with
  | nil => exact .inl h
  | cons f factories ih => exact (ih h).elim (hstep a f) .inr

/-! ### Facets that are always there -/

variable (env : Environment) (m : MemberContext) (a)

theorem contains_attach (d : Facet.Data) : (a.attach d).facets.contains d.kind :=
  a.facets.contains_put_self ⟨_, _, d⟩

theorem contains_attachDerived (d : Facet.Data) : (a.attachDerived d).facets.contains d.kind :=
  a.facets.contains_put_self ⟨_, _, d⟩

theorem contains_attachDerivedIfAbsent (d : Facet.Data) :
    (a.attachDerivedIfAbsent d).facets.contains d.kind := by
  unfold attachDerivedIfAbsent FacetHolder.attachDerivedIfAbsent
  split
  · assumption
  · exact a.contains_attachDerived d

theorem contains_mandatory (annotations : List Annotation) (type : TypeRef) :
    (a.mandatory env annotations type).facets.contains .mandatory := by
  unfold mandatory
  split
  · split
    · exact a.contains_attachDerived (.mandatory true)
    · exact a.contains_attach (.mandatory false)
  · split
    · exact a.contains_attach (.mandatory true)
    · exact a.contains_attachDerived (.mandatory true)

/-- A property that nothing changes is disabled. -/
theorem contains_attachSetter (modify setter : Option Method) :
    (a.attachSetter modify setter).facets.contains .propertySetter ∨
      (a.attachSetter modify setter).facets.contains .disabled := by
  cases modify with
  | some s => exact .inl (a.contains_attach (.propertySetter _))
  | none =>
    cases setter with
    | some s => exact .inl (a.contains_attach (.propertySetter _))
    | none => exact .inr (a.contains_attachDerivedIfAbsent (.disabled _))

theorem contains_propertySetAndClear :
    (a.propertySetAndClear m).facets.contains .propertySetter ∨
      (a.propertySetAndClear m).facets.contains .disabled := by
  rw [facets_propertySetAndClear]
  have hkeeps := fun b clear setter => (progress_attachClearing b clear setter).keeps
  exact (a.contains_attachSetter _ _).imp (hkeeps _ _ _ _) (hkeeps _ _ _ _)

theorem contains_collectionChange (word : String) (accept : Method → Bool)
    (facet : Facet.Mutation → Facet.Data) {k : Facet.Kind}
    (hfacet : ∀ change, (facet change).kind = k) :
    (a.collectionChange m word accept facet).facets.contains k := by
  unfold collectionChange
  split
  · exact hfacet _ ▸ contains_attach _ _
  · exact hfacet _ ▸ contains_attachDerived _ _

/-- A collection is changed by its own methods or through its accessor, but in each of the three
ways. -/
theorem contains_collectionChanges :
    (a.collectionChanges m).facets.contains .collectionAddTo ∧
      (a.collectionChanges m).facets.contains .collectionRemoveFrom ∧
      (a.collectionChanges m).facets.contains .collectionClear := by
  let accept := takesElement a.facets.elementType?
  let added := a.collectionChange m "addTo" accept .collectionAddTo
  let removed := added.collectionChange m "removeFrom" accept .collectionRemoveFrom
  have hremoved : Progress [.collectionRemoveFrom] added removed :=
    progress_collectionChange m added _ _ (by simp)
  have hcleared : Progress [.collectionClear] removed (a.collectionChanges m) :=
    progress_collectionChange m removed _ _ (by simp)
  have hadd := a.contains_collectionChange m "addTo" accept .collectionAddTo fun _ => rfl
  have hremove :=
    added.contains_collectionChange m "removeFrom" accept .collectionRemoveFrom fun _ => rfl
  have hclear :=
    removed.contains_collectionChange m "clear" Method.hasNoParameters .collectionClear
      fun _ => rfl
  exact ⟨hcleared.keeps _ (hremoved.keeps _ hadd), hcleared.keeps _ hremove, hclear⟩

/-! ### Facets that are there for a reason -/

/-- An action has a type of elements if it returns a collection, or if one is declared. -/
theorem reason_of_typeOf {m : MemberContext} (hfeature : m.feature = .action)
    (h : (a.elementType env m).facets.contains .typeOf) :
    a.facets.contains .typeOf ∨ env.isCollectionType m.method.returnType.name ∨
      ∃ t, declaredElement? m.method = some (.ok t) := by
  have hinferred {b : Analysis} (hb : (b.inferredElement env m).facets.contains .typeOf) :
      b.facets.contains .typeOf ∨ env.isCollectionType m.method.returnType.name := by
    by_cases hcollection : env.isCollectionType m.method.returnType.name
    · exact .inr hcollection
    · rw [inferredElement, if_pos ⟨hfeature, by simpa using hcollection⟩] at hb
      exact .inl hb
  unfold elementType at h
  split at h
  · exact (hinferred h).imp id .inl
  · exact .inr (.inr ⟨_, ‹_›⟩)
  · exact (hinferred h).imp id .inl

/-- The hidden elements of what an action returns are filtered out if that is a collection. -/
theorem reason_of_filterVisibility {m : MemberContext} (hfeature : m.feature = .action)
    (h : (a.filtered env m).facets.contains .filterVisibility) :
    a.facets.contains .filterVisibility ∨ env.isCollectionType m.method.returnType.name := by
  unfold filtered at h
  split at h
  · rename_i hfiltered
    exact .inr (hfiltered.2.resolve_left (by simp [hfeature]))
  · exact .inl h

end Analysis

/-! ### Complete members -/

namespace Member

/-- It is said of the property how it is read, whether it can be empty, and how it is changed or
that it is not. -/
structure IsCompleteProperty (x : Member) : Prop where
  accessor : x.facets.contains .propertyAccessor
  mandatory : x.facets.contains .mandatory
  changed : x.facets.contains .propertySetter ∨ x.facets.contains .disabled

/-- It is said of the collection how it is read and how it is changed. -/
structure IsCompleteCollection (x : Member) : Prop where
  accessor : x.facets.contains .collectionAccessor
  addTo : x.facets.contains .collectionAddTo
  removeFrom : x.facets.contains .collectionRemoveFrom
  clear : x.facets.contains .collectionClear

/-- It is said of the action that the method is how it is invoked and of each of its parameters
whether it is needed; what it says about elements it says for a reason. -/
structure IsCompleteAction (env : Environment) (m : Method) (x : Member) : Prop where
  invocation : x.facets.contains .actionInvocation
  parameters : Introspection.HasParametersOf m x
  mandatory : ∀ q ∈ x.parameters, q.facets.contains .mandatory
  element : x.facets.contains .typeOf → env.isCollectionType m.returnType.name ∨
    ∃ t, Analysis.declaredElement? m = some (.ok t)
  filtered : x.facets.contains .filterVisibility → env.isCollectionType m.returnType.name

end Member

namespace Introspection

open Analysis (Progress)

variable {model : ProgrammingModel} {env : Environment} {c : Class} {m : MemberContext}

theorem fits_member (a : Analysis) :
    (member model env m a).1.facets.Fits (.ofMember m.owner.name m.id) m.feature :=
  (model.progress_analyseMember env _ m).fits rfl

theorem fits_specification (model : ProgrammingModel) (env : Environment) (c : Class) :
    ((ofClass model env c).specification c).facets.Fits (.ofClass c.name) .object :=
  (model.progress_analyseClass env (start c) c).fits rfl

theorem fits_parametersFrom {index : Nat} {ps : List Parameter} {a : Analysis}
    {q : ActionParameter} (hq : q ∈ (parametersFrom model env m index ps a).1) :
    q.facets.Fits (.ofParameter m.owner.name m.id q.index) .parameter := by
  induction ps generalizing index a with
  | nil => cases hq
  | cons p ps ih =>
    rcases List.mem_cons.mp hq with rfl | hq
    · exact (model.progress_analyseParameter env _ _).fits rfl
    · exact ih hq

theorem contains_mandatory_parametersFrom
    (hfactory : Factory.mandatory ∈ model.factoriesFor .parameter) {index : Nat}
    {ps : List Parameter} {a : Analysis} {q : ActionParameter}
    (hq : q ∈ (parametersFrom model env m index ps a).1) : q.facets.contains .mandatory := by
  induction ps generalizing index a with
  | nil => cases hq
  | cons p ps ih =>
    rcases List.mem_cons.mp hq with rfl | hq
    · let context : ParameterContext := ⟨m.owner, m.method, m.id, index, p⟩
      obtain ⟨b, hstays⟩ := Analysis.exists_turn (fun a f => f.progress_onParameter env context a)
        hfactory (a.turnTo (.ofParameter m.owner.name m.id index))
      exact hstays _ (b.contains_mandatory env p.annotations p.type)
    · exact ih hq

/-- What a factory attaches to a member in its turn is there in the end. -/
theorem exists_turn_member (env : Environment) {f : Factory}
    (hf : f ∈ model.factoriesFor m.feature) (a : Analysis) :
    ∃ b, ∀ k, (f.onMember env m b).facets.contains k →
      (member model env m a).1.facets.contains k :=
  Analysis.exists_turn (fun a f => f.progress_onMember env m a) hf
    (a.turnTo (.ofMember m.owner.name m.id))

/-- **Every property is complete.** -/
theorem isCompleteProperty_member (hfeature : m.feature = .property) (a : Analysis) :
    (member .standard env m a).1.IsCompleteProperty := by
  have hturn : ∀ f ∈ [Factory.propertyAccessor, .mandatory, .propertySetAndClear],
      ∃ b, ∀ k, (f.onMember env m b).facets.contains k →
        (member .standard env m a).1.facets.contains k := by
    refine fun f hf => exists_turn_member env ?_ a
    rw [hfeature]
    exact (by decide +kernel : ∀ f ∈ [Factory.propertyAccessor, .mandatory, .propertySetAndClear],
      f ∈ ProgrammingModel.standard.factoriesFor .property) f hf
  simp only [List.forall_mem_cons] at hturn
  obtain ⟨⟨b₁, haccessor⟩, ⟨b₂, hmandatory⟩, ⟨b₃, hchange⟩, -⟩ := hturn
  exact {
    accessor := haccessor _ (b₁.contains_attach (.propertyAccessor _))
    mandatory := hmandatory _ (b₂.contains_mandatory env _ _)
    changed := (b₃.contains_propertySetAndClear m).imp (hchange _) (hchange _) }

/-- **Every collection is complete.** -/
theorem isCompleteCollection_member (hfeature : m.feature = .collection) (a : Analysis) :
    (member .standard env m a).1.IsCompleteCollection := by
  have hturn : ∀ f ∈ [Factory.collectionAccessor, .collectionAddRemoveClear],
      ∃ b, ∀ k, (f.onMember env m b).facets.contains k →
        (member .standard env m a).1.facets.contains k := by
    refine fun f hf => exists_turn_member env ?_ a
    rw [hfeature]
    exact (by decide +kernel : ∀ f ∈ [Factory.collectionAccessor, .collectionAddRemoveClear],
      f ∈ ProgrammingModel.standard.factoriesFor .collection) f hf
  simp only [List.forall_mem_cons] at hturn
  obtain ⟨⟨b₁, haccessor⟩, ⟨b₂, hchanges⟩, -⟩ := hturn
  obtain ⟨hadd, hremove, hclear⟩ := b₂.contains_collectionChanges m
  exact {
    accessor := haccessor _ (b₁.contains_attach (.collectionAccessor _))
    addTo := hchanges _ hadd
    removeFrom := hchanges _ hremove
    clear := hchanges _ hclear }

/-- A facet of an action is there for the reason that its factory had. -/
theorem reason_of_contains_member {k : Facet.Kind} {reason : Prop} (a : Analysis)
    (hstep : ∀ b, ∀ f : Factory, k ∈ f.kinds → (f.onMember env m b).facets.contains k →
      b.facets.contains k ∨ reason)
    (h : (member model env m a).1.facets.contains k) : reason := by
  refine (Analysis.contains_foldl (fun b f hk => ?_) (model.factoriesFor m.feature) h).resolve_left
    (by simp [Analysis.turnTo, FacetHolder.contains])
  by_cases hkind : k ∈ f.kinds
  · exact hstep b f hkind hk
  · rw [FacetHolder.contains, (f.progress_onMember env m b).facets k hkind] at hk
    exact .inl hk

/-- **Every action is complete.** -/
theorem isCompleteAction_member (hfeature : m.feature = .action) (a : Analysis) :
    (member .standard env m a).1.IsCompleteAction env m.method := by
  have hinvocation : Factory.actionInvocation ∈
      ProgrammingModel.standard.factoriesFor m.feature := by
    rw [hfeature]
    decide +kernel
  obtain ⟨b, hstays⟩ := exists_turn_member env hinvocation a
  exact {
    invocation := hstays _ (b.contains_attach (.actionInvocation _ _))
    parameters := hasParametersOf_member fun hne => absurd hfeature hne
    mandatory := fun q hq => contains_mandatory_parametersFrom (by decide +kernel) hq
    element := reason_of_contains_member a fun b f hkind hk => by
      rcases f.typeOf_mem_kinds_iff.mp hkind with rfl | rfl
      · exact .inl hk
      · exact b.reason_of_typeOf env hfeature hk
    filtered := reason_of_contains_member a fun b f hkind hk => by
      obtain rfl : f = .filterVisibility := by cases f <;> simp [Factory.kinds] at hkind ⊢
      exact b.reason_of_filterVisibility env hfeature hk }

/-! ### Complete specifications -/

/-- A member of a specification is what the analysis made of a method of its class. -/
theorem exists_context_of_mem_members {x : Member}
    (h : x ∈ ((ofClass model env c).specification c).members) :
    ∃ m : MemberContext, m.owner = c ∧ m.method ∈ c.methods ∧
      ∃ a, x = (member model env m a).1 := by
  obtain ⟨found, hfound, rfl⟩ := List.mem_map.mp ((perm_members model env c).subset h)
  obtain ⟨m, hm, howner, a, hx⟩ := madeOf_members model env c found hfound
  exact ⟨m, howner, mem_methods_of_mem_ofClass hm, a, hx⟩

theorem feature_of_mem_membersOf {members : List (Nat × Member)} {feature : Feature} {x : Member}
    (h : x ∈ membersOf members feature) : x.feature = feature := by
  simpa using (List.mem_filter.mp (List.mem_mergeSort.mp h)).2

/-- Members are listed by their features. -/
theorem feature_specification (model : ProgrammingModel) (env : Environment) (c : Class) :
    (∀ x ∈ ((ofClass model env c).specification c).properties, x.feature = .property) ∧
    (∀ x ∈ ((ofClass model env c).specification c).collections, x.feature = .collection) ∧
    ∀ x ∈ ((ofClass model env c).specification c).actions, x.feature = .action :=
  ⟨fun _ => feature_of_mem_membersOf, fun _ => feature_of_mem_membersOf,
    fun _ => feature_of_mem_membersOf⟩

/-- An action is called like its method. -/
theorem id_of_mem_actions {x : Member}
    (h : x ∈ ((ofClass model env c).specification c).actions) : x.method = x.id := by
  obtain ⟨index, h⟩ := mem_membersOf h
  obtain ⟨m, -, -, hid, hmethod, -⟩ := isAction_of_mem_actions model env c h
  rw [hid, hmethod]

/-- **Every specification is complete, and all its facets are in their place.** Each property is
complete, and so is each collection and each action, which has the parameters of its method. The
facets of the class, of each member and of each parameter are of kinds that such an element can
have, of each kind at most one, filed under its own kind, and each refers to the very class, member
or parameter that it sits on. -/
theorem complete_specification (env : Environment) (c : Class) :
    let s := (ofClass .standard env c).specification c
    s.facets.Fits (.ofClass c.name) .object ∧
    (∀ x ∈ s.properties, x.facets.Fits (.ofMember c.name x.id) .property ∧
      x.IsCompleteProperty ∧ x.parameters = []) ∧
    (∀ x ∈ s.collections, x.facets.Fits (.ofMember c.name x.id) .collection ∧
      x.IsCompleteCollection ∧ x.parameters = []) ∧
    ∀ x ∈ s.actions, x.facets.Fits (.ofMember c.name x.id) .action ∧
      (∃ m ∈ c.methods, m.name = x.id ∧ m.returnType = x.type ∧ x.IsCompleteAction env m) ∧
      ∀ q ∈ x.parameters, q.facets.Fits (.ofParameter c.name x.id q.index) .parameter := by
  obtain ⟨hproperty, hcollection, haction⟩ := feature_specification .standard env c
  refine ⟨fits_specification .standard env c, fun x hx => ?_, fun x hx => ?_, fun x hx => ?_⟩
  · obtain ⟨m, rfl, -, a, rfl⟩ :=
      exists_context_of_mem_members (List.mem_append_left _ (List.mem_append_left _ hx))
    have hfeature : m.feature = .property := hproperty _ hx
    refine ⟨hfeature ▸ fits_member a, isCompleteProperty_member hfeature a, ?_⟩
    simp [member, hfeature, parametersFrom]
  · obtain ⟨m, rfl, -, a, rfl⟩ :=
      exists_context_of_mem_members (List.mem_append_left _ (List.mem_append_right _ hx))
    have hfeature : m.feature = .collection := hcollection _ hx
    refine ⟨hfeature ▸ fits_member a, isCompleteCollection_member hfeature a, ?_⟩
    simp [member, hfeature, parametersFrom]
  · obtain ⟨m, rfl, hm, a, rfl⟩ := exists_context_of_mem_members (List.mem_append_right _ hx)
    have hfeature : m.feature = .action := haction _ hx
    exact ⟨hfeature ▸ fits_member a,
      ⟨m.method, hm, id_of_mem_actions hx, rfl, isCompleteAction_member hfeature a⟩,
      fun q hq => fits_parametersFrom hq⟩

end Introspection
end Facetry
