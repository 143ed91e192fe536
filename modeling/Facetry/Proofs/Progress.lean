/-
# How an analysis goes on

Whatever a factory does, it does in four ways: it attaches facets, it claims
methods, it reports problems, or it leaves things alone. So an analysis only
goes on (`Analysis.Progress`): the element stays, facets change within the kinds
that belong to the factory (`Factory.kinds`), where one may be replaced but none is
lost, methods leave the pool and never come back, and problems are added at the end.
Every facet is filed under its own kind and refers to the element (`FacetHolder.IsFiled`).
What is added are problems of the element (`Problem.isOfElement`); that members or classes
do not go together is for validators to say.

Key definitions: `Problem.isOfElement`, `FacetHolder.IsFiled`, `Analysis.Progress`,
`Factory.kinds`.
Key theorems: `Factory.progress_onClass`, `Factory.progress_onMember`,
`Factory.progress_onParameter`, `ProgrammingModel.progress_analyseClass`,
`ProgrammingModel.progress_analyseMember`, `ProgrammingModel.progress_analyseParameter`.
-/
import Facetry.ProgrammingModel

namespace Facetry

/-- Whether the problem shows when an element is analysed; the others show when members or classes
are compared. -/
def Problem.isOfElement : Problem → Bool
  | duplicateMember _ _ | orphanedMethod _ | sharedObjectType _ _ => false
  | _ => true

namespace FacetHolder

/-- Every facet is in the place of its kind, and refers to what the holder belongs to. -/
def IsFiled (h : FacetHolder) : Prop :=
  ∀ k f, h.get? k = some f → f.kind = k ∧ f.owner = h.owner

theorem isFiled_empty (owner : Identifier) : (empty owner).IsFiled :=
  fun _ _ h => absurd h (Option.some_ne_none _).symm

theorem IsFiled.put {h : FacetHolder} (hfiled : h.IsFiled) {f : Facet}
    (howner : f.owner = h.owner) : (h.put f).IsFiled := by
  intro k g hg
  rw [get?_put] at hg
  split at hg
  · obtain rfl := Option.some.inj hg
    exact ⟨Eq.symm ‹_›, howner⟩
  · exact hfiled k g hg

theorem contains_put_self (h : FacetHolder) (f : Facet) : (h.put f).contains f.kind := by
  simp [contains]

theorem contains_put_of_ne (h : FacetHolder) {f : Facet} {k : Facet.Kind} (hne : k ≠ f.kind) :
    (h.put f).contains k = h.contains k := by
  simp [contains, get?_put, hne]

theorem contains_put (h : FacetHolder) (f : Facet) {k : Facet.Kind} (hk : h.contains k) :
    (h.put f).contains k := by
  by_cases heq : k = f.kind
  · exact heq ▸ h.contains_put_self f
  · rwa [h.contains_put_of_ne heq]

end FacetHolder

namespace Analysis

open Facet (Kind Data)

/-- `b` is `a` some steps later, of which none touched a facet of another kind than these. -/
structure Progress (kinds : List Kind) (a b : Analysis) : Prop where
  owner : b.facets.owner = a.facets.owner
  facets : ∀ k, k ∉ kinds → b.facets.get? k = a.facets.get? k
  keeps : ∀ k, a.facets.contains k → b.facets.contains k
  filed : a.facets.IsFiled → b.facets.IsFiled
  pool : b.pool.unclaimed.Sublist a.pool.unclaimed
  failures : a.failures <+: b.failures
  problems : ∀ f ∈ b.failures, f ∈ a.failures ∨ f.problem.isOfElement

namespace Progress

variable {kinds : List Kind} {a b c : Analysis}

theorem refl (a : Analysis) : Progress kinds a a :=
  ⟨rfl, fun _ _ => rfl, fun _ => id, id, List.Sublist.refl _, List.prefix_refl _, fun _ => .inl⟩

theorem trans (h : Progress kinds a b) (h' : Progress kinds b c) : Progress kinds a c where
  owner := h'.owner.trans h.owner
  facets k hk := (h'.facets k hk).trans (h.facets k hk)
  keeps k hk := h'.keeps k (h.keeps k hk)
  filed ha := h'.filed (h.filed ha)
  pool := h'.pool.trans h.pool
  failures := h.failures.trans h'.failures
  problems f hf := (h'.problems f hf).elim (h.problems f) .inr

theorem mono {more : List Kind} (h : Progress kinds a b) (hsub : ∀ k ∈ kinds, k ∈ more) :
    Progress more a b :=
  { h with facets := fun k hk => h.facets k fun hmem => hk (hsub k hmem) }

/-! ### The steps -/

theorem put (h : Progress kinds a b) {f : Facet} (hf : f.kind ∈ kinds)
    (howner : f.owner = b.facets.owner) :
    Progress kinds a { b with facets := b.facets.put f } where
  owner := h.owner
  facets k hk := by
    have hne : k ≠ f.kind := fun heq => hk (heq ▸ hf)
    rw [FacetHolder.get?_put, if_neg hne]
    exact h.facets k hk
  keeps k hk := b.facets.contains_put f (h.keeps k hk)
  filed ha := (h.filed ha).put howner
  pool := h.pool
  failures := h.failures
  problems := h.problems

theorem attach (h : Progress kinds a b) {d : Data} (hd : d.kind ∈ kinds) :
    Progress kinds a (b.attach d) :=
  h.put (f := ⟨_, _, _⟩) hd rfl

theorem attachDerived (h : Progress kinds a b) {d : Data} (hd : d.kind ∈ kinds) :
    Progress kinds a (b.attachDerived d) :=
  h.put (f := ⟨_, _, _⟩) hd rfl

theorem attachIfAbsent (h : Progress kinds a b) {d : Data} (hd : d.kind ∈ kinds) :
    Progress kinds a (b.attachIfAbsent d) := by
  unfold Analysis.attachIfAbsent FacetHolder.attachIfAbsent
  split
  · exact h
  · exact h.attach hd

theorem attachDerivedIfAbsent (h : Progress kinds a b) {d : Data} (hd : d.kind ∈ kinds) :
    Progress kinds a (b.attachDerivedIfAbsent d) := by
  unfold Analysis.attachDerivedIfAbsent FacetHolder.attachDerivedIfAbsent
  split
  · exact h
  · exact h.attachDerived hd

theorem report (h : Progress kinds a b) {p : Problem} (hp : p.isOfElement) :
    Progress kinds a (b.report p) :=
  { h with
    failures := h.failures.trans (List.prefix_append ..)
    problems := fun f hf => by
      rcases List.mem_append.mp hf with hf | hf
      · exact h.problems f hf
      · rw [List.mem_singleton.mp hf]
        exact .inr hp }

theorem take (h : Progress kinds a b) (name : String) (accept : Method → Bool) :
    Progress kinds a (b.take name accept).2 :=
  { h with pool := (b.pool.sublist_take name accept).trans h.pool }

theorem of_take (h : Progress kinds a b) {name : String} {accept : Method → Bool}
    {m : Option Method} (htake : b.take name accept = (m, c)) : Progress kinds a c := by
  have := h.take name accept
  rwa [htake] at this

theorem attachClaimed (h : Progress kinds a b) (name : String) (accept : Method → Bool)
    {facet : Method → Data} (hfacet : ∀ m, (facet m).kind ∈ kinds) :
    Progress kinds a (b.attachClaimed name accept facet) := by
  unfold Analysis.attachClaimed
  split
  · rename_i m c hc
    exact (h.of_take hc).attach (hfacet m)
  · rename_i c hc
    exact h.of_take hc

end Progress

/-! ### Presentation -/

variable (env : Environment) (c : Class) (m : MemberContext) (p : ParameterContext) (a : Analysis)

theorem progress_localized {kinds : List Kind} (annotations : List Annotation) (simpleName : String)
    {facet : String → Data} (hfacet : ∀ text, (facet text).kind ∈ kinds) :
    Progress kinds a (a.localized env c annotations simpleName facet) := by
  unfold localized
  split
  · exact (Progress.refl a).attach (hfacet _)
  · exact .refl a

theorem progress_objectType : Progress [.objectSpecId] a (a.objectType c) := by
  unfold objectType
  split
  · exact (Progress.refl a).attach (by simp)
  · split
    · exact .refl a
    · exact (Progress.refl a).attachDerived (by simp)

theorem progress_iconName : Progress [.iconName] a a.iconName :=
  (Progress.refl a).attachClaimed _ _ fun _ => by simp

theorem progress_layout : Progress [.grid] a (a.layout env c) := by
  unfold layout
  split
  · exact (Progress.refl a).attach (by simp)
  · exact .refl a

/-! ### Nature -/

theorem progress_attachValueKind (kind : Value.Kind) :
    Progress [.value, .title] a (a.attachValueKind kind) :=
  ((Progress.refl a).attach (by simp)).attachDerived (by simp)

theorem progress_valueClass : Progress [.value, .title] a (a.valueClass c) := by
  unfold valueClass
  split
  · split
    · exact progress_attachValueKind a _
    · exact (Progress.refl a).report rfl
  · split
    · exact progress_attachValueKind a _
    · exact .refl a

theorem progress_collectionClass :
    Progress [.collectionType, .typeOf] a (a.collectionClass env c) := by
  unfold collectionClass
  split
  · split
    · exact ((Progress.refl a).attach (by simp)).attachDerived (by simp)
    · exact (Progress.refl a).attach (by simp)
  · exact .refl a

theorem progress_immutableClass : Progress [.immutable] a (a.immutableClass c) := by
  unfold immutableClass
  split
  · exact (Progress.refl a).attach (by simp)
  · exact .refl a

theorem progress_notPersistableClass :
    Progress [.notPersistable] a (a.notPersistableClass c) := by
  unfold notPersistableClass
  split
  · exact ((Progress.refl a).attach (by simp)).report rfl
  · exact .refl a

/-! ### Titles -/

theorem progress_titleFromMembers : Progress [.title] a a.titleFromMembers := by
  unfold titleFromMembers
  simp only
  split
  · exact .refl a
  · exact (Progress.refl a).attach (by simp)

theorem progress_titleFromMethod : Progress [.title] a a.titleFromMethod := by
  unfold titleFromMethod
  split
  · rename_i b htake
    exact ((Progress.refl a).of_take htake).attachIfAbsent (by simp)
  · rename_i b htake
    have h : Progress [.title] a b := (Progress.refl a).of_take htake
    split
    · exact h.attachDerivedIfAbsent (by simp)
    · exact h

/-! ### Visibility -/

theorem progress_memberOrder : Progress [.memberOrder] a (a.memberOrder m) := by
  unfold memberOrder
  split
  · exact .refl a
  · split
    · exact (Progress.refl a).attach (by simp)
    · exact (Progress.refl a).report rfl

theorem progress_hidden (annotations : List Annotation) :
    Progress [.hidden] a (a.hidden annotations) := by
  unfold hidden
  split
  · exact .refl a
  · split
    · exact (Progress.refl a).attach (by simp)
    · split
      · exact (Progress.refl a).attach (by simp)
      · exact (Progress.refl a).report rfl

theorem progress_disabled : Progress [.disabled] a (a.disabled m) := by
  unfold disabled
  split
  · exact (Progress.refl a).attach (by simp)
  · split
    · exact (Progress.refl a).attachDerived (by simp)
    · exact .refl a

theorem progress_hideMethod : Progress [.hideForContext] a (a.hideMethod m) :=
  (Progress.refl a).attachClaimed _ _ fun _ => by simp

theorem progress_disableMethod : Progress [.disableForContext] a (a.disableMethod m) :=
  (Progress.refl a).attachClaimed _ _ fun _ => by simp

theorem progress_filtered : Progress [.filterVisibility] a (a.filtered env m) := by
  unfold filtered
  split
  · exact (Progress.refl a).attach (by simp)
  · exact .refl a

/-! ### Editing -/

theorem progress_propertyAccessor : Progress [.propertyAccessor] a (a.propertyAccessor m) :=
  (Progress.refl a).attach (by simp)

theorem progress_attachSetter (modify setter : Option Method) :
    Progress [.propertySetter, .disabled] a (a.attachSetter modify setter) := by
  unfold attachSetter
  split
  · exact (Progress.refl a).attach (by simp)
  · exact (Progress.refl a).attach (by simp)
  · exact (Progress.refl a).attachDerivedIfAbsent (by simp)

theorem progress_attachClearing (clear setter : Option Method) :
    Progress [.propertyClear] a (a.attachClearing clear setter) := by
  unfold attachClearing
  split
  · exact (Progress.refl a).attach (by simp)
  · exact (Progress.refl a).attachDerived (by simp)
  · exact .refl a

theorem progress_propertySetAndClear :
    Progress [.propertySetter, .disabled, .propertyClear] a (a.propertySetAndClear m) := by
  unfold propertySetAndClear
  refine Progress.trans ?_ ((progress_attachClearing _ _ _).mono (by simp))
  refine Progress.take ?_ _ _
  refine Progress.trans ?_ ((progress_attachSetter _ _ _).mono (by simp))
  exact ((Progress.refl a).take _ _).take _ _

theorem progress_collectionAccessor :
    Progress [.collectionAccessor] a (a.collectionAccessor m) :=
  (Progress.refl a).attach (by simp)

theorem progress_inferredElement : Progress [.typeOf] a (a.inferredElement env m) := by
  unfold inferredElement
  split
  · exact .refl a
  · split
    · exact (Progress.refl a).attachDerived (by simp)
    · exact .refl a

theorem progress_elementType : Progress [.typeOf] a (a.elementType env m) := by
  unfold elementType
  split
  · exact progress_inferredElement env m a
  · exact (Progress.refl a).attach (by simp)
  · exact ((Progress.refl a).report rfl).trans (progress_inferredElement env m _)

theorem progress_collectionChange {kinds : List Kind} (word : String) (accept : Method → Bool)
    {facet : Facet.Mutation → Data} (hfacet : ∀ mutation, (facet mutation).kind ∈ kinds) :
    Progress kinds a (a.collectionChange m word accept facet) := by
  unfold collectionChange
  split
  · exact ((Progress.refl a).of_take ‹_›).attach (hfacet _)
  · exact ((Progress.refl a).of_take ‹_›).attachDerived (hfacet _)

theorem progress_collectionChanges :
    Progress [.collectionAddTo, .collectionRemoveFrom, .collectionClear] a
      (a.collectionChanges m) := by
  unfold collectionChanges
  simp only
  refine Progress.trans ?_ (progress_collectionChange m _ _ _ (by simp))
  refine Progress.trans ?_ (progress_collectionChange m _ _ _ (by simp))
  exact progress_collectionChange m a _ _ (by simp)

theorem progress_actionInvocation : Progress [.actionInvocation] a (a.actionInvocation m) :=
  (Progress.refl a).attach (by simp)

/-! ### Rules -/

theorem progress_mandatory (annotations : List Annotation) (type : TypeRef) :
    Progress [.mandatory] a (a.mandatory env annotations type) := by
  unfold mandatory
  split
  · split
    · exact ((Progress.refl a).attachDerived (by simp)).report rfl
    · exact (Progress.refl a).attach (by simp)
  · split
    · exact (Progress.refl a).attach (by simp)
    · exact (Progress.refl a).attachDerived (by simp)

theorem progress_maxLength (annotations : List Annotation) :
    Progress [.maxLength] a (a.maxLength annotations) := by
  unfold maxLength
  split
  · exact .refl a
  · split
    · exact (Progress.refl a).attach (by simp)
    · exact (Progress.refl a).report rfl

theorem progress_pattern (annotations : List Annotation) (type : TypeRef) :
    Progress [.regEx] a (a.pattern annotations type) := by
  unfold pattern
  split
  · split
    · exact .refl a
    · split
      · exact .refl a
      · split
        · exact (Progress.refl a).attach (by simp)
        · exact (Progress.refl a).report rfl
  · exact .refl a

theorem progress_propertyValidation :
    Progress [.propertyValidate] a (a.propertyValidation m) :=
  (Progress.refl a).attachClaimed _ _ fun _ => by simp

theorem progress_collectionValidation :
    Progress [.collectionValidateAddTo, .collectionValidateRemoveFrom] a
      (a.collectionValidation m) :=
  ((Progress.refl a).attachClaimed _ _ fun _ => by simp).attachClaimed _ _
    fun _ => by simp

theorem progress_actionValidation : Progress [.actionValidate] a (a.actionValidation m) :=
  (Progress.refl a).attachClaimed _ _ fun _ => by simp

/-! ### Suggestions -/

theorem progress_search {kinds : List Kind} (name : String) (choices : Kind)
    {facet : String → Nat → Data} (hfacet : ∀ method length, (facet method length).kind ∈ kinds) :
    Progress kinds a (a.search env name choices facet) := by
  unfold search
  split
  · exact (Progress.refl a).of_take ‹_›
  · rename_i s b htake
    have h : Progress kinds a b := (Progress.refl a).of_take htake
    refine Progress.attach ?_ (hfacet _ _)
    split
    · exact h.report rfl
    · exact h

theorem progress_propertyChoices : Progress [.propertyChoices] a (a.propertyChoices m) :=
  (Progress.refl a).attachClaimed _ _ fun _ => by simp

theorem progress_propertySearch : Progress [.autoComplete] a (a.propertySearch env m) :=
  progress_search env a _ _ fun _ _ => by simp

theorem progress_propertyDefault : Progress [.propertyDefault] a (a.propertyDefault m) :=
  (Progress.refl a).attachClaimed _ _ fun _ => by simp

theorem progress_parameterChoices :
    Progress [.actionParameterChoices] a (a.parameterChoices p) :=
  (Progress.refl a).attachClaimed _ _ fun _ => by simp

theorem progress_parameterSearch :
    Progress [.actionParameterAutoComplete] a (a.parameterSearch env p) :=
  progress_search env a _ _ fun _ _ => by simp

theorem progress_parameterDefault :
    Progress [.actionParameterDefaults] a (a.parameterDefault p) :=
  (Progress.refl a).attachClaimed _ _ fun _ => by simp

end Analysis

open Analysis (Progress)

namespace Factory

/-! ### Factories -/

/-- The kinds of the facets that a factory attaches. -/
def kinds : Factory → List Facet.Kind
  | named => [.named]
  | describedAs => [.describedAs]
  | plural => [.plural]
  | objectSpecId => [.objectSpecId]
  | value => [.value, .title]
  | collectionType => [.collectionType, .typeOf]
  | immutable => [.immutable]
  | notPersistable => [.notPersistable]
  | titleAnnotation => [.title]
  | titleMethod => [.title]
  | iconName => [.iconName]
  | grid => [.grid]
  | memberOrder => [.memberOrder]
  | hiddenAnnotation => [.hidden]
  | disabledAnnotation => [.disabled]
  | hideMethod => [.hideForContext]
  | disableMethod => [.disableForContext]
  | propertyAccessor => [.propertyAccessor]
  | propertySetAndClear => [.propertySetter, .disabled, .propertyClear]
  | mandatory => [.mandatory]
  | maxLength => [.maxLength]
  | regex => [.regEx]
  | propertyChoices => [.propertyChoices]
  | propertyAutoComplete => [.autoComplete]
  | propertyDefault => [.propertyDefault]
  | propertyValidate => [.propertyValidate]
  | collectionAccessor => [.collectionAccessor]
  | typeOf => [.typeOf]
  | collectionAddRemoveClear => [.collectionAddTo, .collectionRemoveFrom, .collectionClear]
  | collectionValidate => [.collectionValidateAddTo, .collectionValidateRemoveFrom]
  | filterVisibility => [.filterVisibility]
  | actionInvocation => [.actionInvocation]
  | actionValidate => [.actionValidate]
  | actionParameterChoices => [.actionParameterChoices]
  | actionParameterDefault => [.actionParameterDefaults]
  | actionParameterAutoComplete => [.actionParameterAutoComplete]

/-- **A factory only goes on with the analysis of a class**, within its own kinds. -/
theorem progress_onClass (f : Factory) (env : Environment) (c : Class) (a : Analysis) :
    Progress f.kinds a (f.onClass env c a) := by
  cases f with
  | named => exact a.progress_localized env c _ _ fun _ => by simp [kinds]
  | describedAs => exact a.progress_localized env c _ _ fun _ => by simp [kinds]
  | plural => exact a.progress_localized env c _ _ fun _ => by simp [kinds]
  | objectSpecId => exact a.progress_objectType c
  | value => exact a.progress_valueClass c
  | collectionType => exact a.progress_collectionClass env c
  | immutable => exact a.progress_immutableClass c
  | notPersistable => exact a.progress_notPersistableClass c
  | titleAnnotation => exact a.progress_titleFromMembers
  | titleMethod => exact a.progress_titleFromMethod
  | iconName => exact a.progress_iconName
  | grid => exact a.progress_layout env c
  | hiddenAnnotation => exact a.progress_hidden c.annotations
  | _ => exact .refl a

/-- **A factory only goes on with the analysis of a member**, within its own kinds. -/
theorem progress_onMember (f : Factory) (env : Environment) (m : MemberContext) (a : Analysis) :
    Progress f.kinds a (f.onMember env m a) := by
  cases f with
  | named => exact a.progress_localized env _ _ _ fun _ => by simp [kinds]
  | describedAs => exact a.progress_localized env _ _ _ fun _ => by simp [kinds]
  | memberOrder => exact a.progress_memberOrder m
  | hiddenAnnotation => exact a.progress_hidden m.method.annotations
  | disabledAnnotation => exact a.progress_disabled m
  | hideMethod => exact a.progress_hideMethod m
  | disableMethod => exact a.progress_disableMethod m
  | propertyAccessor => exact a.progress_propertyAccessor m
  | propertySetAndClear => exact a.progress_propertySetAndClear m
  | mandatory => exact a.progress_mandatory env _ _
  | maxLength => exact a.progress_maxLength _
  | regex => exact a.progress_pattern _ _
  | propertyChoices => exact a.progress_propertyChoices m
  | propertyAutoComplete => exact a.progress_propertySearch env m
  | propertyDefault => exact a.progress_propertyDefault m
  | propertyValidate => exact a.progress_propertyValidation m
  | collectionAccessor => exact a.progress_collectionAccessor m
  | typeOf => exact a.progress_elementType env m
  | collectionAddRemoveClear => exact a.progress_collectionChanges m
  | collectionValidate => exact a.progress_collectionValidation m
  | filterVisibility => exact a.progress_filtered env m
  | actionInvocation => exact a.progress_actionInvocation m
  | actionValidate => exact a.progress_actionValidation m
  | _ => exact .refl a

/-- **A factory only goes on with the analysis of a parameter**, within its own kinds. -/
theorem progress_onParameter (f : Factory) (env : Environment) (p : ParameterContext)
    (a : Analysis) : Progress f.kinds a (f.onParameter env p a) := by
  cases f with
  | named => exact a.progress_localized env _ _ _ fun _ => by simp [kinds]
  | describedAs => exact a.progress_localized env _ _ _ fun _ => by simp [kinds]
  | mandatory => exact a.progress_mandatory env _ _
  | maxLength => exact a.progress_maxLength _
  | regex => exact a.progress_pattern _ _
  | actionParameterChoices => exact a.progress_parameterChoices p
  | actionParameterDefault => exact a.progress_parameterDefault p
  | actionParameterAutoComplete => exact a.progress_parameterSearch env p
  | _ => exact .refl a

end Factory

namespace ProgrammingModel

/-! ### Programming models -/

/-- Steps that each go on within the kinds of a factory go on within the kinds of all. -/
theorem progress_foldl {step : Analysis → Factory → Analysis}
    (hstep : ∀ a f, Progress f.kinds a (step a f)) (factories : List Factory) (a : Analysis) :
    Progress (factories.flatMap Factory.kinds) a (factories.foldl step a) := by
  induction factories generalizing a with
  | nil => exact .refl a
  | cons f factories ih =>
    rw [List.flatMap_cons]
    have hfirst : Progress (f.kinds ++ factories.flatMap Factory.kinds) a (step a f) :=
      (hstep a f).mono fun k hk => List.mem_append_left _ hk
    exact hfirst.trans ((ih (step a f)).mono fun k hk => List.mem_append_right _ hk)

variable (model : ProgrammingModel) (env : Environment) (a : Analysis)

theorem progress_analyseClass (c : Class) :
    Progress ((model.factoriesFor .object).flatMap Factory.kinds) a
      (model.analyseClass env c a) :=
  progress_foldl (fun a f => f.progress_onClass env c a) _ a

theorem progress_analyseMember (m : MemberContext) :
    Progress ((model.factoriesFor m.feature).flatMap Factory.kinds) a
      (model.analyseMember env m a) :=
  progress_foldl (fun a f => f.progress_onMember env m a) _ a

theorem progress_analyseParameter (p : ParameterContext) :
    Progress ((model.factoriesFor .parameter).flatMap Factory.kinds) a
      (model.analyseParameter env p a) :=
  progress_foldl (fun a f => f.progress_onParameter env p a) _ a

end ProgrammingModel
end Facetry
