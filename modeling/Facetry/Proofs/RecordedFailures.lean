/-
# Which failures introspection records

A misuse of an annotation does not stop the analysis of a class: the factory that meets it records
a problem with the element at hand. Here each misuse is a condition on the declaration alone, said
without the factory that looks for it: on the annotations of the element, on its type, and, for
rival suggestions, on the facets that the element ends up with.

Every factory records exactly the problems for which it is responsible, whatever was analysed
before (`Analysis.Records`). The search for values is the exception: whether it is a rival depends on
what was claimed for the element before. So its turn is looked at with the factories around it, none
of which touches the two facets in question. The failures of a class are then those of the class
itself, followed by those of its members in the order of their turns.

Key definitions: `Introspection.classProblems`, `Introspection.memberProblems`,
`Introspection.parameterProblems`, `Introspection.memberFailures`, `Analysis.Records`.
Key theorems: `Factory.records_onClass`, `Factory.records_onMember`, `Factory.records_onParameter`,
`Introspection.failures_member`, `Introspection.failures_ofClass`,
`Introspection.failures_as_declared`.
-/
import Facetry.Proofs.PropertyChanges

namespace Facetry

/-! ### Misuses -/

namespace Problem

open Analysis (hiddenPlace? sequence? textClass declaredElement?)

/-- A class is marked with the annotation that is deprecated. -/
def deprecated? (c : Class) : Option Problem :=
  if c.isAnnotated "NotPersistable" then some .deprecatedNotPersistable else none

/-- A class is declared to be one of values, but of no kind or of one that there is not. -/
def unknownKind? (c : Class) : Option Problem := do
  let mark ← c.annotation? "Value"
  match (mark.textAttr? "type").or mark.value? with
  | none => some (.unknownValueKind "")
  | some text =>
    if (Variant.read Value.Kind.choices text).isOk then none else some (.unknownValueKind text)

/-- An element is declared to be hidden in a place that there is not. -/
def unknownPlace? (annotations : List Annotation) : Option Problem := do
  let mark ← Annotation.find? annotations "Hidden"
  let text ← hiddenPlace? mark
  if (Facet.Where.ofText? text).isSome then none else some (.unknownPlace text)

/-- A member is declared to have a place among the others, but it is not said which. -/
def missingSequence? (annotations : List Annotation) : Option Problem := do
  let mark ← Annotation.find? annotations "MemberOrder"
  if (sequence? mark).isSome then none else some .missingSequence

/-- An entry of a primitive type is declared optional. -/
def optionalPrimitive? (env : Environment) (annotations : List Annotation) (type : TypeRef) :
    Option Problem :=
  if Annotation.isPresent annotations "Optional" ∧ env.isPrimitive type.name then
    some (.optionalPrimitive type)
  else none

/-- The declared length of an entry is no number of 32 bits. -/
def badLength? (annotations : List Annotation) : Option Problem := do
  let mark ← Annotation.find? annotations "MaxLength"
  if (mark.natAttr? "value").any (· < Nat.pow 2 32) then none else some .badMaxLength

/-- The pattern declared for a text cannot be read. -/
def badPattern? (annotations : List Annotation) (type : TypeRef) : Option Problem :=
  if type.name = textClass then do
    let mark ← Annotation.find? annotations "RegEx"
    let text ← (mark.textAttr? "validation").or mark.value?
    if (Facet.TextRule.ofText? text ((mark.boolAttr? "caseSensitive").getD true)).isSome
      then none else some (.badPattern text)
  else none

/-- The declared type of the elements is none. -/
def badElement? (m : Method) : Option Problem := do
  match ← declaredElement? m with
  | .ok _ => none
  | .error e => some (.badElementType e)

/-- An element has both choices and a search, by the method of this name. -/
def rivals? (facets : FacetHolder) (choices search : Facet.Kind) (method : String) :
    Option Problem :=
  if facets.contains choices && facets.contains search then some (.choicesAndSearch method)
  else none

end Problem

namespace Introspection

open Problem

/-- The problems with a class itself. -/
def classProblems (c : Class) : List Problem :=
  (unknownKind? c).toList ++ (deprecated? c).toList ++ (unknownPlace? c.annotations).toList

/-- The problems with what may be entered into a property or for a parameter. -/
def entryProblems (env : Environment) (annotations : List Annotation) (type : TypeRef) :
    List Problem :=
  (optionalPrimitive? env annotations type).toList ++ (badLength? annotations).toList ++
    (badPattern? annotations type).toList

/-- The problems with a member of a kind that its method declares. -/
def featureProblems (env : Environment) (m : Method) (x : Member) : Feature → List Problem
  | .property => entryProblems env m.annotations m.returnType ++
      (rivals? x.facets .propertyChoices .autoComplete
        ("autoComplete" ++ Naming.capitalize x.id)).toList
  | .collection | .action => (badElement? m).toList
  | _ => []

/-- The problems with a member that a method has become. -/
def memberProblems (env : Environment) (m : Method) (x : Member) : List Problem :=
  (missingSequence? m.annotations).toList ++ (unknownPlace? m.annotations).toList ++
    featureProblems env m x x.feature

/-- The problems with a parameter, as it is declared and as it is found, of the action with an
id. -/
def parameterProblems (env : Environment) (id : String) (p : Parameter) (q : ActionParameter) :
    List Problem :=
  entryProblems env p.annotations p.type ++
    (rivals? q.facets .actionParameterChoices .actionParameterAutoComplete
      ("autoComplete" ++ Text.natText q.index ++ Naming.capitalize id)).toList

/-- The failures of parameters, each as it is declared and as it is found. -/
def parametersFailures (env : Environment) (className id : String)
    (parameters : List (Parameter × ActionParameter)) : List Failure :=
  parameters.flatMap fun (p, q) =>
    (parameterProblems env id p q).map (Failure.mk (.ofParameter className id q.index))

/-- The failures of a member that a method has become: its own, and those of its parameters. -/
def memberFailures (env : Environment) (className : String) (m : Method) (x : Member) :
    List Failure :=
  (memberProblems env m x).map (Failure.mk (.ofMember className x.id)) ++
    parametersFailures env className x.id (m.parameters.zip x.parameters)

/-- The failures of the member that the method at a place has become. -/
def failuresAt (env : Environment) (c : Class) (found : Nat × Member) : List Failure :=
  c.methods[found.1]?.toList.flatMap fun m => memberFailures env c.name m found.2

end Introspection

/-! ### What a factory records -/

theorem MethodPool.name_of_peek? {p : MethodPool} {name : String} {accept : Method → Bool}
    {m : Method} (h : p.peek? name accept = some m) : m.name = name := by
  obtain ⟨e, he, rfl⟩ := Option.map_eq_some_iff.mp h
  have hmatch := List.find?_some he
  rw [isMatch, Bool.and_eq_true, beq_iff_eq] at hmatch
  exact hmatch.1

namespace Analysis

/-- `b` is `a` some steps later, which looked at the same element and recorded these problems with
it. -/
structure Records (problems : List Problem) (a b : Analysis) : Prop where
  owner : b.facets.owner = a.facets.owner
  failures : b.failures = a.failures ++ problems.map (Failure.mk a.facets.owner)

namespace Records

variable {ps qs : List Problem} {a b c : Analysis}

theorem refl (a : Analysis) : Records [] a a := ⟨rfl, (List.append_nil _).symm⟩

theorem trans (h : Records ps a b) (h' : Records qs b c) : Records (ps ++ qs) a c where
  owner := h'.owner.trans h.owner
  failures := by
    rw [h'.failures, h.failures, h.owner, List.map_append, List.append_assoc]

theorem of_eq (h : Records ps a b) (heq : qs = ps) : Records qs a b := heq ▸ h

theorem foldl {step : Analysis → Factory → Analysis} {problems : Factory → List Problem}
    {fs : List Factory} (hstep : ∀ f ∈ fs, ∀ a, Records (problems f) a (step a f))
    (a : Analysis) : Records (fs.flatMap problems) a (fs.foldl step a) := by
  induction fs generalizing a with
  | nil => exact .refl a
  | cons f fs ih =>
    obtain ⟨hf, hfs⟩ := List.forall_mem_cons.mp hstep
    rw [List.flatMap_cons]
    exact (hf a).trans (ih hfs (step a f))

end Records

section Rules

open Problem

variable (env : Environment) (c : Class) (m : MemberContext) (annotations : List Annotation)
  (type : TypeRef) (a : Analysis)

@[simp] theorem failures_attach (d : Facet.Data) : (a.attach d).failures = a.failures := rfl

@[simp] theorem failures_attachDerived (d : Facet.Data) :
    (a.attachDerived d).failures = a.failures := rfl

@[simp] theorem failures_attachIfAbsent (d : Facet.Data) :
    (a.attachIfAbsent d).failures = a.failures := rfl

@[simp] theorem failures_attachDerivedIfAbsent (d : Facet.Data) :
    (a.attachDerivedIfAbsent d).failures = a.failures := rfl

@[simp] theorem failures_report (p : Problem) :
    (a.report p).failures = a.failures ++ [⟨a.facets.owner, p⟩] := rfl

@[simp] theorem failures_take (name : String) (accept : Method → Bool) :
    (a.take name accept).2.failures = a.failures := rfl

/-! #### Factories that record nothing -/

theorem failures_localized (simpleName : String) (facet : String → Facet.Data) :
    (a.localized env c annotations simpleName facet).failures = a.failures := by
  unfold localized
  split <;> rfl

theorem failures_objectType : (a.objectType c).failures = a.failures := by
  unfold objectType
  split
  · rfl
  · split <;> rfl

theorem failures_layout : (a.layout env c).failures = a.failures := by
  unfold layout
  split <;> rfl

theorem failures_collectionClass : (a.collectionClass env c).failures = a.failures := by
  unfold collectionClass
  split
  · split <;> rfl
  · rfl

theorem failures_immutableClass : (a.immutableClass c).failures = a.failures := by
  unfold immutableClass
  split <;> rfl

theorem failures_titleFromMembers : a.titleFromMembers.failures = a.failures := by
  unfold titleFromMembers
  dsimp only
  split <;> rfl

theorem failures_titleFromMethod : a.titleFromMethod.failures = a.failures := by
  unfold titleFromMethod
  split <;> rename_i h <;> rw [← a.failures_take "title" Method.isGetter, h]
  · rfl
  · split <;> rfl

theorem failures_attachClaimed (name : String) (accept : Method → Bool)
    (facet : Method → Facet.Data) :
    (a.attachClaimed name accept facet).failures = a.failures := by
  unfold attachClaimed
  split <;> rename_i h <;> rw [← a.failures_take name accept, h]
  rfl

theorem failures_disabled : (a.disabled m).failures = a.failures := by
  unfold disabled
  split
  · rfl
  · split <;> rfl

theorem failures_filtered : (a.filtered env m).failures = a.failures := by
  unfold filtered
  split <;> rfl

theorem failures_attachSetter (modify setter : Option Method) :
    (a.attachSetter modify setter).failures = a.failures := by
  unfold attachSetter
  split <;> rfl

theorem failures_attachClearing (clear setter : Option Method) :
    (a.attachClearing clear setter).failures = a.failures := by
  unfold attachClearing
  split <;> rfl

theorem failures_propertySetAndClear : (a.propertySetAndClear m).failures = a.failures := by
  unfold propertySetAndClear
  dsimp only
  rw [failures_attachClearing, failures_take, failures_attachSetter]
  rfl

theorem failures_collectionChange (word : String) (accept : Method → Bool)
    (facet : Facet.Mutation → Facet.Data) :
    (a.collectionChange m word accept facet).failures = a.failures := by
  unfold collectionChange
  split <;> rename_i h <;> rw [← a.failures_take (m.supporting word) accept, h] <;> rfl

theorem failures_inferredElement : (a.inferredElement env m).failures = a.failures := by
  unfold inferredElement
  split
  · rfl
  · split <;> rfl

/-! #### Factories that look for a misuse -/

theorem failures_valueClass : (a.valueClass c).failures =
    a.failures ++ (unknownKind? c).toList.map (Failure.mk a.facets.owner) := by
  unfold valueClass unknownKind?
  cases c.annotation? "Value" with
  | none => dsimp only; split <;> simp [attachValueKind]
  | some mark =>
    cases hdeclared : (mark.textAttr? "type").or mark.value? with
    | none =>
      have hkind : Variant.read Value.Kind.choices "" =
          .error ⟨"", Value.Kind.choices.map (·.1)⟩ := by decide +kernel
      simp [declaredValueKind, hdeclared, hkind]
    | some text =>
      cases hkind : Variant.read Value.Kind.choices text <;>
        simp [declaredValueKind, hdeclared, hkind, attachValueKind, Except.isOk, Except.toBool]

theorem failures_notPersistableClass : (a.notPersistableClass c).failures =
    a.failures ++ (deprecated? c).toList.map (Failure.mk a.facets.owner) := by
  unfold notPersistableClass deprecated?
  split <;> simp [attach, FacetHolder.attach]

theorem failures_hidden : (a.hidden annotations).failures =
    a.failures ++ (unknownPlace? annotations).toList.map (Failure.mk a.facets.owner) := by
  unfold hidden unknownPlace?
  cases Annotation.find? annotations "Hidden" with
  | none => simp
  | some mark =>
    cases hplace : hiddenPlace? mark with
    | none => simp [hplace]
    | some text => cases hwhere : Facet.Where.ofText? text <;> simp [hplace, hwhere]

theorem failures_memberOrder : (a.memberOrder m).failures =
    a.failures ++ (missingSequence? m.method.annotations).toList.map
      (Failure.mk a.facets.owner) := by
  unfold memberOrder missingSequence? Method.annotation?
  cases Annotation.find? m.method.annotations "MemberOrder" with
  | none => simp
  | some mark => cases hsequence : sequence? mark <;> simp [hsequence]

theorem failures_mandatory : (a.mandatory env annotations type).failures =
    a.failures ++ (optionalPrimitive? env annotations type).toList.map
      (Failure.mk a.facets.owner) := by
  unfold mandatory optionalPrimitive?
  split
  · split <;> simp [*, attachDerived, FacetHolder.attachDerived]
  · split <;> simp [*]

theorem failures_maxLength : (a.maxLength annotations).failures =
    a.failures ++ (badLength? annotations).toList.map (Failure.mk a.facets.owner) := by
  unfold maxLength badLength?
  cases Annotation.find? annotations "MaxLength" with
  | none => simp
  | some mark =>
    cases hlength : mark.natAttr? "value" with
    | none => simp [hlength]
    | some n =>
      by_cases hn : n < 4294967296 <;> simp [hlength, hn, Option.filter]

theorem failures_pattern : (a.pattern annotations type).failures =
    a.failures ++ (badPattern? annotations type).toList.map (Failure.mk a.facets.owner) := by
  unfold pattern badPattern?
  split
  · cases Annotation.find? annotations "RegEx" with
    | none => simp
    | some mark =>
      cases htext : (mark.textAttr? "validation").or mark.value? with
      | none => simp [htext]
      | some text =>
        cases hrule : Facet.TextRule.ofText? text ((mark.boolAttr? "caseSensitive").getD true) <;>
          simp [htext, hrule]
  · simp

theorem failures_elementType : (a.elementType env m).failures =
    a.failures ++ (badElement? m.method).toList.map (Failure.mk a.facets.owner) := by
  unfold elementType badElement?
  cases declaredElement? m.method with
  | none => simp [failures_inferredElement]
  | some declared => cases declared <;> simp [failures_inferredElement]

/-- A search is a rival of the choices if both are there once it has had its turn. -/
theorem failures_search {choices target : Facet.Kind} (name : String)
    {facet : String → Nat → Facet.Data}
    (hfacet : ∀ method length, (facet method length).kind = target) (hne : choices ≠ target)
    (habsent : a.facets.contains target = false) :
    (a.search env name choices facet).failures =
      a.failures ++
        (rivals? (a.search env name choices facet).facets choices target name).toList.map
          (Failure.mk a.facets.owner) := by
  unfold search
  split <;> rename_i b htake
  · obtain rfl : (a.take name searches).2 = b := congrArg Prod.snd htake
    have hnone : rivals? a.facets choices target name = none := by simp [rivals?, habsent]
    rw [failures_take, facets_take, hnone]
    exact (List.append_nil _).symm
  · rename_i s
    obtain rfl : (a.take name searches).2 = b := congrArg Prod.snd htake
    have hname : s.name = name := MethodPool.name_of_peek? (congrArg Prod.fst htake)
    have hchoices (d : Facet.Data) (hd : d.kind = target) :
        (a.facets.attach d).contains choices = a.facets.contains choices :=
      a.facets.contains_put_of_ne (f := ⟨_, _, d⟩) fun heq => hne (heq.trans hd)
    have hsearch (d : Facet.Data) (hd : d.kind = target) :
        (a.facets.attach d).contains target = true :=
      hd ▸ a.facets.contains_put_self ⟨_, _, d⟩
    by_cases hrival : a.facets.contains choices <;>
      simp [rivals?, hrival, hname, hchoices _ (hfacet _ _), hsearch _ (hfacet _ _), attach, report]

theorem failures_propertySearch (habsent : a.facets.contains .autoComplete = false) :
    (a.propertySearch env m).failures =
      a.failures ++ (rivals? (a.propertySearch env m).facets .propertyChoices .autoComplete
        (m.supporting "autoComplete")).toList.map (Failure.mk a.facets.owner) :=
  a.failures_search env _ (fun _ _ => rfl) (by decide) habsent

theorem failures_parameterSearch (p : ParameterContext)
    (habsent : a.facets.contains .actionParameterAutoComplete = false) :
    (a.parameterSearch env p).failures =
      a.failures ++ (rivals? (a.parameterSearch env p).facets .actionParameterChoices
        .actionParameterAutoComplete (p.supporting "autoComplete")).toList.map
          (Failure.mk a.facets.owner) :=
  a.failures_search env _ (fun _ _ => rfl) (by decide) habsent

end Rules

end Analysis

namespace Factory

open Analysis (Records)
open Problem

/-- The problems for which a factory that looks at a class is responsible. -/
def problemsOnClass (c : Class) : Factory → List Problem
  | value => (unknownKind? c).toList
  | notPersistable => (deprecated? c).toList
  | hiddenAnnotation => (unknownPlace? c.annotations).toList
  | _ => []

/-- The problems for which a factory that looks at a member is responsible; of a search they are
not said here, since they depend on what was found before. -/
def problemsOnMember (env : Environment) (m : MemberContext) : Factory → List Problem
  | memberOrder => (missingSequence? m.method.annotations).toList
  | hiddenAnnotation => (unknownPlace? m.method.annotations).toList
  | mandatory => (optionalPrimitive? env m.method.annotations m.method.returnType).toList
  | maxLength => (badLength? m.method.annotations).toList
  | regex => (badPattern? m.method.annotations m.method.returnType).toList
  | typeOf => (badElement? m.method).toList
  | _ => []

/-- The problems for which a factory that looks at a parameter is responsible, but for a search. -/
def problemsOnParameter (env : Environment) (p : ParameterContext) : Factory → List Problem
  | mandatory => (optionalPrimitive? env p.parameter.annotations p.parameter.type).toList
  | maxLength => (badLength? p.parameter.annotations).toList
  | regex => (badPattern? p.parameter.annotations p.parameter.type).toList
  | _ => []

/-- **A factory that looks at a class records the problems for which it is responsible**, and no
others. -/
theorem records_onClass (f : Factory) (env : Environment) (c : Class) (a : Analysis) :
    Records (f.problemsOnClass c) a (f.onClass env c a) where
  owner := (f.progress_onClass env c a).owner
  failures := by
    cases f with
    | value => exact a.failures_valueClass c
    | notPersistable => exact a.failures_notPersistableClass c
    | hiddenAnnotation => exact a.failures_hidden c.annotations
    | _ =>
      simp [onClass, problemsOnClass, Analysis.iconName, Analysis.failures_localized,
        Analysis.failures_objectType, Analysis.failures_layout, Analysis.failures_collectionClass,
        Analysis.failures_immutableClass, Analysis.failures_titleFromMembers,
        Analysis.failures_titleFromMethod, Analysis.failures_attachClaimed]

/-- **A factory that looks at a member records the problems for which it is responsible**, and no
others. -/
theorem records_onMember {f : Factory} (hf : f ≠ .propertyAutoComplete) (env : Environment)
    (m : MemberContext) (a : Analysis) :
    Records (f.problemsOnMember env m) a (f.onMember env m a) where
  owner := (f.progress_onMember env m a).owner
  failures := by
    cases f with
    | propertyAutoComplete => exact absurd rfl hf
    | memberOrder => exact a.failures_memberOrder m
    | hiddenAnnotation => exact a.failures_hidden m.method.annotations
    | mandatory => exact a.failures_mandatory env _ _
    | maxLength => exact a.failures_maxLength _
    | regex => exact a.failures_pattern _ _
    | typeOf => exact a.failures_elementType env m
    | _ =>
      simp [onMember, problemsOnMember, Analysis.failures_localized, Analysis.failures_disabled,
        Analysis.failures_attachClaimed, Analysis.failures_propertySetAndClear,
        Analysis.failures_collectionChange, Analysis.failures_filtered, Analysis.hideMethod,
        Analysis.disableMethod, Analysis.propertyAccessor, Analysis.propertyChoices,
        Analysis.propertyDefault, Analysis.propertyValidation, Analysis.collectionAccessor,
        Analysis.collectionChanges, Analysis.collectionValidation, Analysis.actionInvocation,
        Analysis.actionValidation]

/-- **A factory that looks at a parameter records the problems for which it is responsible**, and no
others. -/
theorem records_onParameter {f : Factory} (hf : f ≠ .actionParameterAutoComplete)
    (env : Environment) (p : ParameterContext) (a : Analysis) :
    Records (f.problemsOnParameter env p) a (f.onParameter env p a) where
  owner := (f.progress_onParameter env p a).owner
  failures := by
    cases f with
    | actionParameterAutoComplete => exact absurd rfl hf
    | mandatory => exact a.failures_mandatory env _ _
    | maxLength => exact a.failures_maxLength _
    | regex => exact a.failures_pattern _ _
    | _ =>
      simp [onParameter, problemsOnParameter, Analysis.failures_localized,
        Analysis.failures_attachClaimed, Analysis.parameterChoices, Analysis.parameterDefault]

end Factory

/-! ### What an element records -/

namespace ProgrammingModel

/-! The standard factories for each feature, in order, with the searches set apart. -/

theorem factoriesFor_object : standard.factoriesFor .object =
    [.named, .describedAs, .plural, .objectSpecId, .value, .collectionType, .immutable,
      .notPersistable, Factory.titleAnnotation, .titleMethod, .iconName, .grid,
      Factory.hiddenAnnotation] := by decide +kernel

theorem factoriesFor_property : standard.factoriesFor .property =
    [.named, .describedAs, .memberOrder, Factory.hiddenAnnotation, Factory.disabledAnnotation,
      .hideMethod, .disableMethod, .propertyAccessor, .propertySetAndClear, .mandatory, .maxLength,
      .regex, .propertyChoices] ++
    .propertyAutoComplete :: [.propertyDefault, .propertyValidate] := by decide +kernel

theorem factoriesFor_collection : standard.factoriesFor .collection =
    [.named, .describedAs, .memberOrder, Factory.hiddenAnnotation, Factory.disabledAnnotation,
      .hideMethod, .disableMethod, .collectionAccessor, .typeOf, .collectionAddRemoveClear,
      .collectionValidate, .filterVisibility] := by decide +kernel

theorem factoriesFor_action : standard.factoriesFor .action =
    [.named, .describedAs, .memberOrder, Factory.hiddenAnnotation, Factory.disabledAnnotation,
      .hideMethod, .disableMethod, .typeOf, .filterVisibility, .actionInvocation,
      .actionValidate] := by decide +kernel

theorem factoriesFor_parameter : standard.factoriesFor .parameter =
    [.named, .describedAs, .mandatory, .maxLength, .regex, .actionParameterChoices,
      .actionParameterDefault] ++ .actionParameterAutoComplete :: [] := by decide +kernel

end ProgrammingModel

namespace Analysis

open Facet (Kind)

/-- The turn of a search among factories that leave its facet alone: of those after it, none touches
the choices either, so that in the end it shows whether the two were rivals. -/
theorem records_around_search {step : Analysis → Factory → Analysis}
    {problems : Factory → List Problem} {factories before after : List Factory} {search : Factory}
    {choices target : Kind} {name : String} (hsplit : factories = before ++ search :: after)
    (hprogress : ∀ a f, Progress f.kinds a (step a f))
    (hothers : ∀ f ∈ before ++ after, ∀ a, Records (problems f) a (step a f))
    (hbefore : ∀ f ∈ before, target ∉ f.kinds)
    (hafter : ∀ f ∈ after, choices ∉ f.kinds ∧ target ∉ f.kinds)
    (hsearch : ∀ a, a.facets.contains target = false →
      (step a search).failures = a.failures ++
        (Problem.rivals? (step a search).facets choices target name).toList.map
          (Failure.mk a.facets.owner))
    (a : Analysis) (ha : a.facets.contains target = false) :
    Records (before.flatMap problems ++
        (Problem.rivals? (factories.foldl step a).facets choices target name).toList ++
        after.flatMap problems)
      a (factories.foldl step a) := by
  let b := before.foldl step a
  have hb : Records (before.flatMap problems) a b :=
    Records.foldl (fun f hf => hothers f (List.mem_append_left _ hf)) a
  have habsent : b.facets.contains target = false := by
    have hkeep := (ProgrammingModel.progress_foldl hprogress before a).facets target
      (by simpa using hbefore)
    rw [FacetHolder.contains, hkeep]
    exact ha
  have hlast : Records (after.flatMap problems) (step b search)
      (after.foldl step (step b search)) :=
    Records.foldl (fun f hf => hothers f (List.mem_append_right _ hf)) _
  have hkeep := (ProgrammingModel.progress_foldl hprogress after (step b search)).facets
  have hrivals : Problem.rivals? (after.foldl step (step b search)).facets choices target name =
      Problem.rivals? (step b search).facets choices target name := by
    have hchoices := hkeep choices (by simpa using fun f hf => (hafter f hf).1)
    have htarget := hkeep target (by simpa using fun f hf => (hafter f hf).2)
    unfold Problem.rivals? FacetHolder.contains
    rw [hchoices, htarget]
  rw [hsplit, List.foldl_append, List.foldl_cons, hrivals]
  exact (hb.trans ⟨(hprogress b search).owner, hsearch b habsent⟩).trans hlast

end Analysis

namespace Introspection

open Analysis (Records records_around_search)

variable {env : Environment}

theorem records_analyseClass (env : Environment) (c : Class) (a : Analysis) :
    Records (classProblems c) a (ProgrammingModel.standard.analyseClass env c a) := by
  have hproblems : (ProgrammingModel.standard.factoriesFor .object).flatMap
      (fun f => f.problemsOnClass c) = classProblems c := by
    rw [ProgrammingModel.factoriesFor_object]
    simp [Factory.problemsOnClass, classProblems]
  rw [← hproblems]
  exact Records.foldl (fun f _ a => f.records_onClass env c a) a

/-- A property records its problems: one of its factories searches for values. -/
theorem records_property {m : MemberContext} (hfeature : m.feature = .property) (a : Analysis) :
    Records (memberProblems env m.method (member .standard env m a).1)
      (a.turnTo (.ofMember m.owner.name m.id))
      (ProgrammingModel.standard.analyseMember env m (a.turnTo (.ofMember m.owner.name m.id))) := by
  have hfactories := ProgrammingModel.factoriesFor_property
  rw [← hfeature] at hfactories
  have hrecords := records_around_search hfactories
    (fun a f => f.progress_onMember env m a)
    (fun f hf => Factory.records_onMember (by rintro rfl; revert hf; decide) env m)
    (by decide) (by decide) (fun b => b.failures_propertySearch env m)
    (a.turnTo (.ofMember m.owner.name m.id)) rfl
  refine hrecords.of_eq ?_
  rw [member, memberProblems]
  dsimp only
  simp [featureProblems, hfeature, Factory.problemsOnMember, entryProblems,
    MemberContext.supporting, ProgrammingModel.analyseMember]

/-- A collection and an action record their problems, none of them with what is entered. -/
theorem records_of_ne_property {m : MemberContext}
    (hfeature : m.feature = .collection ∨ m.feature = .action) (a : Analysis) :
    Records (memberProblems env m.method (member .standard env m a).1)
      (a.turnTo (.ofMember m.owner.name m.id))
      (ProgrammingModel.standard.analyseMember env m (a.turnTo (.ofMember m.owner.name m.id))) := by
  have hothers : .propertyAutoComplete ∉ ProgrammingModel.standard.factoriesFor m.feature := by
    rcases hfeature with hfeature | hfeature <;> rw [hfeature] <;> decide +kernel
  have hproblems : (ProgrammingModel.standard.factoriesFor m.feature).flatMap
      (fun f => f.problemsOnMember env m) =
        memberProblems env m.method (member .standard env m a).1 := by
    rcases hfeature with hfeature | hfeature
    · rw [hfeature, ProgrammingModel.factoriesFor_collection]
      simp [memberProblems, featureProblems, member, hfeature, Factory.problemsOnMember]
    · rw [hfeature, ProgrammingModel.factoriesFor_action]
      simp [memberProblems, featureProblems, member, hfeature, Factory.problemsOnMember]
  rw [← hproblems]
  refine Records.foldl (fun f hf => Factory.records_onMember ?_ env m) _
  rintro rfl
  exact hothers hf

/-- A parameter records its problems; it is the last of its factories that searches for values. -/
theorem records_analyseParameter (env : Environment) (p : ParameterContext) (a : Analysis)
    (element : Identifier) :
    let b := ProgrammingModel.standard.analyseParameter env p (a.turnTo element)
    Records (parameterProblems env p.id p.parameter
      ⟨p.index, p.parameter.type, p.parameter.name, b.facets⟩) (a.turnTo element) b := by
  have hrecords := records_around_search ProgrammingModel.factoriesFor_parameter
    (fun a f => f.progress_onParameter env p a)
    (fun f hf => Factory.records_onParameter (by rintro rfl; revert hf; decide) env p)
    (by decide) (by decide) (fun b => b.failures_parameterSearch env p) (a.turnTo element) rfl
  refine hrecords.of_eq ?_
  simp [parameterProblems, Factory.problemsOnParameter, entryProblems,
    ParameterContext.supporting, ProgrammingModel.analyseParameter]

/-! ### Parameters -/

/-- The parameters of a member are those of a method, in order and numbered from zero. -/
def HasParametersOf (m : Method) (x : Member) : Prop :=
  x.parameters.map (fun q => (q.index, q.type, q.name)) =
    m.parameters.mapIdx fun i p => (i, p.type, p.name)

theorem map_parametersFrom (env : Environment) (model : ProgrammingModel) (m : MemberContext)
    (index : Nat) (ps : List Parameter) (a : Analysis) :
    (parametersFrom model env m index ps a).1.map (fun q => (q.index, q.type, q.name)) =
      ps.mapIdx fun i p => (index + i, p.type, p.name) := by
  induction ps generalizing index a with
  | nil => rfl
  | cons p ps ih => simp [parametersFrom, ih, Nat.add_assoc, Nat.add_comm 1]

theorem hasParametersOf_member {model : ProgrammingModel} {m : MemberContext} {a : Analysis}
    (h : m.feature ≠ .action → m.method.parameters = []) :
    HasParametersOf m.method (member model env m a).1 := by
  have hparameters := map_parametersFrom env model m 0
    (if m.feature = .action then m.method.parameters else [])
    (model.analyseMember env m (a.turnTo (.ofMember m.owner.name m.id)))
  have hall : (if m.feature = .action then m.method.parameters else []) = m.method.parameters := by
    split
    · rfl
    · exact (h ‹_›).symm
  simp only [Nat.zero_add] at hparameters
  rw [HasParametersOf, ← congrArg (List.mapIdx _) hall]
  exact hparameters

theorem parameters_of_isAccessor {m : Method} (h : isAccessor m) : m.parameters = [] := by
  rw [isAccessor, Bool.and_eq_true] at h
  exact List.isEmpty_iff.mp h.1

/-! ### What a run of elements records -/

theorem failures_parametersFrom (env : Environment) (m : MemberContext) (index : Nat)
    (ps : List Parameter) (a : Analysis) :
    (parametersFrom .standard env m index ps a).2.failures = a.failures ++
      parametersFailures env m.owner.name m.id
        (ps.zip (parametersFrom .standard env m index ps a).1) := by
  induction ps generalizing index a with
  | nil => exact (List.append_nil _).symm
  | cons p ps ih =>
    have hfirst := (records_analyseParameter env ⟨m.owner, m.method, m.id, index, p⟩ a
      (.ofParameter m.owner.name m.id index)).failures
    simp only [parametersFrom, ih]
    rw [hfirst]
    simp [parametersFailures]
    rfl

/-- **A member records its failures**, and those of its parameters after them. -/
theorem failures_member (env : Environment) {m : MemberContext}
    (hfeature : m.feature ∈ Feature.members) (a : Analysis) :
    (member .standard env m a).2.failures =
      a.failures ++ memberFailures env m.owner.name m.method (member .standard env m a).1 := by
  have hrecords : Records (memberProblems env m.method (member .standard env m a).1)
      (a.turnTo (.ofMember m.owner.name m.id))
      (ProgrammingModel.standard.analyseMember env m (a.turnTo (.ofMember m.owner.name m.id))) := by
    simp only [Feature.members, List.mem_cons, List.not_mem_nil, or_false] at hfeature
    rcases hfeature with hfeature | hfeature
    · exact records_property hfeature a
    · exact records_of_ne_property hfeature a
  have hparameters := failures_parametersFrom env m 0
    (if m.feature = .action then m.method.parameters else [])
    (ProgrammingModel.standard.analyseMember env m (a.turnTo (.ofMember m.owner.name m.id)))
  have hzip : (if m.feature = .action then m.method.parameters else []).zip
      (member .standard env m a).1.parameters =
        m.method.parameters.zip (member .standard env m a).1.parameters := by
    by_cases haction : m.feature = .action
    · rw [if_pos haction]
    · simp [member, haction, parametersFrom]
  calc (member .standard env m a).2.failures
      = (ProgrammingModel.standard.analyseMember env m
          (a.turnTo (.ofMember m.owner.name m.id))).failures ++
        parametersFailures env m.owner.name m.id
          ((if m.feature = .action then m.method.parameters else []).zip
            (member .standard env m a).1.parameters) := hparameters
    _ = a.failures ++ memberFailures env m.owner.name m.method (member .standard env m a).1 := by
      rw [hrecords.failures, hzip, memberFailures, List.append_assoc, id_member]
      rfl

variable (env : Environment) {c : Class} (classFacets : FacetHolder)

theorem failures_associationsOf {entries : List (Nat × Method)}
    (h : ∀ e ∈ entries, c.methods[e.1]? = some e.2) (a : Analysis) :
    (associationsOf .standard env c classFacets entries a).2.failures = a.failures ++
      (associationsOf .standard env c classFacets entries a).1.flatMap (failuresAt env c) := by
  induction entries generalizing a with
  | nil => exact (List.append_nil _).symm
  | cons e entries ih =>
    obtain ⟨index, accessor⟩ := e
    obtain ⟨hdeclared, hrest⟩ := List.forall_mem_cons.mp h
    cases hid : Naming.propertyOf? accessor.name with
    | none =>
      simp only [associationsOf, hid]
      exact ih hrest a
    | some id =>
      have hfeature : featureOf env accessor ∈ Feature.members := by
        unfold featureOf
        split <;> decide
      have hmember := failures_member env
        (m := ⟨c, classFacets, accessor, id, featureOf env accessor⟩) hfeature a
      simp only [associationsOf, hid]
      rw [ih hrest, hmember, List.flatMap_cons, List.append_assoc, failuresAt, hdeclared]
      simp

theorem failures_actionsOf {entries : List (Nat × Method)}
    (h : ∀ e ∈ entries, c.methods[e.1]? = some e.2) (a : Analysis) :
    (actionsOf .standard env c classFacets entries a).2.failures = a.failures ++
      (actionsOf .standard env c classFacets entries a).1.flatMap (failuresAt env c) := by
  induction entries generalizing a with
  | nil => exact (List.append_nil _).symm
  | cons e entries ih =>
    obtain ⟨index, method⟩ := e
    obtain ⟨hdeclared, hrest⟩ := List.forall_mem_cons.mp h
    by_cases hpresent : a.pool.contains index
    · have hmember := failures_member env
        (m := ⟨c, classFacets, method, method.name, .action⟩) (by simp [Feature.members])
        { a with pool := a.pool.claim index }
      simp only [actionsOf, if_pos hpresent]
      rw [ih hrest, hmember, List.flatMap_cons, List.append_assoc, failuresAt, hdeclared]
      simp
    · simp only [actionsOf, if_neg hpresent]
      exact ih hrest a

section Stages

variable (model : ProgrammingModel) (env : Environment) (c : Class)

theorem failures_specification :
    ((ofClass model env c).specification c).failures =
      (actionsOf model env c (analyseClass model env c).facets (candidates model env c)
        (afterAssociations model env c)).2.failures := rfl

theorem facets_specification :
    ((ofClass model env c).specification c).facets = (analyseClass model env c).facets := rfl

theorem associations_ofClass :
    (ofClass model env c).associations =
      (associationsOf model env c (analyseClass model env c).facets (accessors model env c)
        (afterAccessors model env c)).1 := rfl

theorem failures_afterAccessors :
    (afterAccessors model env c).failures = (model.analyseClass env c (start c)).failures := rfl

/-- Every member is made of the method at its place, and its parameters of those of the method. -/
theorem exists_method_of_mem {found : Nat × Member}
    (h : found ∈ (ofClass model env c).associations ++ (ofClass model env c).actions) :
    ∃ m, c.methods[found.1]? = some m ∧ found.2.method = m.name ∧ HasParametersOf m found.2 := by
  obtain ⟨context, hpool, -, a, hfound⟩ := madeOf_members model env c found h
  have hcontext := MethodPool.getElem?_of_mem_ofClass hpool
  refine ⟨context.method, hcontext, by rw [hfound]; rfl, ?_⟩
  rw [hfound]
  refine hasParametersOf_member fun hfeature => ?_
  rcases List.mem_append.mp h with h | h
  · obtain ⟨m, hm, haccessor, -⟩ := isRead_of_mem_associations model env c h
    obtain rfl : context.method = m := Option.some.inj (hcontext.symm.trans hm)
    exact parameters_of_isAccessor haccessor
  · obtain ⟨m, -, -, -, -, haction⟩ := isAction_of_mem_actions model env c h
    rw [hfound, feature_member] at haction
    exact absurd haction hfeature

/-- The members of a specification are what was found, each once. -/
theorem perm_members :
    ((ofClass model env c).specification c).members.Perm
      (((ofClass model env c).associations ++ (ofClass model env c).actions).map (·.2)) := by
  rw [List.map_append]
  refine (perm_membersOf_associations fun found hfound => ?_).append
    (perm_membersOf fun found hfound => ?_)
  · obtain ⟨m, -, -, -, -, hfeature⟩ := isRead_of_mem_associations model env c hfound
    rw [hfeature, featureOf]
    split
    · exact .inr rfl
    · exact .inl rfl
  · obtain ⟨m, -, -, -, -, hfeature⟩ := isAction_of_mem_actions model env c hfound
    exact hfeature

end Stages

/-- The failures of a class are those with itself, then those of its members in their order. -/
theorem failures_ofClass (env : Environment) (c : Class) :
    ((ofClass .standard env c).specification c).failures =
      (classProblems c).map (Failure.mk (.ofClass c.name)) ++
        ((ofClass .standard env c).associations ++ (ofClass .standard env c).actions).flatMap
          (failuresAt env c) := by
  have hdeclared {entries : List (Nat × Method)}
      (h : entries.Sublist (MethodPool.ofClass c).unclaimed) :
      ∀ e ∈ entries, c.methods[e.1]? = some e.2 :=
    fun e he => MethodPool.getElem?_of_mem_ofClass (h.subset he)
  have hclass := (records_analyseClass env c (start c)).failures
  have hassociations := failures_associationsOf env (analyseClass .standard env c).facets
    (hdeclared (pool_accessors .standard env c)) (afterAccessors .standard env c)
  have hactions := failures_actionsOf env (analyseClass .standard env c).facets
    (hdeclared (pool_candidates .standard env c)) (afterAssociations .standard env c)
  rw [failures_specification, hactions, afterAssociations, hassociations, failures_afterAccessors,
    hclass, actions_ofClass, associations_ofClass, List.flatMap_append, ← List.append_assoc]
  rfl

/-- The failures of a member and of its parameters are found under its id. -/
theorem member_of_mem_failuresAt {env : Environment} {c : Class} {found : Nat × Member}
    {f : Failure} (h : f ∈ failuresAt env c found) : f.element.member = some found.2.id := by
  simp only [failuresAt, memberFailures, parametersFailures, List.mem_flatMap, List.mem_append,
    List.mem_map] at h
  obtain ⟨m, -, ⟨p, -, rfl⟩ | ⟨q, -, p, -, rfl⟩⟩ := h <;> rfl

/-- **Introspection records each misuse once, with the element that it is on, and nothing else.**
The failures of a class are the problems with the class itself, then those with each property and
collection, and then those with each action, where the problems with the parameters of an action
follow its own. They stand in the order in which the elements had their turns. What is a problem is
said by the declaration of the element alone, except that choices and a search are rivals if both are
among the facets of the element.

The elements are those of the specification: each of its members is what the method at one place of
the class has become, with the parameters of the method in order and numbered from zero. -/
theorem failures_as_declared (env : Environment) (c : Class) :
    let members := (ofClass .standard env c).associations ++ (ofClass .standard env c).actions
    let s := (ofClass .standard env c).specification c
    s.failures =
      (classProblems c).map (Failure.mk (.ofClass c.name)) ++ members.flatMap (failuresAt env c) ∧
    s.members.Perm (members.map (·.2)) ∧
    ∀ found ∈ members, ∃ m,
      c.methods[found.1]? = some m ∧ found.2.method = m.name ∧ HasParametersOf m found.2 := by
  exact ⟨failures_ofClass env c, perm_members .standard env c,
    fun found => exists_method_of_mem .standard env c⟩

end Introspection
end Facetry
