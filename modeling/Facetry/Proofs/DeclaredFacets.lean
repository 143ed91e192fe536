/-
# Declared facets and inferred ones

A facet is declared or inferred, and what is declared should prevail, whichever of the two comes
first. Factories can be put in any order, so a declared facet is safe only if no factory that comes
later infers one over it.

Most facets are safe because there is a single factory for their kind (`Factory.eq_of_mem_kinds`):
once it had its turn, nothing touches them. Two kinds have several. A member is disabled by
annotation, or for want of a method that changes it, and the latter is inferred only where the member
is not disabled yet. The title of a class comes from its members, from a method, or from what kind of
value the class is; this last title is inferred, but it is put in place of any other. So a declared
title is lost if the factory for values comes after those for titles.

Key definitions: `FacetHolder.declares`, `Analysis.valueKind?`.
Key theorems: `Factory.eq_of_mem_kinds`, `Analysis.declares_run`, `Introspection.declared_stays`,
`Introspection.declared_title_lost`.
-/
import Facetry.Proofs.CompleteSpecifications

namespace Facetry

/-- Whether there is a facet of the kind that was declared. -/
def FacetHolder.declares (h : FacetHolder) (k : Facet.Kind) : Bool := (h.get? k).any (!·.derived)

theorem FacetHolder.declares_congr {h h' : FacetHolder} {k : Facet.Kind}
    (heq : h'.get? k = h.get? k) : h'.declares k = h.declares k := by
  rw [declares, heq, declares]

theorem FacetHolder.contains_of_declares {h : FacetHolder} {k : Facet.Kind} (hk : h.declares k) :
    h.contains k := by
  cases hf : h.get? k with
  | none => simp [declares, hf] at hk
  | some f => simp [contains, hf]

/-! ### Kinds with one factory -/

namespace Factory

theorem mem_standard (f : Factory) : f ∈ standard := by cases f <;> decide

/-- But for titles and for what disables members, no two factories for one feature attach facets of
one kind. -/
theorem eq_of_mem_kinds {f g : Factory} {k : Facet.Kind} {feature : Feature}
    (hf : f.appliesTo feature) (hg : g.appliesTo feature) (hkf : k ∈ f.kinds) (hkg : k ∈ g.kinds)
    (htitle : k ≠ .title) (hdisabled : k ≠ .disabled) : f = g := by
  have hall : ∀ f ∈ standard, ∀ g ∈ standard, ∀ k ∈ f.kinds, k ∈ g.kinds → k ≠ .title →
      k ≠ .disabled → ∀ feature ∈ f.features, feature ∈ g.features → f = g := by decide +kernel
  rw [appliesTo, List.contains_iff_mem] at hf hg
  exact hall f (mem_standard f) g (mem_standard g) k hkf hkg htitle hdisabled feature hf hg

theorem title_mem_kinds_iff (f : Factory) :
    Facet.Kind.title ∈ f.kinds ↔ f = .value ∨ f = titleAnnotation ∨ f = .titleMethod := by
  cases f <;> simp [kinds]

theorem disabled_mem_kinds_iff (f : Factory) :
    Facet.Kind.disabled ∈ f.kinds ↔ f = disabledAnnotation ∨ f = .propertySetAndClear := by
  cases f <;> simp [kinds]

end Factory

namespace Analysis

open Facet (Kind)

/-! ### The factories that share a kind -/

/-- The kind of values that a class stands for, as it declares or as is known. -/
def valueKind? (c : Class) : Option Value.Kind :=
  match c.annotation? "Value" with
  | some mark => (Variant.read Value.Kind.choices (declaredValueKind mark)).toOption
  | none => Value.Kind.ofClass? c.name

section Titles

variable (c : Class) (a : Analysis)

theorem get?_title_valueClass : (a.valueClass c).facets.get? .title =
    ((valueKind? c).map fun kind => ⟨a.facets.owner, true, .title (.valueKind kind)⟩).or
      (a.facets.get? .title) := by
  unfold valueClass valueKind?
  cases c.annotation? "Value" with
  | none => cases Value.Kind.ofClass? c.name <;> rfl
  | some mark =>
    cases hkind : Variant.read Value.Kind.choices (declaredValueKind mark) <;>
      simp only [hkind, Except.toOption] <;> rfl

theorem declares_titleFromMembers (h : a.facets.declares .title) :
    a.titleFromMembers.facets.declares .title := by
  unfold titleFromMembers
  dsimp only
  split
  · exact h
  · rfl

/-- A method makes the title only where there is none. -/
theorem get?_title_titleFromMethod (h : a.facets.contains .title) :
    a.titleFromMethod.facets.get? .title = a.facets.get? .title := by
  unfold titleFromMethod
  split
  · rename_i m b htake
    obtain rfl : (a.take "title" Method.isGetter).2 = b := congrArg Prod.snd htake
    exact congrArg (FacetHolder.get? · _) (if_pos h)
  · rename_i b htake
    obtain rfl : (a.take "title" Method.isGetter).2 = b := congrArg Prod.snd htake
    split
    · exact congrArg (FacetHolder.get? · _) (if_pos h)
    · rfl

end Titles

/-- For want of a method a property is disabled only where it is not disabled yet. -/
theorem declares_disabled_propertySetAndClear (m : MemberContext) (a : Analysis) :
    (a.propertySetAndClear m).facets.declares .disabled = a.facets.declares .disabled := by
  have hkeep (b : Analysis) (clear setter : Option Method) :
      (b.attachClearing clear setter).facets.get? .disabled = b.facets.get? .disabled :=
    (b.progress_attachClearing clear setter).facets _ (by simp)
  rw [facets_propertySetAndClear, FacetHolder.declares, hkeep, get?_disabled_attachSetter,
    FacetHolder.declares]
  cases a.facets.get? .disabled with
  | some f => rfl
  | none => split <;> rfl

/-! ### Runs of factories -/

variable {step : Analysis → Factory → Analysis}

/-- What is there after some factories had their turn, one of them attached. -/
theorem exists_of_contains_foldl (hprogress : ∀ a f, Progress f.kinds a (step a f))
    {k : Kind} {factories : List Factory} {a : Analysis} (ha : a.facets.contains k = false)
    (h : (factories.foldl step a).facets.contains k) : ∃ f ∈ factories, k ∈ f.kinds := by
  by_contra hnone
  have hkeep := (ProgrammingModel.progress_foldl hprogress factories a).facets k
    (by simpa using hnone)
  rw [FacetHolder.contains, hkeep] at h
  exact absurd (h.symm.trans ha) (by decide)

/-- **Of the factories for a feature, only those for titles and for what disables members have to
look for declared facets**: a declared facet of another kind is the only one of its kind that is
ever attached. -/
theorem declares_run (hprogress : ∀ a f, Progress f.kinds a (step a f)) {model : ProgrammingModel}
    (hmodel : model.factories.Nodup) {feature : Feature} {before after : List Factory}
    (hsplit : model.factoriesFor feature = before ++ after) {k : Kind}
    (hshared : k = .title ∨ k = .disabled → ∀ f ∈ after, k ∈ f.kinds →
      ∀ a : Analysis, a.facets.declares k → (step a f).facets.declares k)
    {a : Analysis} (ha : a.facets.contains k = false)
    (h : (before.foldl step a).facets.declares k) :
    ((model.factoriesFor feature).foldl step a).facets.declares k := by
  rw [hsplit, List.foldl_append]
  refine List.foldlRecOn (motive := fun a => a.facets.declares k) after step h
    fun b hb f hf => ?_
  by_cases hkind : k ∈ f.kinds
  · by_cases hkinds : k = .title ∨ k = .disabled
    · exact hshared hkinds f hf hkind b hb
    · rw [not_or] at hkinds
      obtain ⟨g, hg, hgkind⟩ :=
        exists_of_contains_foldl hprogress ha (FacetHolder.contains_of_declares h)
      have happlies {f : Factory} (hf : f ∈ before ++ after) : f.appliesTo feature := by
        rw [← hsplit] at hf
        exact (List.mem_filter.mp hf).2
      obtain rfl : f = g := Factory.eq_of_mem_kinds (happlies (List.mem_append_right _ hf))
        (happlies (List.mem_append_left _ hg)) hkind hgkind hkinds.1 hkinds.2
      have hnodup : (before ++ after).Nodup := hsplit ▸ hmodel.filter _
      exact absurd rfl ((List.nodup_append.mp hnodup).2.2 f hg f hf)
  · rwa [FacetHolder.declares_congr ((hprogress b f).facets k hkind)]

end Analysis

namespace Introspection

open Analysis (declares_run valueKind?)

variable {model : ProgrammingModel} (env : Environment)

/-! ### Classes, members and parameters -/

/-- The title of a class stays declared, unless the class is known to be one of values. -/
theorem declares_analyseClass (hmodel : model.factories.Nodup) {c : Class}
    {before after : List Factory}
    (hsplit : model.factoriesFor .object = before ++ after) {k : Facet.Kind}
    (hvalue : k = .title → .value ∈ after → valueKind? c = none)
    (h : (before.foldl (fun a f => f.onClass env c a) (start c)).facets.declares k) :
    (model.analyseClass env c (start c)).facets.declares k := by
  refine declares_run (fun a f => f.progress_onClass env c a) hmodel hsplit ?_ rfl h
  rintro (rfl | rfl) f hf hkind a ha
  · rcases f.title_mem_kinds_iff.mp hkind with rfl | rfl | rfl
    · have hsame := a.get?_title_valueClass c
      rw [hvalue rfl hf, Option.map_none, Option.none_or] at hsame
      exact (FacetHolder.declares_congr hsame).trans ha
    · exact a.declares_titleFromMembers ha
    · have hsame := a.get?_title_titleFromMethod (FacetHolder.contains_of_declares ha)
      exact (FacetHolder.declares_congr hsame).trans ha
  · rcases f.disabled_mem_kinds_iff.mp hkind with rfl | rfl <;> exact ha

/-- The title of a class of values is inferred once its factory had its turn, and stays so if no
title is made of members after it. -/
theorem not_declares_title {c : Class} {before after : List Factory}
    (hsplit : model.factoriesFor .object = before ++ after) (hvalue : .value ∈ after)
    (hkind : (valueKind? c).isSome) (hmembers : Factory.titleAnnotation ∉ after) :
    (model.analyseClass env c (start c)).facets.declares .title = false := by
  obtain ⟨kind, hkind⟩ := Option.isSome_iff_exists.mp hkind
  obtain ⟨between, rest, rfl⟩ := List.append_of_mem hvalue
  let IsInferred (a : Analysis) : Prop := ∃ t, a.facets.get? .title = some t ∧ t.derived
  let step (a : Analysis) (f : Factory) : Analysis := f.onClass env c a
  have hturn (a : Analysis) : IsInferred (step a .value) :=
    ⟨_, by rw [show step a .value = a.valueClass c from rfl, a.get?_title_valueClass c, hkind]; rfl,
      rfl⟩
  have hrest :
      IsInferred (rest.foldl step (step ((before ++ between).foldl step (start c)) .value)) := by
    refine List.foldlRecOn (motive := IsInferred) rest step (hturn _) fun b hb f hf => ?_
    obtain ⟨t, ht, hinferred⟩ := hb
    by_cases htitle : Facet.Kind.title ∈ f.kinds
    · rcases f.title_mem_kinds_iff.mp htitle with rfl | rfl | rfl
      · exact hturn b
      · exact absurd (List.mem_append_right _ (List.mem_cons_of_mem _ hf)) hmembers
      · have hsame := b.get?_title_titleFromMethod (by simp [FacetHolder.contains, ht])
        exact ⟨t, hsame.trans ht, hinferred⟩
    · exact ⟨t, ((f.progress_onClass env c b).facets _ htitle).trans ht, hinferred⟩
  have hlast : model.analyseClass env c (start c) =
      rest.foldl step (step ((before ++ between).foldl step (start c)) .value) := by
    rw [ProgrammingModel.analyseClass, hsplit, ← List.append_assoc, List.foldl_append]
    rfl
  obtain ⟨t, ht, hinferred⟩ := hrest
  rw [hlast, FacetHolder.declares, ht, Option.any_some, hinferred]
  rfl

theorem declares_member (hmodel : model.factories.Nodup) {m : MemberContext} {a : Analysis}
    {before after : List Factory} (hsplit : model.factoriesFor m.feature = before ++ after)
    {k : Facet.Kind}
    (h : (before.foldl (fun a f => f.onMember env m a)
      (a.turnTo (.ofMember m.owner.name m.id))).facets.declares k) :
    (member model env m a).1.facets.declares k := by
  have hnodup : (before ++ after).Nodup := hsplit ▸ hmodel.filter _
  -- before its annotation is looked at, a member is not declared disabled
  have hnot (hlater : Factory.disabledAnnotation ∈ after) :
      (before.foldl (fun a f => f.onMember env m a)
        (a.turnTo (.ofMember m.owner.name m.id))).facets.declares .disabled = false := by
    refine List.foldlRecOn (motive := fun a : Analysis => a.facets.declares .disabled = false) before _
      rfl
      fun b hb g hg => ?_
    by_cases hkind : Facet.Kind.disabled ∈ g.kinds
    · rcases g.disabled_mem_kinds_iff.mp hkind with rfl | rfl
      · exact absurd rfl ((List.nodup_append.mp hnodup).2.2 _ hg _ hlater)
      · exact (b.declares_disabled_propertySetAndClear m).trans hb
    · rwa [FacetHolder.declares_congr ((g.progress_onMember env m b).facets _ hkind)]
  refine declares_run (fun a f => f.progress_onMember env m a) hmodel hsplit ?_ rfl h
  rintro (rfl | rfl) f hf hkind b hb
  · rcases f.title_mem_kinds_iff.mp hkind with rfl | rfl | rfl <;> exact hb
  · rcases f.disabled_mem_kinds_iff.mp hkind with rfl | rfl
    · rw [hnot hf] at h
      cases h
    · exact (b.declares_disabled_propertySetAndClear m).trans hb

theorem declares_analyseParameter (hmodel : model.factories.Nodup) {p : ParameterContext}
    {a : Analysis} {element : Identifier} {before after : List Factory}
    (hsplit : model.factoriesFor .parameter = before ++ after)
    {k : Facet.Kind}
    (h : (before.foldl (fun a f => f.onParameter env p a) (a.turnTo element)).facets.declares k) :
    (model.analyseParameter env p (a.turnTo element)).facets.declares k := by
  refine declares_run (fun a f => f.progress_onParameter env p a) hmodel hsplit ?_ rfl h
  rintro (rfl | rfl) f hf hkind a ha
  · rcases f.title_mem_kinds_iff.mp hkind with rfl | rfl | rfl <;> exact ha
  · rcases f.disabled_mem_kinds_iff.mp hkind with rfl | rfl <;> exact ha

/-- **What is declared stays declared.** Let the factories run in any order, each at most once. If a
facet of some kind was declared when some of the factories for an element had their turn, then the
facet of that kind is a declared one in the end: of a member, of a parameter, and of a class, except
for its title if the class is known to be one of values and the factory for values is still to come.
In this case the title ends up inferred, unless one is made of members later on. -/
theorem declared_stays (model : ProgrammingModel) (hmodel : model.factories.Nodup)
    (env : Environment) :
    (∀ (c : Class) (before after : List Factory),
      model.factoriesFor .object = before ++ after →
      let meanwhile := (before.foldl (fun a f => f.onClass env c a) (start c)).facets
      let last := ((ofClass model env c).specification c).facets
      (∀ k, (k = .title → .value ∈ after → valueKind? c = none) →
        meanwhile.declares k → last.declares k) ∧
      (.value ∈ after → (valueKind? c).isSome → Factory.titleAnnotation ∉ after →
        last.declares .title = false)) ∧
    (∀ (m : MemberContext) (a : Analysis) (before after : List Factory),
      model.factoriesFor m.feature = before ++ after →
      let meanwhile := (before.foldl (fun a f => f.onMember env m a)
        (a.turnTo (.ofMember m.owner.name m.id))).facets
      ∀ k, meanwhile.declares k → (member model env m a).1.facets.declares k) ∧
    ∀ (p : ParameterContext) (a : Analysis) (element : Identifier) (before after : List Factory),
      model.factoriesFor .parameter = before ++ after →
      let meanwhile := (before.foldl (fun a f => f.onParameter env p a) (a.turnTo element)).facets
      ∀ k, meanwhile.declares k →
        (model.analyseParameter env p (a.turnTo element)).facets.declares k := by
  refine ⟨fun c before after hsplit => ⟨fun k hvalue h => ?_, fun hvalue hkind hmembers => ?_⟩,
    fun m a before after hsplit k h => ?_, fun p a element before after hsplit k h => ?_⟩
  · exact declares_analyseClass env hmodel hsplit hvalue h
  · exact not_declares_title env hsplit hvalue hkind hmembers
  · exact declares_member env hmodel hsplit h
  · exact declares_analyseParameter env hmodel hsplit h

/-- The standard factories with the one for values moved to the end. -/
def valuesLast : ProgrammingModel := ProgrammingModel.standard.register .value

/-- A class whose objects say their titles. -/
def note : Class :=
  { Class.named "shop.Note" with
    methods := [{ Method.named "title" with returnType := .simple "java.lang.String" }] }

/-- The factories for classes that run before the one for values is the last. -/
def beforeValues : List Factory :=
  [.named, .describedAs, .plural, .objectSpecId, .collectionType, .immutable, .notPersistable,
    Factory.titleAnnotation, .titleMethod, .iconName, .grid, Factory.hiddenAnnotation]

/-- A note is no value, so its title stays. -/
theorem declared_stays_note :
    valuesLast.factories.Nodup ∧
      ((ofClass valuesLast plainEnvironment note).specification note).facets.declares .title := by
  have hmodel : valuesLast.factories.Nodup := by decide +kernel
  have hsplit : valuesLast.factoriesFor .object = beforeValues ++ [.value] := by decide +kernel
  obtain ⟨hclass, -⟩ := declared_stays valuesLast hmodel plainEnvironment
  obtain ⟨hstays, -⟩ := hclass note beforeValues [.value] hsplit
  exact ⟨hmodel, hstays .title (fun _ _ => by decide +kernel) (by decide +kernel)⟩

/-- A class of values whose objects say their titles themselves. -/
def price : Class :=
  { note with
    name := "shop.Price"
    annotations := [.withAttr (.named "Value") "type" (.string "long")] }

/-- **A declared title can be lost**: the title that a price says is there before the factory for
values has its turn, and an inferred one is in its place after it. -/
theorem declared_title_lost :
    valuesLast.factoriesFor .object = beforeValues ++ [.value] ∧
      (beforeValues.foldl (fun a f => f.onClass plainEnvironment price a)
        (start price)).facets.get? .title =
          some ⟨.ofClass "shop.Price", false, .title (.method "title")⟩ ∧
      ((ofClass valuesLast plainEnvironment price).specification price).facets.get? .title =
        some ⟨.ofClass "shop.Price", true, .title (.valueKind .long)⟩ := by
  decide +kernel

end Introspection
end Facetry
