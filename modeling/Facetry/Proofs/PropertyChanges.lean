/-
# How properties are changed

Three takes decide how a property is changed: for the method called `modify` and then the suffix
of the accessor, for the one called `set`, and for the one called `clear`. The first two ask for
the type of the property, the last one for no parameters.

No other take asks for a method of such a name: its word is another one, or its suffix is, if
different accessors have different suffixes. So each of the three finds in the turn of its property
what it would find in the class as declared. Two factories decide: the first one disables a property
as the annotations say, and the second one makes the takes (`Introspection.Ready`,
`Introspection.DecidedBy`). The factories around them leave both the facets and the methods alone
(`Introspection.Waits`). In the end the class alone decides: which other methods there are, and
where they stand, makes no difference.

Key definitions: `Introspection.changeTakes`, `Introspection.offers`,
`Introspection.setterFacet?`, `Introspection.clearFacet?`, `Introspection.disabledFacet?`.
Key theorems: `Introspection.matching_member_of_ne`, `Introspection.decidedBy_member`,
`Introspection.changed_as_declared`.
-/
import Facetry.Proofs.SupportNames

namespace Facetry

/-! ### What takes find -/

namespace MethodPool

/-- The method that a take finds. -/
def first? (p : MethodPool) (t : Take) : Option Method := p.peek? t.name t.accept

theorem first?_afterTake_of_ne (p : MethodPool) {s t : Take} (h : s.name ≠ t.name) :
    (p.afterTake s).first? t = p.first? t := by
  rw [first?, first?, peek?_eq_head?, peek?_eq_head?, p.matching_afterTake_of_ne h]

/-- Of takes with different names each takes the first entry that it can find. -/
theorem matching_afterTakes_of_mem (p : MethodPool) {ts : List Take} {t : Take}
    (hts : ts.Pairwise (·.name ≠ ·.name)) (ht : t ∈ ts) :
    (p.afterTakes ts).matching t = (p.matching t).tail := by
  induction ts generalizing p with
  | nil => cases ht
  | cons s ts ih =>
    obtain ⟨hs, hts⟩ := List.pairwise_cons.mp hts
    rcases List.mem_cons.mp ht with rfl | ht
    · exact ((p.afterTake t).matching_afterTakes_of_ne fun s hmem => (hs s hmem).symm).trans
        p.matching_afterTake
    · exact (ih (p.afterTake s) hts ht).trans
        (congrArg List.tail (p.matching_afterTake_of_ne (hs t ht)))

end MethodPool

namespace Introspection

/-! ### The methods that change a property -/

/-- The take for the method called a word and then a suffix that takes a value of the type. -/
def valueTake (word S : String) (T : TypeRef) : Take := ⟨word ++ S, (·.hasParameterTypes [T])⟩

/-- The take for the method that clears the property of the accessor with a suffix. -/
def clearTake (S : String) : Take := ⟨"clear" ++ S, Method.hasNoParameters⟩

/-- The takes that decide how a property is changed. -/
def changeTakes (S : String) (T : TypeRef) : List Take :=
  [valueTake "modify" S T, valueTake "set" S T, clearTake S]

/-- Whether a method is not excluded, and is what the take asks for. -/
def serves (t : Take) (m : Method) : Bool := !isExcluded m && (m.name == t.name && t.accept m)

/-- Whether the class declares a method that serves the take. -/
def offers (c : Class) (t : Take) : Bool := c.methods.any (serves t)

/-- The methods of a class that serve the take, with their places. -/
def servants (c : Class) (t : Take) : List (Nat × Method) := (start c).pool.matching t

section Takes

variable {model : ProgrammingModel} {env : Environment} {c : Class} {S : String} {T : TypeRef}
  {t : Take}

theorem exists_word_of_mem_changeTakes (ht : t ∈ changeTakes S T) :
    ∃ w ∈ changeWords, t.name = w ++ S := by
  simp only [changeTakes, List.mem_cons, List.not_mem_nil, or_false] at ht
  rcases ht with rfl | rfl | rfl <;> exact ⟨_, by simp [changeWords], rfl⟩

theorem pairwise_changeTakes : (changeTakes S T).Pairwise (·.name ≠ ·.name) := by
  have happart : changeWords.Pairwise Naming.Apart := by decide
  have hnames : (changeWords.map (· ++ S)).Pairwise (· ≠ ·) :=
    List.pairwise_map.mpr (happart.imp fun h => h.append_ne S S)
  exact List.pairwise_map.mp (show ((changeTakes S T).map Take.name).Pairwise (· ≠ ·) from hnames)

theorem matching_afterAccessors_changeTakes (ht : t ∈ changeTakes S T) :
    (afterAccessors model env c).pool.matching t = servants c t := by
  obtain ⟨w, hw, hname⟩ := exists_word_of_mem_changeTakes ht
  refine matching_afterAccessors (fun f => ?_) (fun m hm => ?_) fun m hm => ?_
  · rw [hname]
    exact Factory.name_ne_onClass (List.mem_append_left _ hw) S
  · exact isFrameworkMethod_change (List.mem_append_left _ hw) (hm.trans hname)
  · exact isAccessor_change (List.mem_append_left _ hw) (hm.trans hname)

/-- **A member leaves alone the methods that change a property with another suffix.** -/
theorem matching_member_of_ne (ht : t ∈ changeTakes S T) (m : MemberContext)
    (h : Naming.capitalize m.id ≠ S) (a : Analysis) :
    (member model env m a).2.pool.matching t = a.pool.matching t := by
  obtain ⟨w, hw, hname⟩ := exists_word_of_mem_changeTakes ht
  refine (matching_parametersFrom (fun f p => ?_) m 0 _ _).trans
    (matching_foldl (fun a f => f.pool_onMember env m a) (fun f _ a => ?_) _)
  · rw [hname]
    exact Factory.name_ne_onParameter (List.mem_append_left _ hw) S p
  · rw [hname]
    exact Factory.name_ne_onMember (List.mem_append_left _ hw) (.inr h)

theorem mem_servants {e : Nat × Method} :
    e ∈ servants c t ↔ c.methods[e.1]? = some e.2 ∧ serves t e.2 := by
  rw [servants, MethodPool.matching, List.mem_filter, start, MethodPool.discard, List.mem_filter]
  simp only [serves, MethodPool.isMatch, Bool.and_eq_true]
  constructor
  · rintro ⟨⟨hm, hexcluded⟩, hmatch⟩
    exact ⟨MethodPool.getElem?_of_mem_ofClass hm, hexcluded, hmatch⟩
  · rintro ⟨hm, hexcluded, hmatch⟩
    exact ⟨⟨MethodPool.mem_ofClass_of_getElem? hm, hexcluded⟩, hmatch⟩

/-- **What a take finds among all methods that serve it** has the name that it asks for, and is
there if the class offers one. -/
theorem name_first?_start (c : Class) (t : Take) :
    ((start c).pool.first? t).map (·.name) = if offers c t then some t.name else none := by
  have hoffers : offers c t = true ↔ ∃ e, e ∈ servants c t := by
    rw [offers, List.any_eq_true]
    constructor
    · rintro ⟨m, hm, hserves⟩
      obtain ⟨i, hi⟩ := List.mem_iff_getElem?.mp hm
      exact ⟨(i, m), mem_servants.mpr ⟨hi, hserves⟩⟩
    · rintro ⟨e, he⟩
      obtain ⟨hm, hserves⟩ := mem_servants.mp he
      exact ⟨e.2, List.mem_of_getElem? hm, hserves⟩
  rw [MethodPool.first?, MethodPool.peek?_eq_head?]
  change ((servants c t).head?.map (·.2)).map (·.name) = _
  cases hall : servants c t with
  | nil =>
    have hnone : ¬ offers c t = true := by simp [hoffers, hall]
    rw [if_neg hnone]
    rfl
  | cons e entries =>
    have he : e ∈ servants c t := hall ▸ List.mem_cons_self
    have hname : e.2.name = t.name := by
      have hserves := (mem_servants.mp he).2
      simp only [serves, Bool.and_eq_true, beq_iff_eq] at hserves
      exact hserves.2.1
    rw [if_pos (hoffers.mpr ⟨e, he⟩), List.head?_cons, Option.map_some, Option.map_some, hname]

theorem isSome_first?_start (c : Class) (t : Take) :
    ((start c).pool.first? t).isSome = offers c t := by
  have hname := congrArg Option.isSome (name_first?_start c t)
  rw [Option.isSome_map] at hname
  rw [hname]
  cases offers c t <;> rfl

end Takes

/-! ### What the methods decide -/

/-- The facet for changing a property: by the method called `modify`, or else by the one called
`set`. -/
def setterFacet? (owner : Identifier) (c : Class) (S : String) (T : TypeRef) : Option Facet :=
  if offers c (valueTake "modify" S T) then
    some ⟨owner, false, .propertySetter (.modifyMethod ("modify" ++ S))⟩
  else if offers c (valueTake "set" S T) then
    some ⟨owner, false, .propertySetter (.setter ("set" ++ S))⟩
  else none

/-- The facet for clearing a property: by the method called `clear`, or else, as is inferred, by
setting nothing. -/
def clearFacet? (owner : Identifier) (c : Class) (S : String) (T : TypeRef) : Option Facet :=
  if offers c (clearTake S) then some ⟨owner, false, .propertyClear (.method ("clear" ++ S))⟩
  else if offers c (valueTake "set" S T) then
    some ⟨owner, true, .propertyClear (.setterWithNull ("set" ++ S))⟩
  else none

/-- The facet that disables a property before its methods are looked at: because its accessor says
so, or else, as is inferred, because the class is immutable. -/
def declaredDisabled? (owner : Identifier) (immutable : Bool) (accessor : Method) :
    Option Facet :=
  match accessor.annotation? "Disabled" with
  | some mark => some ⟨owner, false, .disabled ((mark.textAttr? "reason").or mark.value?)⟩
  | none => if immutable then some ⟨owner, true, .disabled (some "Immutable")⟩ else none

/-- The facet that disables a property: the declared one, or else, as is inferred, one for want of a
method that changes it. -/
def disabledFacet? (owner : Identifier) (c : Class) (S : String) (accessor : Method) :
    Option Facet :=
  (declaredDisabled? owner (Analysis.isDeclaredImmutable c) accessor).or
    (if offers c (valueTake "modify" S accessor.returnType) ||
        offers c (valueTake "set" S accessor.returnType) then none
      else some ⟨owner, true, .disabled (some "No setter")⟩)

end Introspection

namespace Analysis

/-! ### The two factories -/

section Factories

variable {a : Analysis} (m : MemberContext) (modify setter clear : Option Method)

theorem get?_propertySetter_attachSetter (h : a.facets.get? .propertySetter = none) :
    (a.attachSetter modify setter).facets.get? .propertySetter =
      (((modify.map (·.name)).map Facet.Setter.modifyMethod).or
        ((setter.map (·.name)).map .setter)).map
          fun s => ⟨a.facets.owner, false, .propertySetter s⟩ := by
  cases modify with
  | some s => rfl
  | none =>
    cases setter with
    | some s => rfl
    | none =>
      have hkeep : Progress [.disabled] a
          (a.attachDerivedIfAbsent (.disabled (some "No setter"))) :=
        (Progress.refl a).attachDerivedIfAbsent (by simp)
      exact (hkeep.facets .propertySetter (by simp)).trans h

theorem get?_disabled_attachSetter :
    (a.attachSetter modify setter).facets.get? .disabled =
      (a.facets.get? .disabled).or (if modify.isSome || setter.isSome then none
        else some ⟨a.facets.owner, true, .disabled (some "No setter")⟩) := by
  cases modify with
  | some s => exact (Option.or_none).symm
  | none =>
    cases setter with
    | some s => exact (Option.or_none).symm
    | none =>
      show (a.attachDerivedIfAbsent (.disabled (some "No setter"))).facets.get? .disabled = _
      unfold attachDerivedIfAbsent FacetHolder.attachDerivedIfAbsent FacetHolder.contains
      cases h : a.facets.get? .disabled with
      | some f => simp [h]
      | none => simp [h, FacetHolder.attachDerived, FacetHolder.put, Facet.kind]

theorem get?_propertyClear_attachClearing (h : a.facets.get? .propertyClear = none) :
    (a.attachClearing clear setter).facets.get? .propertyClear =
      ((clear.map (·.name)).map fun name =>
          ⟨a.facets.owner, false, .propertyClear (.method name)⟩).or
        ((setter.map (·.name)).map fun name =>
          ⟨a.facets.owner, true, .propertyClear (.setterWithNull name)⟩) := by
  cases clear with
  | some s => rfl
  | none =>
    cases setter with
    | some s => rfl
    | none => exact h

/-- Without another facet of the kind, a member is disabled as it is declared. -/
theorem get?_disabled (hfeature : m.feature = .property) (h : a.facets.get? .disabled = none) :
    (a.disabled m).facets.get? .disabled =
      Introspection.declaredDisabled? a.facets.owner (m.classFacets.contains .immutable)
        m.method := by
  unfold disabled Introspection.declaredDisabled?
  cases m.method.annotation? "Disabled" with
  | some mark => rfl
  | none =>
    simp only [hfeature, true_and]
    split
    · rfl
    · exact h

theorem facets_attachSetter_congr {a b : Analysis} (h : a.facets = b.facets) :
    (a.attachSetter modify setter).facets = (b.attachSetter modify setter).facets := by
  unfold attachSetter
  split <;> simp [attach, attachDerivedIfAbsent, h]

theorem facets_attachClearing_congr {a b : Analysis} (h : a.facets = b.facets) :
    (a.attachClearing clear setter).facets = (b.attachClearing clear setter).facets := by
  unfold attachClearing
  split <;> simp [attach, attachDerived, h]

open Introspection (valueTake clearTake) in
/-- The three takes have different names, so each finds what it would find alone. -/
theorem facets_propertySetAndClear (a : Analysis) :
    let modify := a.pool.first? (valueTake "modify" (Naming.capitalize m.id) m.method.returnType)
    let setter := a.pool.first? (valueTake "set" (Naming.capitalize m.id) m.method.returnType)
    let clear := a.pool.first? (clearTake (Naming.capitalize m.id))
    (a.propertySetAndClear m).facets =
      ((a.attachSetter modify setter).attachClearing clear setter).facets := by
  let modify := valueTake "modify" (Naming.capitalize m.id) m.method.returnType
  let setter := valueTake "set" (Naming.capitalize m.id) m.method.returnType
  let clear := clearTake (Naming.capitalize m.id)
  obtain ⟨hset, hclear⟩ : modify.name ≠ setter.name ∧ modify.name ≠ clear.name ∧
      setter.name ≠ clear.name := by
    have hdiffer : [modify, setter, clear].Pairwise (·.name ≠ ·.name) :=
      Introspection.pairwise_changeTakes
    simpa [and_assoc] using hdiffer
  let p := a.pool.afterTake modify
  let b := ({ a with pool := p.afterTake setter } : Analysis).attachSetter
    (a.pool.first? modify) (p.first? setter)
  have hcourse : a.propertySetAndClear m =
      ({ b with pool := b.pool.afterTake clear } : Analysis).attachClearing
        (b.pool.first? clear) (p.first? setter) := rfl
  have hsetter : p.first? setter = a.pool.first? setter := a.pool.first?_afterTake_of_ne hset
  have hclearing : b.pool.first? clear = a.pool.first? clear := by
    calc b.pool.first? clear
        = (p.afterTake setter).first? clear :=
          congrArg (MethodPool.first? · clear) (pool_attachSetter _ _ _)
      _ = p.first? clear := p.first?_afterTake_of_ne hclear.2
      _ = a.pool.first? clear := a.pool.first?_afterTake_of_ne hclear.1
  have hfacets : b.facets =
      (a.attachSetter (a.pool.first? modify) (a.pool.first? setter)).facets := by
    rw [← hsetter]
    exact facets_attachSetter_congr _ _ rfl
  show (a.propertySetAndClear m).facets = ((a.attachSetter (a.pool.first? modify)
    (a.pool.first? setter)).attachClearing (a.pool.first? clear) (a.pool.first? setter)).facets
  rw [hcourse, hclearing, hsetter]
  exact facets_attachClearing_congr _ _ hfacets

end Factories

end Analysis

namespace Introspection

/-! ### The turn of a property -/

/-- The kinds of the facets that say how a property is changed. -/
def changeKinds : List Facet.Kind := [.propertySetter, .propertyClear, .disabled]

/-- Nothing was decided between two analyses of a property: its facets of these kinds and the
methods for its takes are the same. -/
structure Waits (S : String) (T : TypeRef) (a b : Analysis) : Prop where
  owner : b.facets.owner = a.facets.owner
  facets : ∀ k ∈ changeKinds, b.facets.get? k = a.facets.get? k
  pool : ∀ t ∈ changeTakes S T, b.pool.matching t = a.pool.matching t

/-- The property of an accessor is about to be decided: its class may have disabled it, and the
methods for its takes are all there. -/
structure Ready (c : Class) (S : String) (accessor : Method) (a : Analysis) : Prop where
  setter : a.facets.get? .propertySetter = none
  clearing : a.facets.get? .propertyClear = none
  disabled : a.facets.get? .disabled =
    declaredDisabled? a.facets.owner (Analysis.isDeclaredImmutable c) accessor
  pool : ∀ t ∈ changeTakes S accessor.returnType, a.pool.matching t = servants c t

/-- The facets of these kinds are those that the class decides for the property of an accessor. -/
structure DecidedBy (c : Class) (S : String) (accessor : Method) (facets : FacetHolder) :
    Prop where
  setter : facets.get? .propertySetter = setterFacet? facets.owner c S accessor.returnType
  clearing : facets.get? .propertyClear = clearFacet? facets.owner c S accessor.returnType
  disabled : facets.get? .disabled = disabledFacet? facets.owner c S accessor

section Turn

variable {model : ProgrammingModel} {env : Environment} {c : Class} {S : String} {T : TypeRef}
  {accessor : Method} {m : MemberContext} {a b : Analysis}

theorem Ready.of_waits (h : Ready c S accessor a) (hwaits : Waits S accessor.returnType a b) :
    Ready c S accessor b where
  setter := (hwaits.facets _ (by simp [changeKinds])).trans h.setter
  clearing := (hwaits.facets _ (by simp [changeKinds])).trans h.clearing
  disabled := by rw [hwaits.facets _ (by simp [changeKinds]), hwaits.owner, h.disabled]
  pool t ht := (hwaits.pool t ht).trans (h.pool t ht)

theorem DecidedBy.of_waits (h : DecidedBy c S accessor a.facets) (hwaits : Waits S T a b) :
    DecidedBy c S accessor b.facets where
  setter := by rw [hwaits.facets _ (by simp [changeKinds]), hwaits.owner, h.setter]
  clearing := by rw [hwaits.facets _ (by simp [changeKinds]), hwaits.owner, h.clearing]
  disabled := by rw [hwaits.facets _ (by simp [changeKinds]), hwaits.owner, h.disabled]

/-- Factories with other kinds and other words decide nothing. -/
theorem waits_foldl {fs : List Factory}
    (h : ∀ f ∈ fs, (∀ k ∈ changeKinds, k ∉ f.kinds) ∧ ∀ w ∈ changeWords, w ∉ f.words)
    (m : MemberContext) (a : Analysis) :
    Waits S T a (fs.foldl (fun a f => f.onMember env m a) a) := by
  have hprogress := ProgrammingModel.progress_foldl (fun a f => f.progress_onMember env m a) fs a
  refine ⟨hprogress.owner, fun k hk => hprogress.facets k fun hmem => ?_, fun t ht => ?_⟩
  · obtain ⟨f, hf, hkind⟩ := List.mem_flatMap.mp hmem
    exact (h f hf).1 k hk hkind
  · obtain ⟨w, hw, hname⟩ := exists_word_of_mem_changeTakes ht
    refine matching_foldl (fun a f => f.pool_onMember env m a) (fun f hf a => ?_) a
    rw [hname]
    exact Factory.name_ne_onMember (List.mem_append_left _ hw) (.inl ((h f hf).2 w hw))

/-- Two of the factories for properties decide, one after the other. -/
theorem exists_factoriesFor_property :
    ∃ before between after, ProgrammingModel.standard.factoriesFor .property =
        before ++ Factory.disabledAnnotation :: (between ++ .propertySetAndClear :: after) ∧
      ∀ f ∈ before ++ between ++ after,
        (∀ k ∈ changeKinds, k ∉ f.kinds) ∧ ∀ w ∈ changeWords, w ∉ f.words :=
  ⟨[.named, .describedAs, .memberOrder, Factory.hiddenAnnotation],
    [.hideMethod, .disableMethod, .propertyAccessor],
    [.mandatory, .maxLength, .regex, .propertyChoices, .propertyAutoComplete, .propertyDefault,
      .propertyValidate], by decide +kernel, by decide⟩

/-- Once it is looked at whether a property is disabled, it is ready. -/
theorem ready_disabled (hfeature : m.feature = .property)
    (himmutable : m.classFacets.contains .immutable = Analysis.isDeclaredImmutable c)
    (hfresh : ∀ k ∈ changeKinds, a.facets.get? k = none)
    (hpool : ∀ t ∈ changeTakes S m.method.returnType, a.pool.matching t = servants c t) :
    Ready c S m.method (a.disabled m) := by
  have hprogress := a.progress_disabled m
  refine ⟨?_, ?_, ?_, fun t ht => ?_⟩
  · rw [hprogress.facets _ (by simp), hfresh _ (by simp [changeKinds])]
  · rw [hprogress.facets _ (by simp), hfresh _ (by simp [changeKinds])]
  · rw [a.get?_disabled m hfeature (hfresh _ (by simp [changeKinds])), hprogress.owner, himmutable]
  · rw [a.pool_disabled, hpool t ht]

/-- **What the three takes find decides.** -/
theorem Ready.decidedBy (h : Ready c (Naming.capitalize m.id) m.method a) :
    DecidedBy c (Naming.capitalize m.id) m.method (a.propertySetAndClear m).facets := by
  have hfirst {t : Take} (ht : t ∈ changeTakes (Naming.capitalize m.id) m.method.returnType) :
      a.pool.first? t = (start c).pool.first? t := by
    rw [MethodPool.first?, MethodPool.peek?_eq_head?, h.pool t ht, servants,
      ← MethodPool.peek?_eq_head?, MethodPool.first?]
  have howner := (a.progress_propertySetAndClear m).owner
  have hfacets := a.facets_propertySetAndClear m
  rw [hfirst (by simp [changeTakes]), hfirst (by simp [changeTakes]),
    hfirst (by simp [changeTakes])] at hfacets
  set S := Naming.capitalize m.id
  set modify := (start c).pool.first? (valueTake "modify" S m.method.returnType)
  set setter := (start c).pool.first? (valueTake "set" S m.method.returnType)
  set clear := (start c).pool.first? (clearTake S)
  have hmodify : modify.map (·.name) = _ := name_first?_start c _
  have hset : setter.map (·.name) = _ := name_first?_start c _
  have hclears : clear.map (·.name) = _ := name_first?_start c _
  have hchange := a.progress_attachSetter modify setter
  have hfinal := (a.attachSetter modify setter).progress_attachClearing clear setter
  refine ⟨?_, ?_, ?_⟩
  · rw [howner, hfacets, hfinal.facets _ (by simp),
      Analysis.get?_propertySetter_attachSetter _ _ h.setter, hmodify, hset]
    unfold setterFacet?
    split_ifs <;> rfl
  · rw [howner, hfacets, Analysis.get?_propertyClear_attachClearing _ _
      ((hchange.facets _ (by simp)).trans h.clearing), hchange.owner, hclears, hset]
    unfold clearFacet?
    split_ifs <;> rfl
  · rw [howner, hfacets, hfinal.facets _ (by simp), Analysis.get?_disabled_attachSetter,
      h.disabled, isSome_first?_start, isSome_first?_start]
    rfl

/-- Each of the three takes claims the first of its methods. -/
theorem Ready.matching_tail (h : Ready c (Naming.capitalize m.id) m.method a) {t : Take}
    (ht : t ∈ changeTakes (Naming.capitalize m.id) m.method.returnType) :
    (a.propertySetAndClear m).pool.matching t = (servants c t).tail := by
  have hclaimed : (a.propertySetAndClear m).pool =
      a.pool.afterTakes (changeTakes (Naming.capitalize m.id) m.method.returnType) :=
    -- the factory asks nothing of the environment, so any one will do
    Factory.propertySetAndClear.pool_onMember plainEnvironment m a
  rw [hclaimed, a.pool.matching_afterTakes_of_mem pairwise_changeTakes ht, h.pool t ht]

theorem feature_member (m : MemberContext) (a : Analysis) :
    (member model env m a).1.feature = m.feature := rfl

theorem owner_member (m : MemberContext) (a : Analysis) :
    (member model env m a).1.facets.owner = .ofMember m.owner.name m.id :=
  (model.progress_analyseMember env _ m).owner

theorem facets_member (m : MemberContext) (a : Analysis) : (member model env m a).1.facets =
    (model.analyseMember env m (a.turnTo (.ofMember m.owner.name m.id))).facets := rfl

/-- A member that is no action has no parameters to go on with. -/
theorem snd_member_of_ne {m : MemberContext} (h : m.feature ≠ .action) (a : Analysis) :
    (member model env m a).2 =
      model.analyseMember env m (a.turnTo (.ofMember m.owner.name m.id)) := by
  rw [member, if_neg h]
  rfl

/-- **The turn of a property.** If the methods for its takes are all there, the class decides how
it is changed, and each take claims the first of its methods. -/
theorem decidedBy_member (env : Environment) (hfeature : m.feature = .property)
    (himmutable : m.classFacets.contains .immutable = Analysis.isDeclaredImmutable c)
    (hid : Naming.capitalize m.id = S)
    (hpool : ∀ t ∈ changeTakes S m.method.returnType, a.pool.matching t = servants c t) :
    DecidedBy c S m.method (member .standard env m a).1.facets ∧
      ∀ t ∈ changeTakes S m.method.returnType,
        (member .standard env m a).2.pool.matching t = (servants c t).tail := by
  subst hid
  obtain ⟨before, between, after, hsplit, hothers⟩ := exists_factoriesFor_property
  simp only [List.mem_append] at hothers
  let start := a.turnTo (.ofMember m.owner.name m.id)
  let first := before.foldl (fun a f => f.onMember env m a) start
  let second := between.foldl (fun a f => f.onMember env m a) (first.disabled m)
  let last := after.foldl (fun a f => f.onMember env m a) (second.propertySetAndClear m)
  have hmember : ProgrammingModel.standard.analyseMember env m start = last := by
    rw [ProgrammingModel.analyseMember, hfeature, hsplit, List.foldl_append, List.foldl_cons,
      List.foldl_append, List.foldl_cons]
    rfl
  have hfirst : Waits (Naming.capitalize m.id) m.method.returnType start first :=
    waits_foldl (fun f hf => hothers f (.inl (.inl hf))) m _
  have hlast : Waits (Naming.capitalize m.id) m.method.returnType
      (second.propertySetAndClear m) last :=
    waits_foldl (fun f hf => hothers f (.inr hf)) m _
  have hready : Ready c (Naming.capitalize m.id) m.method second := by
    refine (ready_disabled hfeature himmutable (fun k hk => hfirst.facets k hk)
      fun t ht => (hfirst.pool t ht).trans (hpool t ht)).of_waits ?_
    exact waits_foldl (fun f hf => hothers f (.inl (.inr hf))) m _
  rw [facets_member, snd_member_of_ne (by simp [hfeature]), hmember]
  exact ⟨hready.decidedBy.of_waits hlast, fun t ht =>
    (hlast.pool t ht).trans (hready.matching_tail ht)⟩

end Turn

/-! ### The course of the introspection -/

/-- Whether a method is read as a property or a collection. -/
def readsMember (m : Method) : Bool := !isExcluded m && !isFrameworkMethod m && isAccessor m

/-- The suffixes of the accessors of a class, in the order of the declaration. -/
def accessorSuffixes (c : Class) : List String :=
  (c.methods.filter readsMember).filterMap fun m => Naming.suffix? m.name

/-- The accessors of a class can be told by their suffixes: no two have the same one, and each
starts with an upper-case letter of ASCII or a digit. -/
structure HasPlainSuffixes (c : Class) : Prop where
  distinct : (accessorSuffixes c).Nodup
  plain : ∀ S ∈ accessorSuffixes c, Naming.startsPlain S

/-- The accessor at a place of a class is read as a property. -/
structure ReadsProperty (env : Environment) (c : Class) (place : Nat) (accessor : Method)
    (x : Member) : Prop where
  declared : c.methods[place]? = some accessor
  found : (place, x) ∈ (ofClass .standard env c).associations
  isProperty : x.feature = .property

section Course

variable {model : ProgrammingModel} {env : Environment} {c : Class} {classFacets : FacetHolder}
  {entries : List (Nat × Method)} {a : Analysis} {S : String}

/-- An association is found in its turn, after those before it and before those after it. -/
theorem exists_turn_of_mem_associationsOf {found : Nat × Member}
    (h : found ∈ (associationsOf model env c classFacets entries a).1) :
    ∃ before accessor after id, entries = before ++ (found.1, accessor) :: after ∧
      Naming.propertyOf? accessor.name = some id ∧
      let turn := member model env ⟨c, classFacets, accessor, id, featureOf env accessor⟩
        (associationsOf model env c classFacets before a).2
      found.2 = turn.1 ∧ (associationsOf model env c classFacets entries a).2 =
        (associationsOf model env c classFacets after turn.2).2 := by
  induction entries generalizing a with
  | nil => cases h
  | cons e entries ih =>
    obtain ⟨index, accessor⟩ := e
    cases hid : Naming.propertyOf? accessor.name with
    | none =>
      simp only [associationsOf, hid] at h ⊢
      obtain ⟨before, accessor', after, id, rfl, hid', hturn⟩ := ih h
      refine ⟨(index, accessor) :: before, accessor', after, id, rfl, hid', ?_⟩
      simpa only [associationsOf, hid] using hturn
    | some id =>
      simp only [associationsOf, hid] at h ⊢
      rcases List.mem_cons.mp h with rfl | h
      · exact ⟨[], accessor, entries, id, rfl, hid, rfl, rfl⟩
      · obtain ⟨before, accessor', after, id', rfl, hid', hturn⟩ := ih h
        refine ⟨(index, accessor) :: before, accessor', after, id', rfl, hid', ?_⟩
        simpa only [associationsOf, hid] using hturn

/-- What is left over in the end was there after the turn of each association. -/
theorem exists_turn_of_mem_associations {place : Nat} {x : Member}
    (h : (place, x) ∈ (ofClass model env c).associations) :
    ∃ before m after b, accessors model env c = before ++ (place, m.method) :: after ∧
      m.owner = c ∧ m.classFacets = (analyseClass model env c).facets ∧
      Naming.propertyOf? m.method.name = some m.id ∧
      b = (associationsOf model env c m.classFacets before (afterAccessors model env c)).2 ∧
      x = (member model env m b).1 ∧
      (ofClass model env c).last.pool.unclaimed.Sublist
        (member model env m b).2.pool.unclaimed := by
  have hmem : (place, x) ∈ (associationsOf model env c (analyseClass model env c).facets
    (accessors model env c) (afterAccessors model env c)).1 := h
  obtain ⟨before, accessor, after, id, hsplit, hid, hfound, hlater⟩ :=
    exists_turn_of_mem_associationsOf hmem
  have hlast := pool_actionsOf model env c (analyseClass model env c).facets
    (candidates model env c) (afterAssociations model env c)
  refine ⟨before, ⟨c, _, accessor, id, featureOf env accessor⟩, after, _, hsplit, rfl, rfl, hid,
    rfl, hfound, hlast.trans ?_⟩
  rw [afterAssociations, hlater]
  exact pool_associationsOf _ _

/-- The members read by accessors with other suffixes have other capitalized names. -/
theorem capitalize_ne_of_mem_associationsOf
    (h : ∀ e ∈ entries, ∀ S' ∈ Naming.suffix? e.2.name, Naming.startsPlain S' ∧ S' ≠ S) :
    ∀ found ∈ (associationsOf model env c classFacets entries a).1,
      Naming.capitalize found.2.id ≠ S := by
  intro found hfound
  obtain ⟨before, accessor, after, id, hsplit, hid, hturn, -⟩ :=
    exists_turn_of_mem_associationsOf hfound
  rw [Naming.propertyOf?_eq] at hid
  obtain ⟨S', hS', rfl⟩ := Option.map_eq_some_iff.mp hid
  have he : (found.1, accessor) ∈ entries := by simp [hsplit]
  obtain ⟨hplain, hne⟩ := h _ he S' hS'
  rw [hturn, id_member, Naming.capitalize_decapitalize hplain]
  exact hne

theorem sublist_accessors (model : ProgrammingModel) (env : Environment) (c : Class) :
    ((accessors model env c).map (·.2)).Sublist (c.methods.filter readsMember) := by
  have hreads : accessors model env c =
      (accessors model env c).filter fun e => readsMember e.2 := by
    refine (List.filter_eq_self.mpr fun e he => ?_).symm
    obtain ⟨hpool, haccessor⟩ := List.mem_filter.mp he
    obtain ⟨hclass, hframework⟩ := List.mem_filter.mp hpool
    have hstart := (model.progress_analyseClass env (start c) c).pool.subset hclass
    have hexcluded := (List.mem_filter.mp hstart).2
    simp only [readsMember, hexcluded, hframework, haccessor, Bool.and_self]
  rw [hreads, ← MethodPool.methods_ofClass c, MethodPool.methods, List.filter_map]
  exact ((pool_accessors model env c).filter _).map _

/-- Of the accessors, only one has a given suffix, if no two of them have the same. -/
theorem suffix_ne_of_split (h : HasPlainSuffixes c)
    {before after : List (Nat × Method)} {e : Nat × Method}
    (hsplit : accessors model env c = before ++ e :: after)
    (hS : Naming.suffix? e.2.name = some S) :
    Naming.startsPlain S ∧
      ∀ e' ∈ before ++ after, ∀ S' ∈ Naming.suffix? e'.2.name, Naming.startsPlain S' ∧ S' ≠ S := by
  have hsub : ((accessors model env c).filterMap fun e => Naming.suffix? e.2.name).Sublist
      (accessorSuffixes c) := by
    have hall := (sublist_accessors model env c).filterMap fun m => Naming.suffix? m.name
    rwa [List.filterMap_map] at hall
  have hmem {e' : Nat × Method} {S' : String} (he' : e' ∈ accessors model env c)
      (hS' : Naming.suffix? e'.2.name = some S') : Naming.startsPlain S' :=
    h.plain S' (hsub.subset (List.mem_filterMap.mpr ⟨e', he', hS'⟩))
  have hapart := h.distinct.sublist hsub
  simp only [hsplit, List.filterMap_append, List.filterMap_cons, hS, List.nodup_append,
    List.nodup_cons] at hapart
  obtain ⟨-, ⟨hafter, -⟩, hbefore⟩ := hapart
  refine ⟨hmem (by simp [hsplit]) hS, fun e' he' S' hS' => ⟨hmem ?_ hS', ?_⟩⟩
  · rw [hsplit]
    rcases List.mem_append.mp he' with he' | he' <;> simp [he']
  · rintro rfl
    rcases List.mem_append.mp he' with he' | he'
    · exact hbefore S' (List.mem_filterMap.mpr ⟨e', he', hS'⟩) S' List.mem_cons_self rfl
    · exact hafter (List.mem_filterMap.mpr ⟨e', he', hS'⟩)

theorem facets_analyseClass (model : ProgrammingModel) (env : Environment) (c : Class) :
    (analyseClass model env c).facets = (model.analyseClass env c (start c)).facets := rfl

/-- The standard factories make a class immutable exactly if it is declared so. -/
theorem contains_immutable (env : Environment) (c : Class) :
    (analyseClass .standard env c).facets.contains .immutable =
      Analysis.isDeclaredImmutable c := by
  obtain ⟨before, after, hsplit, hothers⟩ : ∃ before after,
      ProgrammingModel.standard.factoriesFor .object = before ++ .immutable :: after ∧
        ∀ f ∈ before ++ after, .immutable ∉ f.kinds :=
    ⟨[.named, .describedAs, .plural, .objectSpecId, .value, .collectionType],
      [.notPersistable, Factory.titleAnnotation, .titleMethod, .iconName, .grid,
        Factory.hiddenAnnotation],
      by decide +kernel, by decide⟩
  have hkeep {fs : List Factory} (hfs : ∀ f ∈ fs, f ∈ before ++ after) (a : Analysis) :
      (fs.foldl (fun a f => f.onClass env c a) a).facets.get? .immutable =
        a.facets.get? .immutable := by
    have hprogress := ProgrammingModel.progress_foldl (fun a f => f.progress_onClass env c a) fs a
    exact hprogress.facets _ (by simpa using fun f hf => hothers f (hfs f hf))
  let first := before.foldl (fun a f => f.onClass env c a) (start c)
  have hfirst : first.facets.get? .immutable = none :=
    hkeep (fun _ hf => List.mem_append_left _ hf) (start c)
  have hclass : (analyseClass .standard env c).facets.get? .immutable =
      (first.immutableClass c).facets.get? .immutable := by
    rw [facets_analyseClass, ProgrammingModel.analyseClass, hsplit, List.foldl_append,
      List.foldl_cons]
    exact hkeep (fun _ hf => List.mem_append_right _ hf) _
  rw [FacetHolder.contains, hclass, Analysis.immutableClass]
  cases Analysis.isDeclaredImmutable c with
  | true => rfl
  | false => exact congrArg Option.isSome hfirst

end Course

/-! ### The property as declared -/

section Declared

variable {env : Environment} {c : Class} {place : Nat} {x : Member} {accessor : Method} {S : String}

/-- Names that start with the words are reserved, so no action has them. -/
theorem method_ne_of_mem_actions (hS : Naming.suffix? accessor.name = some S)
    {T : TypeRef} {t : Take} (ht : t ∈ changeTakes S T) :
    ∀ found ∈ (ofClass .standard env c).actions, found.2.method ≠ t.name := by
  intro found hfound heq
  obtain ⟨w, hw, hname⟩ := exists_word_of_mem_changeTakes ht
  obtain ⟨m, -, hfree, -, hmethod, -⟩ := isAction_of_mem_actions .standard env c hfound
  refine hfree (List.any_eq_true.mpr ⟨.propertySetAndClear, by decide +kernel, ?_⟩)
  refine List.any_eq_true.mpr ⟨w, ?_, ?_⟩
  · exact (by decide : ∀ w ∈ changeWords, w ∈ Factory.propertySetAndClear.words) w hw
  · rw [← hmethod, heq, hname]
    exact Naming.startsWith_append hS w

/-- Once the first method for a take is claimed, it is not left over. -/
theorem not_mem_last_of_matching {model : ProgrammingModel} {t : Take} {p : MethodPool}
    (hlast : (ofClass model env c).last.pool.unclaimed.Sublist p.unclaimed)
    (hp : p.matching t = (servants c t).tail) {first : Nat}
    (hfirst : c.methods.findIdx? (serves t) = some first) :
    first ∉ (ofClass model env c).last.pool.indices := by
  obtain ⟨hlt, hserves, hnone⟩ := List.findIdx?_eq_some_iff_getElem.mp hfirst
  have he : (first, c.methods[first]) ∈ servants c t :=
    mem_servants.mpr ⟨List.getElem?_eq_getElem hlt, hserves⟩
  have hascending : (servants c t).Pairwise (·.1 < ·.1) :=
    ascending_of_sublist (List.filter_sublist.trans (pool_start c))
  intro hleft
  obtain ⟨e, hmem, hplace⟩ := List.mem_map.mp hleft
  have hdeclared : e ∈ (MethodPool.ofClass c).unclaimed :=
    (pool_last model env c).subset hmem
  obtain rfl : e = (first, c.methods[first]) :=
    eq_of_mem_ofClass hdeclared ((pool_start c).subset (List.mem_filter.mp he).1) hplace
  have htail : (first, c.methods[first]) ∈ (servants c t).tail :=
    hp ▸ List.mem_filter.mpr ⟨hlast.subset hmem, (List.mem_filter.mp he).2⟩
  obtain ⟨e', he', hlt'⟩ := (mem_tail_iff hascending he).mp htail
  obtain ⟨hm, hserves'⟩ := mem_servants.mp he'
  refine hnone e'.1 hlt' ?_
  rwa [(List.getElem?_eq_some_iff.mp hm).2]

theorem ReadsProperty.propertyOf?_eq (h : ReadsProperty env c place accessor x) :
    Naming.propertyOf? accessor.name = some x.id := by
  obtain ⟨m, hm, -, hid, -⟩ := isRead_of_mem_associations .standard env c h.found
  rwa [Option.some.inj (hm.symm.trans h.declared)] at hid

/-- A property is changed as its class declares, and the first method for each take is claimed. -/
theorem decidedBy_of_readsProperty (hsuffixes : HasPlainSuffixes c)
    (hread : ReadsProperty env c place accessor x) (hS : Naming.suffix? accessor.name = some S) :
    x.facets.owner = .ofMember c.name x.id ∧ DecidedBy c S accessor x.facets ∧
      ∀ t ∈ changeTakes S accessor.returnType, ∀ first,
        c.methods.findIdx? (serves t) = some first →
          first ∉ (ofClass .standard env c).last.pool.indices := by
  obtain ⟨before, m, after, b, hsplit, rfl, hfacets, hid, hb, hturn, hlast⟩ :=
    exists_turn_of_mem_associations hread.found
  -- the accessor and the name of the property
  obtain rfl : m.method = accessor := by
    have hmem : (place, m.method) ∈ accessors .standard env m.owner := by simp [hsplit]
    have hdeclared := MethodPool.getElem?_of_mem_ofClass
      ((pool_accessors .standard env m.owner).subset hmem)
    exact Option.some.inj (hdeclared.symm.trans hread.declared)
  rw [Naming.propertyOf?_eq, hS, Option.map_some] at hid
  have hfeature : m.feature = .property := by rw [← hread.isProperty, hturn, feature_member]
  have himmutable : m.classFacets.contains .immutable = Analysis.isDeclaredImmutable m.owner :=
    hfacets ▸ contains_immutable env m.owner
  -- the methods wait until the turn of the property
  obtain ⟨hplainS, hothers⟩ := suffix_ne_of_split hsuffixes hsplit hS
  have hcapitalize : Naming.capitalize m.id = S := by
    rw [← Option.some.inj hid, Naming.capitalize_decapitalize hplainS]
  have hpool : ∀ t ∈ changeTakes S m.method.returnType,
      b.pool.matching t = servants m.owner t := by
    intro t ht
    rw [hb]
    refine (matching_associationsOf (matching_member_of_ne ht) ?_).trans
      (matching_afterAccessors_changeTakes ht)
    exact capitalize_ne_of_mem_associationsOf fun e he => hothers e (List.mem_append_left _ he)
  obtain ⟨hdecided, hleft⟩ := decidedBy_member env hfeature himmutable hcapitalize hpool
  rw [hturn, owner_member, id_member]
  exact ⟨rfl, hdecided, fun t ht first => not_mem_last_of_matching hlast (hleft t ht)⟩

/-- **How a property can be changed is decided by the methods and annotations of its class.** Let
the accessors be told by their suffixes. A property with the suffix `S` is changed by `modifyS`, or
else by `setS`; it is cleared by `clearS`, or else by `setS`; and it is disabled if its accessor or
its class says so, or else if neither `modifyS` nor `setS` is there. Such a method counts if it is
not excluded and takes the type of the property, or nothing to clear it. None of these methods is an
action, and the first one for each use is not left over.

Nothing else makes a difference: a property that is read by the same accessor in another class of
the name, which is declared immutable or not as this one is and offers the same of the three
methods, is changed in the same way. -/
theorem changed_as_declared (hsuffixes : HasPlainSuffixes c)
    (hread : ReadsProperty env c place accessor x) (hS : Naming.suffix? accessor.name = some S) :
    x.facets.get? .propertySetter =
        setterFacet? (.ofMember c.name x.id) c S accessor.returnType ∧
      x.facets.get? .propertyClear =
        clearFacet? (.ofMember c.name x.id) c S accessor.returnType ∧
      x.facets.get? .disabled = disabledFacet? (.ofMember c.name x.id) c S accessor ∧
      (∀ t ∈ changeTakes S accessor.returnType,
        (∀ found ∈ (ofClass .standard env c).actions, found.2.method ≠ t.name) ∧
          ∀ first, c.methods.findIdx? (serves t) = some first →
            first ∉ (ofClass .standard env c).last.pool.indices) ∧
      ∀ (env' : Environment) (c' : Class) (place' : Nat) (x' : Member), HasPlainSuffixes c' →
        ReadsProperty env' c' place' accessor x' → c'.name = c.name →
        Analysis.isDeclaredImmutable c' = Analysis.isDeclaredImmutable c →
        (∀ t ∈ changeTakes S accessor.returnType, offers c' t = offers c t) →
          ∀ k ∈ changeKinds, x'.facets.get? k = x.facets.get? k := by
  obtain ⟨howner, hdecided, hclaimed⟩ := decidedBy_of_readsProperty hsuffixes hread hS
  refine ⟨howner ▸ hdecided.setter, howner ▸ hdecided.clearing, howner ▸ hdecided.disabled,
    fun t ht => ⟨method_ne_of_mem_actions hS ht, hclaimed t ht⟩, ?_⟩
  intro env' c' place' x' hsuffixes' hread' hname himmutable hoffers
  obtain ⟨howner', hdecided', -⟩ := decidedBy_of_readsProperty hsuffixes' hread' hS
  have hid : x'.id = x.id := Option.some.inj (hread'.propertyOf?_eq.symm.trans hread.propertyOf?_eq)
  simp only [changeTakes, List.forall_mem_cons] at hoffers
  obtain ⟨hmodify, hset, hclears, -⟩ := hoffers
  simp only [changeKinds, List.forall_mem_cons]
  rw [hdecided'.setter, hdecided'.clearing, hdecided'.disabled, hdecided.setter, hdecided.clearing,
    hdecided.disabled, howner', howner, hname, hid]
  simp [setterFacet?, clearFacet?, disabledFacet?, hmodify, hset, hclears, himmutable]

end Declared

/-- The accessor of a name. -/
def getName : Method := { Method.named "getName" with returnType := .simple "java.lang.String" }

/-- A class whose objects have a name, and two methods that could change it. -/
def customer : Class :=
  { Class.named "shop.Customer" with
    methods := getName :: ["int", "java.lang.String"].map fun type =>
      { Method.named "setName" with parameters := [⟨.simple type, none, []⟩] } }

/-- Of the two methods the one that takes a text counts, and clears the property too. -/
theorem changed_customer :
    ∃ x, (ofClass .standard plainEnvironment customer).associations = [(0, x)] ∧
      x.facets.get? .propertySetter =
        some ⟨.ofMember "shop.Customer" "name", false, .propertySetter (.setter "setName")⟩ ∧
      x.facets.get? .propertyClear =
        some ⟨.ofMember "shop.Customer" "name", true,
          .propertyClear (.setterWithNull "setName")⟩ ∧
      x.facets.get? .disabled = none := by
  have hmembers : (ofClass .standard plainEnvironment customer).associations.map
      (fun found => (found.1, found.2.id, found.2.feature)) = [(0, "name", .property)] := by
    decide +kernel
  obtain ⟨⟨place, x⟩, hfound, heq⟩ := List.map_eq_singleton_iff.mp hmembers
  obtain ⟨rfl, hid, hfeature⟩ : place = 0 ∧ x.id = "name" ∧ x.feature = .property := by
    simpa using heq
  have hsuffixes : HasPlainSuffixes customer := ⟨by decide +kernel, by decide +kernel⟩
  have hread : ReadsProperty plainEnvironment customer 0 getName x :=
    ⟨rfl, by simp [hfound], hfeature⟩
  obtain ⟨hsetter, hclear, hdisabled, -⟩ :=
    changed_as_declared hsuffixes hread (S := "Name") (by decide +kernel)
  rw [hid] at hsetter hclear hdisabled
  exact ⟨x, hfound, hsetter.trans (by decide +kernel), hclear.trans (by decide +kernel),
    hdisabled.trans (by decide +kernel)⟩

end Introspection
end Facetry
