/-
# Which factory claims which method

Factories claim methods by side effect: each one takes methods out of the pool by
name, and the next one finds what is left. Here the takes of each factory are listed
in their order, and nothing else that a factory does touches the pool. So a run of
factories can be read as a ledger of claims, each with the factory, the take that
found the method, and the place of the method. What is claimed and what is left
make up what was there (`MethodPool.Spends`), so no method is claimed twice and none
gets lost.

Key definitions: `Take`, `Claim`, `MethodPool.claims`, `MethodPool.Spends`,
`Factory.takesOnClass`, `Factory.takesOnMember`, `Factory.takesOnParameter`, `Claim.ledger`,
`Claim.Within`.
Key theorems: `Factory.pool_onClass`, `Factory.pool_onMember`, `Factory.pool_onParameter`,
`Claim.spends_ledger`.
-/
import Facetry.Proofs.Progress

namespace Facetry

/-- An attempt to claim a method: the first one that has the name and is acceptable. -/
structure Take where
  name : String
  accept : Method → Bool

/-- A method that a factory has claimed, by its place, and the take that found it. -/
structure Claim where
  factory : Factory
  take : Take
  place : Nat

namespace MethodPool

/-- The entry that a take finds. -/
def found? (p : MethodPool) (t : Take) : Option (Nat × Method) :=
  p.unclaimed.find? (isMatch t.name t.accept)

/-- The pool after a take. -/
def afterTake (p : MethodPool) (t : Take) : MethodPool := (p.take t.name t.accept).2

/-- The pool after the takes, one after another. -/
def afterTakes (p : MethodPool) (ts : List Take) : MethodPool := ts.foldl afterTake p

/-- The claims that a factory makes by its takes, one after another. -/
def claims (f : Factory) : List Take → MethodPool → List Claim
  | [], _ => []
  | t :: ts, p => ((p.found? t).map fun e => ⟨f, t, e.1⟩).toList ++ claims f ts (p.afterTake t)

/-! ### What leaves a pool

A pool is spent like money: what is taken out and what is left make up what was
there. Steps that each spend something spend all of it together, in any order of
writing it down. -/

/-- The places are those of the methods that leave the pool from `p` to `q`, each once. -/
def Spends (p : MethodPool) (places : List Nat) (q : MethodPool) : Prop :=
  (places ++ q.indices).Perm p.indices

namespace Spends

variable {p q r : MethodPool} {xs ys : List Nat}

theorem refl (p : MethodPool) : Spends p [] p := List.Perm.refl _

theorem perm (h : Spends p xs q) (hxs : xs.Perm ys) : Spends p ys q :=
  (hxs.symm.append_right _).trans h

theorem trans (h : Spends p xs q) (h' : Spends q ys r) : Spends p (xs ++ ys) r := by
  unfold Spends
  rw [List.append_assoc]
  exact (List.Perm.append_left xs h').trans h

/-- What is left has no place twice if there was none before. -/
theorem nodup (h : Spends p xs q) (hp : p.indices.Nodup) : q.indices.Nodup :=
  (List.nodup_append.mp (h.nodup_iff.mpr hp)).2.1

end Spends

theorem spends_discard (p : MethodPool) (test : Method → Bool) :
    Spends p ((p.unclaimed.filter fun e => test e.2).map (·.1)) (p.discard test) := by
  unfold Spends indices discard
  rw [← List.map_append]
  exact (List.filter_append_perm (fun e : Nat × Method => test e.2) p.unclaimed).map _

theorem spends_claim {p : MethodPool} {index : Nat} (h : p.contains index)
    (hp : p.indices.Nodup) : Spends p [index] (p.claim index) := by
  have hmem : index ∈ p.indices := by simpa [contains] using h
  unfold Spends
  rw [indices_claim, ← hp.erase_eq_filter]
  exact (List.perm_cons_erase hmem).symm

/-- A take spends the place of what it finds. -/
theorem spends_afterTake (p : MethodPool) (t : Take) :
    Spends p ((p.found? t).map (·.1)).toList (p.afterTake t) := by
  cases hfound : p.found? t with
  | none =>
    have hno : p.peek? t.name t.accept = none := by
      rw [peek?, show p.unclaimed.find? (isMatch t.name t.accept) = none from hfound]
      rfl
    rw [afterTake, take_eq_self p t.name t.accept hno]
    exact .refl p
  | some e =>
    obtain ⟨he, before, after, hsplit, hbefore⟩ := List.find?_eq_some_iff_append.mp hfound
    have hleft : (p.afterTake t).unclaimed = before ++ after := by
      have hbefore' : ∀ x ∈ before, ¬ isMatch t.name t.accept x := by simpa using hbefore
      show p.unclaimed.eraseP (isMatch t.name t.accept) = before ++ after
      rw [hsplit, List.eraseP_append_right _ hbefore', List.eraseP_cons_of_pos he]
    show (e.1 :: (p.afterTake t).unclaimed.map (·.1)).Perm (p.unclaimed.map (·.1))
    rw [hleft, hsplit, List.map_append, List.map_append, List.map_cons]
    exact List.perm_middle.symm

/-- The claims of a factory spend their places. -/
theorem spends_claims (f : Factory) (ts : List Take) (p : MethodPool) :
    Spends p ((claims f ts p).map (·.place)) (p.afterTakes ts) := by
  induction ts generalizing p with
  | nil => exact .refl p
  | cons t ts ih =>
    have hplaces : (claims f (t :: ts) p).map (·.place) =
        ((p.found? t).map (·.1)).toList ++ (claims f ts (p.afterTake t)).map (·.place) := by
      cases hfound : p.found? t <;> simp [claims, hfound]
    rw [hplaces]
    exact (p.spends_afterTake t).trans (ih (p.afterTake t))

/-- A claimed method was in the pool, has the name that the take asks for, and is acceptable. -/
theorem exists_of_mem_claims {f : Factory} {ts : List Take} {p : MethodPool} {claim : Claim}
    (h : claim ∈ claims f ts p) :
    claim.factory = f ∧ ∃ m, (claim.place, m) ∈ p.unclaimed ∧
      m.name = claim.take.name ∧ claim.take.accept m := by
  induction ts generalizing p with
  | nil => cases h
  | cons t ts ih =>
    rcases List.mem_append.mp h with h | h
    · obtain ⟨e, he, rfl⟩ := Option.map_eq_some_iff.mp (Option.mem_toList.mp h)
      have hmatch : isMatch t.name t.accept e := List.find?_some he
      rw [isMatch, Bool.and_eq_true, beq_iff_eq] at hmatch
      exact ⟨rfl, e.2, List.mem_of_find?_eq_some he, hmatch⟩
    · obtain ⟨hf, m, hm, hmatch⟩ := ih h
      exact ⟨hf, m, (p.sublist_take t.name t.accept).subset hm, hmatch⟩

end MethodPool

/-! ### What factories do to the pool -/

namespace Analysis

variable (a : Analysis)

@[simp] theorem pool_turnTo (element : Identifier) : (a.turnTo element).pool = a.pool := rfl

@[simp] theorem pool_attach (d : Facet.Data) : (a.attach d).pool = a.pool := rfl

@[simp] theorem pool_attachDerived (d : Facet.Data) : (a.attachDerived d).pool = a.pool := rfl

@[simp] theorem pool_attachIfAbsent (d : Facet.Data) : (a.attachIfAbsent d).pool = a.pool := rfl

@[simp] theorem pool_attachDerivedIfAbsent (d : Facet.Data) :
    (a.attachDerivedIfAbsent d).pool = a.pool := rfl

@[simp] theorem pool_report (p : Problem) : (a.report p).pool = a.pool := rfl

@[simp] theorem pool_take (name : String) (accept : Method → Bool) :
    (a.take name accept).2.pool = a.pool.afterTake ⟨name, accept⟩ := rfl

@[simp] theorem facets_take (name : String) (accept : Method → Bool) :
    (a.take name accept).2.facets = a.facets := rfl

@[simp] theorem pool_attachClaimed (name : String) (accept : Method → Bool)
    (facet : Method → Facet.Data) :
    (a.attachClaimed name accept facet).pool = a.pool.afterTake ⟨name, accept⟩ := by
  unfold attachClaimed
  split <;> rename_i h <;> rw [← pool_take, h]
  rfl

theorem pool_search (env : Environment) (name : String) (choices : Facet.Kind)
    (facet : String → Nat → Facet.Data) :
    (a.search env name choices facet).pool = a.pool.afterTake ⟨name, searches⟩ := by
  unfold search
  split <;> rename_i h <;> rw [← pool_take, h]
  dsimp only
  split <;> rfl

theorem pool_collectionChange (m : MemberContext) (word : String) (accept : Method → Bool)
    (facet : Facet.Mutation → Facet.Data) :
    (a.collectionChange m word accept facet).pool =
      a.pool.afterTake ⟨m.supporting word, accept⟩ := by
  unfold collectionChange
  split <;> rename_i h <;> rw [← pool_take, h] <;> rfl

theorem pool_attachSetter (modify setter : Option Method) :
    (a.attachSetter modify setter).pool = a.pool := by
  unfold attachSetter
  split <;> rfl

theorem pool_attachClearing (clear setter : Option Method) :
    (a.attachClearing clear setter).pool = a.pool := by
  unfold attachClearing
  split <;> rfl

theorem pool_titleFromMethod :
    a.titleFromMethod.pool = a.pool.afterTake ⟨"title", Method.isGetter⟩ := by
  unfold titleFromMethod
  split <;> rename_i h <;> rw [← pool_take, h]
  · rfl
  · split <;> rfl

/-! Factories that make no take leave the pool alone. -/

section Untouched

variable (env : Environment) (c : Class) (m : MemberContext) (annotations : List Annotation)
  (type : TypeRef)

@[simp] theorem pool_localized (simpleName : String) (facet : String → Facet.Data) :
    (a.localized env c annotations simpleName facet).pool = a.pool := by
  unfold localized
  split <;> rfl

@[simp] theorem pool_objectType : (a.objectType c).pool = a.pool := by
  unfold objectType
  split
  · rfl
  · split <;> rfl

@[simp] theorem pool_layout : (a.layout env c).pool = a.pool := by
  unfold layout
  split <;> rfl

@[simp] theorem pool_valueClass : (a.valueClass c).pool = a.pool := by
  unfold valueClass
  split <;> split <;> rfl

@[simp] theorem pool_collectionClass : (a.collectionClass env c).pool = a.pool := by
  unfold collectionClass
  split
  · split <;> rfl
  · rfl

@[simp] theorem pool_immutableClass : (a.immutableClass c).pool = a.pool := by
  unfold immutableClass
  split <;> rfl

@[simp] theorem pool_notPersistableClass : (a.notPersistableClass c).pool = a.pool := by
  unfold notPersistableClass
  split <;> rfl

@[simp] theorem pool_titleFromMembers : a.titleFromMembers.pool = a.pool := by
  unfold titleFromMembers
  dsimp only
  split <;> rfl

@[simp] theorem pool_memberOrder : (a.memberOrder m).pool = a.pool := by
  unfold memberOrder
  split
  · rfl
  · split <;> rfl

@[simp] theorem pool_hidden : (a.hidden annotations).pool = a.pool := by
  unfold hidden
  split
  · rfl
  · split
    · rfl
    · split <;> rfl

@[simp] theorem pool_disabled : (a.disabled m).pool = a.pool := by
  unfold disabled
  split
  · rfl
  · split <;> rfl

@[simp] theorem pool_filtered : (a.filtered env m).pool = a.pool := by
  unfold filtered
  split <;> rfl

@[simp] theorem pool_inferredElement : (a.inferredElement env m).pool = a.pool := by
  unfold inferredElement
  split
  · rfl
  · split <;> rfl

@[simp] theorem pool_elementType : (a.elementType env m).pool = a.pool := by
  unfold elementType
  split
  · exact pool_inferredElement a env m
  · rfl
  · exact pool_inferredElement _ env m

@[simp] theorem pool_mandatory : (a.mandatory env annotations type).pool = a.pool := by
  unfold mandatory
  split <;> split <;> rfl

@[simp] theorem pool_maxLength : (a.maxLength annotations).pool = a.pool := by
  unfold maxLength
  split
  · rfl
  · split <;> rfl

@[simp] theorem pool_pattern : (a.pattern annotations type).pool = a.pool := by
  unfold pattern
  split
  · split
    · rfl
    · split
      · rfl
      · split <;> rfl
  · rfl

end Untouched

end Analysis

namespace Factory

open MethodPool (afterTakes)

/-- The takes of a factory that looks at a class. -/
def takesOnClass : Factory → List Take
  | titleMethod => [⟨"title", Method.isGetter⟩]
  | iconName => [⟨"iconName", Method.isGetter⟩]
  | _ => []

/-- The takes of a factory that looks at a member with these facets. -/
def takesOnMember (m : MemberContext) (facets : FacetHolder) : Factory → List Take
  | hideMethod => [⟨m.supporting "hide", Method.hasNoParameters⟩]
  | disableMethod => [⟨m.supporting "disable", Method.isGetter⟩]
  | propertySetAndClear =>
    [⟨m.supporting "modify", (·.hasParameterTypes [m.method.returnType])⟩,
     ⟨m.supporting "set", (·.hasParameterTypes [m.method.returnType])⟩,
     ⟨m.supporting "clear", Method.hasNoParameters⟩]
  | propertyChoices => [⟨m.supporting "choices", Method.isGetter⟩]
  | propertyAutoComplete => [⟨m.supporting "autoComplete", Analysis.searches⟩]
  | propertyDefault => [⟨m.supporting "default", Method.isGetter⟩]
  | propertyValidate =>
    [⟨m.supporting "validate", (·.hasParameterTypes [m.method.returnType])⟩]
  | collectionAddRemoveClear =>
    [⟨m.supporting "addTo", Analysis.takesElement facets.elementType?⟩,
     ⟨m.supporting "removeFrom", Analysis.takesElement facets.elementType?⟩,
     ⟨m.supporting "clear", Method.hasNoParameters⟩]
  | collectionValidate =>
    [⟨m.supporting "validateAddTo", Analysis.validatesOne⟩,
     ⟨m.supporting "validateRemoveFrom", Analysis.validatesOne⟩]
  | actionValidate =>
    [⟨m.supporting "validate",
      fun s => s.hasParameterTypes (m.method.parameters.map (·.type)) && !s.isVoid⟩]
  | _ => []

/-- The takes of a factory that looks at a parameter. -/
def takesOnParameter (p : ParameterContext) : Factory → List Take
  | actionParameterChoices => [⟨p.supporting "choices", Method.returnsValue⟩]
  | actionParameterDefault => [⟨p.supporting "default", Method.returnsValue⟩]
  | actionParameterAutoComplete => [⟨p.supporting "autoComplete", Analysis.searches⟩]
  | _ => []

/-- **A factory that looks at a class only makes its takes.** -/
theorem pool_onClass (f : Factory) (env : Environment) (c : Class) (a : Analysis) :
    (f.onClass env c a).pool = a.pool.afterTakes f.takesOnClass := by
  cases f with
  | titleMethod => exact a.pool_titleFromMethod
  | iconName => exact a.pool_attachClaimed _ _ _
  | _ => simp [onClass, takesOnClass, afterTakes]

/-- **A factory that looks at a member only makes its takes.** -/
theorem pool_onMember (f : Factory) (env : Environment) (m : MemberContext) (a : Analysis) :
    (f.onMember env m a).pool = a.pool.afterTakes (f.takesOnMember m a.facets) := by
  cases f with
  | hideMethod => exact a.pool_attachClaimed _ _ _
  | disableMethod => exact a.pool_attachClaimed _ _ _
  | propertySetAndClear =>
    show (a.propertySetAndClear m).pool = _
    unfold Analysis.propertySetAndClear
    dsimp only
    rw [Analysis.pool_attachClearing, Analysis.pool_take, Analysis.pool_attachSetter]
    rfl
  | propertyChoices => exact a.pool_attachClaimed _ _ _
  | propertyAutoComplete => exact a.pool_search env _ _ _
  | propertyDefault => exact a.pool_attachClaimed _ _ _
  | propertyValidate => exact a.pool_attachClaimed _ _ _
  | collectionAddRemoveClear =>
    show (a.collectionChanges m).pool = _
    unfold Analysis.collectionChanges
    simp only [Analysis.pool_collectionChange]
    rfl
  | collectionValidate =>
    show (a.collectionValidation m).pool = _
    unfold Analysis.collectionValidation
    rw [Analysis.pool_attachClaimed, Analysis.pool_attachClaimed]
    rfl
  | actionValidate => exact a.pool_attachClaimed _ _ _
  | _ => simp [onMember, takesOnMember, afterTakes, Analysis.propertyAccessor,
      Analysis.collectionAccessor, Analysis.actionInvocation]

/-- **A factory that looks at a parameter only makes its takes.** -/
theorem pool_onParameter (f : Factory) (env : Environment) (p : ParameterContext)
    (a : Analysis) : (f.onParameter env p a).pool = a.pool.afterTakes (f.takesOnParameter p) := by
  cases f with
  | actionParameterChoices => exact a.pool_attachClaimed _ _ _
  | actionParameterDefault => exact a.pool_attachClaimed _ _ _
  | actionParameterAutoComplete => exact a.pool_search env _ _ _
  | _ => simp [onParameter, takesOnParameter, afterTakes]

end Factory

/-! ### Ledgers -/

namespace Claim

/-- The claims of factories that run one after another, each with its step and its takes. -/
def ledger (step : Analysis → Factory → Analysis) (takes : Analysis → Factory → List Take) :
    List Factory → Analysis → List Claim
  | [], _ => []
  | f :: fs, a => MethodPool.claims f (takes a f) a.pool ++ ledger step takes fs (step a f)

variable {step : Analysis → Factory → Analysis} {takes : Analysis → Factory → List Take}

/-- **What factories claim is what leaves the pool** in their run, each method once. -/
theorem spends_ledger (hstep : ∀ a f, (step a f).pool = a.pool.afterTakes (takes a f))
    (fs : List Factory) (a : Analysis) :
    a.pool.Spends ((ledger step takes fs a).map (·.place)) (fs.foldl step a).pool := by
  induction fs generalizing a with
  | nil => exact .refl a.pool
  | cons f fs ih =>
    have hfirst := MethodPool.spends_claims f (takes a f) a.pool
    rw [← hstep a f] at hfirst
    rw [ledger, List.map_append]
    exact hfirst.trans (ih (step a f))

/-- The claim is one of these factories, on a method of the pool that its take asks for. -/
def Within (claim : Claim) (factories : List Factory) (p : MethodPool) : Prop :=
  claim.factory ∈ factories ∧ ∃ m, (claim.place, m) ∈ p.unclaimed ∧
    m.name = claim.take.name ∧ claim.take.accept m

theorem Within.mono {claim : Claim} {factories more : List Factory} {p q : MethodPool}
    (h : claim.Within factories p) (hfactories : ∀ f ∈ factories, f ∈ more)
    (hpool : p.unclaimed.Sublist q.unclaimed) : claim.Within more q := by
  obtain ⟨hf, m, hm, hmatch⟩ := h
  exact ⟨hfactories _ hf, m, hpool.subset hm, hmatch⟩

theorem within_of_mem_ledger
    (hstep : ∀ a f, (step a f).pool.unclaimed.Sublist a.pool.unclaimed)
    {fs : List Factory} {a : Analysis} {claim : Claim} (h : claim ∈ ledger step takes fs a) :
    claim.Within fs a.pool := by
  induction fs generalizing a with
  | nil => cases h
  | cons f fs ih =>
    rcases List.mem_append.mp h with h | h
    · obtain ⟨hf, hm⟩ := MethodPool.exists_of_mem_claims h
      exact ⟨hf ▸ List.mem_cons_self, hm⟩
    · exact (ih h).mono (fun _ => List.mem_cons_of_mem f) (hstep a f)

end Claim

namespace ProgrammingModel

variable (model : ProgrammingModel) (env : Environment)

/-- The claims made in the analysis of a class. -/
def classClaims (c : Class) (a : Analysis) : List Claim :=
  Claim.ledger (fun a f => f.onClass env c a) (fun _ f => f.takesOnClass)
    (model.factoriesFor .object) a

/-- The claims made in the analysis of a member. -/
def memberClaims (m : MemberContext) (a : Analysis) : List Claim :=
  Claim.ledger (fun a f => f.onMember env m a) (fun a f => f.takesOnMember m a.facets)
    (model.factoriesFor m.feature) a

/-- The claims made in the analysis of a parameter. -/
def parameterClaims (p : ParameterContext) (a : Analysis) : List Claim :=
  Claim.ledger (fun a f => f.onParameter env p a) (fun _ f => f.takesOnParameter p)
    (model.factoriesFor .parameter) a

theorem spends_classClaims (a : Analysis) (c : Class) :
    a.pool.Spends ((model.classClaims env c a).map (·.place)) (model.analyseClass env c a).pool :=
  Claim.spends_ledger (fun a f => f.pool_onClass env c a) _ a

theorem spends_memberClaims (a : Analysis) (m : MemberContext) :
    a.pool.Spends ((model.memberClaims env m a).map (·.place)) (model.analyseMember env m a).pool :=
  Claim.spends_ledger (fun a f => f.pool_onMember env m a) _ a

theorem spends_parameterClaims (a : Analysis) (p : ParameterContext) :
    a.pool.Spends ((model.parameterClaims env p a).map (·.place))
      (model.analyseParameter env p a).pool :=
  Claim.spends_ledger (fun a f => f.pool_onParameter env p a) _ a

variable {model env} {a : Analysis} {claim : Claim}

theorem mem_of_mem_factoriesFor {feature : Feature} :
    ∀ f ∈ model.factoriesFor feature, f ∈ model.factories :=
  fun _ h => (List.mem_filter.mp h).1

theorem within_classClaims {c : Class} (h : claim ∈ model.classClaims env c a) :
    claim.Within model.factories a.pool :=
  (Claim.within_of_mem_ledger (fun a f => (f.progress_onClass env c a).pool) h).mono
    mem_of_mem_factoriesFor (List.Sublist.refl _)

theorem within_memberClaims {m : MemberContext} (h : claim ∈ model.memberClaims env m a) :
    claim.Within model.factories a.pool :=
  (Claim.within_of_mem_ledger (fun a f => (f.progress_onMember env m a).pool) h).mono
    mem_of_mem_factoriesFor (List.Sublist.refl _)

theorem within_parameterClaims {p : ParameterContext} (h : claim ∈ model.parameterClaims env p a) :
    claim.Within model.factories a.pool :=
  (Claim.within_of_mem_ledger (fun a f => (f.progress_onParameter env p a).pool) h).mono
    mem_of_mem_factoriesFor (List.Sublist.refl _)

end ProgrammingModel
end Facetry
