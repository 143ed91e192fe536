/-
# Methods with other annotations

A method whose annotations are changed is still the same method to all but its own member: it has
its name, its types and its place. Two runs of introspection are compared here, one before and one
after the change. Their pools hold the same methods, but for the one that is changed, and every
test that a take makes of a method ignores annotations
(`Reannotation.ignores_of_mem_takesOnMember`). So what the analysis of another member finds in one
pool it finds in the other, too.

There is one way in which annotations reach the pool: the declared type of its elements decides
which methods a collection claims for adding and for removing. These are contested. Two pools are
compared without them (`Reannotation.Alike`), and a factory that asks for none of them leaves alike
what was alike (`Reannotation.alike_onMember`).

Key definitions: `Method.SameButAnnotations`, `Reannotation`, `Reannotation.contested`,
`Reannotation.Alike`, `Reannotation.AlikeIn`.
Key theorems: `Reannotation.Alike.afterTakes`, `Reannotation.Alike.first?`,
`Reannotation.alike_onMember`, `Reannotation.alike_onParameter`.
-/
import Facetry.Proofs.CapitalLetters
import Facetry.Proofs.RecordedFailures

namespace Facetry

/-! ### A change of annotations -/

/-- The methods differ in nothing but annotations, on themselves or on their parameters, and agree
in those that decide whether a method takes part and which part of a title it is. -/
structure Method.SameButAnnotations (m m' : Method) : Prop where
  name : m'.name = m.name
  returnType : m'.returnType = m.returnType
  parameters :
    m'.parameters.map (fun p => (p.type, p.name)) = m.parameters.map fun p => (p.type, p.name)
  isStatic : m'.isStatic = m.isStatic
  isPublic : m'.isPublic = m.isPublic
  programmatic : m'.annotation? "Programmatic" = m.annotation? "Programmatic"
  title : m'.annotation? "Title" = m.annotation? "Title"

namespace Method.SameButAnnotations

variable {m m' : Method} (h : m.SameButAnnotations m')
include h

theorem types : m'.parameters.map (·.type) = m.parameters.map (·.type) := by
  have htypes := congrArg (List.map Prod.fst) h.parameters
  simpa only [List.map_map, Function.comp_def] using htypes

theorem arity : m'.arity = m.arity := by
  simpa [Method.arity] using congrArg List.length h.types

theorem hasNoParameters : m'.hasNoParameters = m.hasNoParameters := by
  have hempty : m'.parameters = [] ↔ m.parameters = [] := by
    rw [← List.length_eq_zero_iff, ← List.length_eq_zero_iff]
    exact iff_of_eq (congrArg (· = 0) h.arity)
  rw [Method.hasNoParameters, Method.hasNoParameters, Bool.eq_iff_iff, List.isEmpty_iff,
    List.isEmpty_iff, hempty]

theorem isVoid : m'.isVoid = m.isVoid := by rw [Method.isVoid, h.returnType, Method.isVoid]

theorem hasParameterTypes (types : List TypeRef) :
    m'.hasParameterTypes types = m.hasParameterTypes types := by
  have hnames : m'.parameters.map (·.type.name) = m.parameters.map (·.type.name) := by
    have hall := congrArg (List.map TypeRef.name) h.types
    simpa only [List.map_map, Function.comp_def] using hall
  rw [Method.hasParameterTypes, hnames, Method.hasParameterTypes]

theorem isGetter : m'.isGetter = m.isGetter := by
  rw [Method.isGetter, h.hasNoParameters, h.isVoid, Method.isGetter]

theorem returnsValue : m'.returnsValue = m.returnsValue := by
  rw [Method.returnsValue, h.isVoid, Method.returnsValue]

theorem searches : Analysis.searches m' = Analysis.searches m := by
  rw [Analysis.searches, h.hasParameterTypes, h.isVoid, Analysis.searches]

theorem validatesOne : Analysis.validatesOne m' = Analysis.validatesOne m := by
  rw [Analysis.validatesOne, h.arity, h.isVoid, Analysis.validatesOne]

theorem takesElement (element : Option TypeRef) :
    Analysis.takesElement element m' = Analysis.takesElement element m := by
  unfold Analysis.takesElement
  split
  · exact h.hasParameterTypes _
  · rw [h.arity]

theorem isExcluded : Introspection.isExcluded m' = Introspection.isExcluded m := by
  have hmark : m'.isAnnotated "Programmatic" = m.isAnnotated "Programmatic" :=
    congrArg Option.isSome h.programmatic
  rw [Introspection.isExcluded, h.isStatic, h.isPublic, hmark, Introspection.isExcluded]

theorem isFrameworkMethod :
    Introspection.isFrameworkMethod m' = Introspection.isFrameworkMethod m := by
  rw [Introspection.isFrameworkMethod, h.name, Introspection.isFrameworkMethod]

theorem isAccessor : Introspection.isAccessor m' = Introspection.isAccessor m := by
  rw [Introspection.isAccessor, h.name, h.hasNoParameters, h.returnsValue, h.returnType,
    Introspection.isAccessor]

end Method.SameButAnnotations

/-- A change of the annotations of a method that is a member. -/
structure Reannotation where
  method : Method
  changed : Method
  same : method.SameButAnnotations changed
  isMember : Introspection.isAccessor method ∨
    ProgrammingModel.standard.isReserved method.name = false

namespace Reannotation

open MethodPool (afterTake afterTakes)

variable (ch : Reannotation)

/-- The method after the change. -/
def swap (k : Method) : Method := if k = ch.method then ch.changed else k

/-- A test that gives the same for the changed method ignores the change. -/
theorem apply_swap {α : Type} (test : Method → α) (h : test ch.changed = test ch.method)
    (k : Method) : test (ch.swap k) = test k := by
  unfold swap
  split
  · subst_vars
    exact h
  · rfl

@[simp] theorem name_swap (k : Method) : (ch.swap k).name = k.name :=
  ch.apply_swap Method.name ch.same.name k

theorem swap_of_name_ne {k : Method} (h : k.name ≠ ch.method.name) : ch.swap k = k :=
  if_neg fun heq => h (congrArg Method.name heq)

/-- The test does not tell the method from the changed one. -/
def Ignores (test : Method → Bool) : Prop := test ch.changed = test ch.method

/-- The pool after the change. -/
def exchange (p : MethodPool) : MethodPool := ⟨p.unclaimed.map fun e => (e.1, ch.swap e.2)⟩

@[simp] theorem indices_exchange (p : MethodPool) : (ch.exchange p).indices = p.indices := by
  simp [exchange, MethodPool.indices, Function.comp_def]

theorem discard_exchange {test : Method → Bool} (h : ch.Ignores test)
    (p : MethodPool) : (ch.exchange p).discard test = ch.exchange (p.discard test) := by
  simp [exchange, MethodPool.discard, List.filter_map, Function.comp_def, ch.apply_swap test h]

theorem claim_exchange (p : MethodPool) (index : Nat) :
    (ch.exchange p).claim index = ch.exchange (p.claim index) := by
  simp [exchange, MethodPool.claim, List.filter_map, Function.comp_def]

variable {ch}

theorem isMatch_swap {t : Take} (h : ch.Ignores t.accept) (e : Nat × Method) :
    MethodPool.isMatch t.name t.accept (e.1, ch.swap e.2) =
      MethodPool.isMatch t.name t.accept e := by
  simp [MethodPool.isMatch, ch.apply_swap t.accept h]

theorem afterTake_exchange {t : Take} (h : ch.Ignores t.accept) (p : MethodPool) :
    (ch.exchange p).afterTake t = ch.exchange (p.afterTake t) := by
  simp [exchange, afterTake, MethodPool.take, List.eraseP_map, Function.comp_def, isMatch_swap h]

theorem first?_exchange {t : Take} (h : ch.Ignores t.accept) (p : MethodPool) :
    (ch.exchange p).first? t = (p.first? t).map ch.swap := by
  simp [exchange, MethodPool.first?, MethodPool.peek?, List.find?_map, Function.comp_def,
    isMatch_swap h]

/-! ### Contested methods -/

variable (ch)

/-- The capitalized name of what the method reads, if it is an accessor. -/
def reads? : Option String :=
  if Introspection.isAccessor ch.method then
    (Naming.propertyOf? ch.method.name).map Naming.capitalize
  else none

/-- The names of the methods that the method may claim with some annotations and not with
others. -/
def contested : List String :=
  ch.reads?.toList.flatMap fun X => elementWords.map fun word => word ++ X

/-- What is in a pool besides contested methods. -/
def uncontested (p : MethodPool) : MethodPool := p.discard fun k => ch.contested.contains k.name

/-- But for contested methods, the second pool is the first one after the change. -/
def Alike (p p' : MethodPool) : Prop := ch.uncontested p' = ch.exchange (ch.uncontested p)

variable {ch}

theorem exists_of_mem_contested {name : String} (h : name ∈ ch.contested) :
    ∃ X ∈ ch.reads?, ∃ word ∈ elementWords, name = word ++ X := by
  simp only [contested, List.mem_flatMap, Option.mem_toList, List.mem_map] at h
  obtain ⟨X, hX, word, hword, rfl⟩ := h
  exact ⟨X, hX, word, hword, rfl⟩

/-- A contested method supports what an accessor reads, so that its name is reserved. -/
theorem isReserved_of_mem_contested {name : String} (h : name ∈ ch.contested) :
    ProgrammingModel.standard.isReserved name := by
  obtain ⟨X, hX, word, hword, rfl⟩ := exists_of_mem_contested h
  unfold reads? at hX
  split at hX
  · obtain ⟨id, hid, rfl⟩ := Option.map_eq_some_iff.mp hX
    refine List.any_eq_true.mpr ⟨.collectionAddRemoveClear, by decide +kernel, ?_⟩
    refine List.any_eq_true.mpr ⟨word, ?_, Naming.startsWith_append_capitalize hid word⟩
    exact (by decide : ∀ word ∈ elementWords, word ∈ Factory.collectionAddRemoveClear.words)
      word hword
  · cases hX

theorem uncontested_afterTake_of_mem {t : Take} (h : t.name ∈ ch.contested) (p : MethodPool) :
    ch.uncontested (p.afterTake t) = ch.uncontested p := by
  show MethodPool.mk _ = MethodPool.mk _
  congr 1
  show (p.unclaimed.eraseP (MethodPool.isMatch t.name t.accept)).filter _ = p.unclaimed.filter _
  induction p.unclaimed with
  | nil => rfl
  | cons e entries ih =>
    by_cases hmatch : MethodPool.isMatch t.name t.accept e
    · have hname : e.2.name = t.name := by
        simp only [MethodPool.isMatch, Bool.and_eq_true, beq_iff_eq] at hmatch
        exact hmatch.1
      rw [List.eraseP_cons_of_pos hmatch, List.filter_cons_of_neg (by simp [hname, h])]
    · rw [List.eraseP_cons_of_neg hmatch, List.filter_cons, List.filter_cons, ih]

theorem uncontested_afterTake_of_not_mem {t : Take} (h : t.name ∉ ch.contested)
    (p : MethodPool) : ch.uncontested (p.afterTake t) = (ch.uncontested p).afterTake t := by
  have hmatch : ∀ e : Nat × Method, MethodPool.isMatch t.name t.accept e =
      (MethodPool.isMatch t.name t.accept e && !ch.contested.contains e.2.name) := by
    intro e
    rw [MethodPool.isMatch]
    cases hname : e.2.name == t.name with
    | false => rfl
    | true => simp [beq_iff_eq.mp hname, h]
  show MethodPool.mk (List.filter _ (p.unclaimed.eraseP _)) =
    MethodPool.mk ((p.unclaimed.filter _).eraseP _)
  rw [List.eraseP_filter]
  congr 3
  exact funext hmatch

/-- Of takes, only those of uncontested methods show. -/
theorem uncontested_afterTakes (ts : List Take) (p : MethodPool) :
    ch.uncontested (p.afterTakes ts) =
      (ch.uncontested p).afterTakes (ts.filter fun t => !ch.contested.contains t.name) := by
  induction ts generalizing p with
  | nil => rfl
  | cons t ts ih =>
    have hfirst := ih (p.afterTake t)
    by_cases h : t.name ∈ ch.contested
    · rw [uncontested_afterTake_of_mem h] at hfirst
      rw [List.filter_cons_of_neg (by simpa using h)]
      exact hfirst
    · rw [uncontested_afterTake_of_not_mem h] at hfirst
      rw [List.filter_cons_of_pos (by simpa using h)]
      exact hfirst

theorem afterTakes_exchange {ts : List Take} (h : ∀ t ∈ ts, ch.Ignores t.accept) (p : MethodPool) :
    (ch.exchange p).afterTakes ts = ch.exchange (p.afterTakes ts) := by
  induction ts generalizing p with
  | nil => rfl
  | cons t ts ih =>
    obtain ⟨ht, hts⟩ := List.forall_mem_cons.mp h
    show ((ch.exchange p).afterTake t).afterTakes ts = _
    rw [afterTake_exchange ht, ih hts]
    rfl

namespace Alike

variable {p p' : MethodPool}

theorem of_exchange (ch : Reannotation) (p : MethodPool) : ch.Alike p (ch.exchange p) :=
  ch.discard_exchange (by simp [Ignores, ch.same.name]) p

/-- Takes leave pools alike if they differ in what they ask of contested methods only. -/
theorem afterTakes (h : ch.Alike p p') {ts ts' : List Take}
    (hignores : ∀ t ∈ ts, ch.Ignores t.accept)
    (hsame : ts'.filter (fun t => !ch.contested.contains t.name) =
      ts.filter fun t => !ch.contested.contains t.name) :
    ch.Alike (p.afterTakes ts) (p'.afterTakes ts') := by
  have hrest : ∀ t ∈ ts.filter fun t => !ch.contested.contains t.name, ch.Ignores t.accept :=
    fun t ht => hignores t (List.mem_filter.mp ht).1
  rw [Alike, uncontested_afterTakes, uncontested_afterTakes, hsame,
    show ch.uncontested p' = _ from h, afterTakes_exchange hrest]

/-- A take finds the same in both pools, if it does not ask for a contested method. -/
theorem first? (h : ch.Alike p p') {t : Take} (hignores : ch.Ignores t.accept)
    (hname : t.name ∉ ch.contested) : p'.first? t = (p.first? t).map ch.swap := by
  have hseen (q : MethodPool) : (ch.uncontested q).first? t = q.first? t := by
    rw [MethodPool.first?, MethodPool.first?, MethodPool.peek?_eq_head?, MethodPool.peek?_eq_head?,
      uncontested, MethodPool.matching_discard _ fun k hk => by simpa [hk] using hname]
  rw [← hseen p', show ch.uncontested p' = _ from h, first?_exchange hignores, hseen]

theorem claim (h : ch.Alike p p') (index : Nat) : ch.Alike (p.claim index) (p'.claim index) := by
  have hcomm (q : MethodPool) : ch.uncontested (q.claim index) = (ch.uncontested q).claim index :=
    congrArg MethodPool.mk (List.filter_comm ..)
  rw [Alike, hcomm, hcomm, show ch.uncontested p' = _ from h, claim_exchange]

end Alike

end Reannotation

/-! ### Facets without the pool

What a factory attaches depends on the facets that are there and on the method that a take finds. -/

namespace Analysis

section Declared

variable {a a' : Analysis} (h : a'.facets = a.facets) (env : Environment) (c : Class)
  (m : MemberContext) (annotations : List Annotation) (type : TypeRef)
include h

theorem facets_localized_congr (simpleName : String) (facet : String → Facet.Data) :
    (a'.localized env c annotations simpleName facet).facets =
      (a.localized env c annotations simpleName facet).facets := by
  unfold localized
  split <;> simp [attach, h]

theorem facets_objectType_congr : (a'.objectType c).facets = (a.objectType c).facets := by
  unfold objectType
  split
  · simp [attach, h]
  · split <;> simp [attachDerived, h]

theorem facets_layout_congr : (a'.layout env c).facets = (a.layout env c).facets := by
  unfold layout
  split <;> simp [attach, h]

theorem facets_valueClass_congr : (a'.valueClass c).facets = (a.valueClass c).facets := by
  unfold valueClass
  split <;> split <;> simp [attachValueKind, attach, attachDerived, report, h]

theorem facets_collectionClass_congr :
    (a'.collectionClass env c).facets = (a.collectionClass env c).facets := by
  unfold collectionClass
  split
  · split <;> simp [attach, attachDerived, h]
  · exact h

theorem facets_immutableClass_congr :
    (a'.immutableClass c).facets = (a.immutableClass c).facets := by
  unfold immutableClass
  split <;> simp [attach, h]

theorem facets_notPersistableClass_congr :
    (a'.notPersistableClass c).facets = (a.notPersistableClass c).facets := by
  unfold notPersistableClass
  split <;> simp [attach, report, h]

theorem facets_memberOrder_congr : (a'.memberOrder m).facets = (a.memberOrder m).facets := by
  unfold memberOrder
  split
  · exact h
  · split <;> simp [attach, report, h]

theorem facets_hidden_congr : (a'.hidden annotations).facets = (a.hidden annotations).facets := by
  unfold hidden
  split
  · exact h
  · split
    · simp [attach, h]
    · split <;> simp [attach, report, h]

theorem facets_disabled_congr : (a'.disabled m).facets = (a.disabled m).facets := by
  unfold disabled
  split
  · simp [attach, h]
  · split <;> simp [attachDerived, h]

theorem facets_filtered_congr : (a'.filtered env m).facets = (a.filtered env m).facets := by
  unfold filtered
  split <;> simp [attach, h]

theorem facets_inferredElement_congr :
    (a'.inferredElement env m).facets = (a.inferredElement env m).facets := by
  unfold inferredElement
  split
  · exact h
  · split <;> simp [attachDerived, h]

theorem facets_elementType_congr :
    (a'.elementType env m).facets = (a.elementType env m).facets := by
  unfold elementType
  split
  · exact facets_inferredElement_congr h env m
  · simp [attach, h]
  · exact facets_inferredElement_congr (by simp [report, h]) env m

theorem facets_mandatory_congr :
    (a'.mandatory env annotations type).facets = (a.mandatory env annotations type).facets := by
  unfold mandatory
  split <;> split <;> simp [attach, attachDerived, report, h]

theorem facets_maxLength_congr :
    (a'.maxLength annotations).facets = (a.maxLength annotations).facets := by
  unfold maxLength
  split
  · exact h
  · split <;> simp [attach, report, h]

theorem facets_pattern_congr :
    (a'.pattern annotations type).facets = (a.pattern annotations type).facets := by
  unfold pattern
  split
  · split
    · exact h
    · split
      · exact h
      · split <;> simp [attach, report, h]
  · exact h

end Declared

section Claimed

variable (a : Analysis) (name : String) (accept : Method → Bool)

theorem take_eq : a.take name accept =
    (a.pool.first? ⟨name, accept⟩, { a with pool := a.pool.afterTake ⟨name, accept⟩ }) := rfl

theorem facets_attachClaimed (facet : Method → Facet.Data) :
    (a.attachClaimed name accept facet).facets =
      (a.pool.first? ⟨name, accept⟩).elim a.facets fun s => a.facets.attach (facet s) := by
  rw [attachClaimed, take_eq]
  cases a.pool.first? ⟨name, accept⟩ <;> rfl

theorem facets_collectionChange (m : MemberContext) (word : String)
    (facet : Facet.Mutation → Facet.Data) :
    (a.collectionChange m word accept facet).facets =
      (a.pool.first? ⟨m.supporting word, accept⟩).elim
        (a.facets.attachDerived (facet (.viaAccessor m.method.name)))
        fun s => a.facets.attach (facet (.method s.name)) := by
  rw [collectionChange, take_eq]
  cases a.pool.first? ⟨m.supporting word, accept⟩ <;> rfl

theorem facets_search (env : Environment) (choices : Facet.Kind)
    (facet : String → Nat → Facet.Data) :
    (a.search env name choices facet).facets =
      (a.pool.first? ⟨name, searches⟩).elim a.facets
        fun s => a.facets.attach (facet s.name (minSearchLength env s)) := by
  rw [search, take_eq]
  cases a.pool.first? ⟨name, searches⟩ with
  | none => rfl
  | some s => dsimp only; split <;> rfl

end Claimed

end Analysis

namespace Reannotation

variable {ch : Reannotation}

/-! ### Two analyses of another element -/

/-- The two analyses of an element are alike: it has the same facets, and the pools are alike. -/
structure AlikeIn (ch : Reannotation) (a a' : Analysis) : Prop where
  facets : a'.facets = a.facets
  pool : ch.Alike a.pool a'.pool

theorem ignores_of_mem_takesOnClass {f : Factory} : ∀ t ∈ f.takesOnClass, ch.Ignores t.accept := by
  cases f <;> simp [Factory.takesOnClass, Ignores, ch.same.isGetter]

/-- **No take for a member looks at annotations.** -/
theorem ignores_of_mem_takesOnMember {f : Factory} {m : MemberContext} {facets : FacetHolder} :
    ∀ t ∈ f.takesOnMember m facets, ch.Ignores t.accept := by
  cases f <;> simp [Factory.takesOnMember, Ignores, ch.same.isGetter, ch.same.isVoid,
    ch.same.hasNoParameters, ch.same.hasParameterTypes, ch.same.searches, ch.same.takesElement,
    ch.same.validatesOne]

theorem ignores_of_mem_takesOnParameter {f : Factory} {p : ParameterContext} :
    ∀ t ∈ f.takesOnParameter p, ch.Ignores t.accept := by
  cases f <;> simp [Factory.takesOnParameter, Ignores, ch.same.returnsValue, ch.same.searches]

namespace AlikeIn

variable {a a' : Analysis} (h : ch.AlikeIn a a')
include h

theorem attachClaimed {name : String} {accept : Method → Bool} (facet : String → Facet.Data)
    (hname : name ∉ ch.contested) (hignores : ch.Ignores accept) :
    ch.AlikeIn (a.attachClaimed name accept fun s => facet s.name)
      (a'.attachClaimed name accept fun s => facet s.name) where
  facets := by
    rw [Analysis.facets_attachClaimed, Analysis.facets_attachClaimed, h.facets,
      h.pool.first? hignores hname]
    cases a.pool.first? ⟨name, accept⟩ <;> simp
  pool := by
    rw [Analysis.pool_attachClaimed, Analysis.pool_attachClaimed]
    exact h.pool.afterTakes (List.forall_mem_singleton.mpr hignores) rfl

theorem collectionChange (m : MemberContext) {word : String} {accept : Method → Bool}
    (facet : Facet.Mutation → Facet.Data) (hname : m.supporting word ∉ ch.contested)
    (hignores : ch.Ignores accept) :
    ch.AlikeIn (a.collectionChange m word accept facet)
      (a'.collectionChange m word accept facet) where
  facets := by
    rw [Analysis.facets_collectionChange, Analysis.facets_collectionChange, h.facets,
      h.pool.first? hignores hname]
    cases a.pool.first? ⟨m.supporting word, accept⟩ <;> simp
  pool := by
    rw [Analysis.pool_collectionChange, Analysis.pool_collectionChange]
    exact h.pool.afterTakes (List.forall_mem_singleton.mpr hignores) rfl

/-- A search reads an annotation of the method that it finds, so it must not find the one that is
changed. -/
theorem search (env : Environment) {name : String} (choices : Facet.Kind)
    (facet : String → Nat → Facet.Data) (hname : name ∉ ch.contested)
    (hother : name ≠ ch.method.name) :
    (a'.search env name choices facet).facets = (a.search env name choices facet).facets := by
  have hignores : ch.Ignores Analysis.searches := ch.same.searches
  rw [Analysis.facets_search, Analysis.facets_search, h.facets, h.pool.first? hignores hname]
  cases hfound : a.pool.first? ⟨name, Analysis.searches⟩ with
  | none => rfl
  | some s =>
    have hs : s.name = name := MethodPool.name_of_peek? hfound
    rw [Option.map_some, ch.swap_of_name_ne (hs ▸ hother)]

theorem collectionValidation (m : MemberContext)
    (hnames : ∀ t ∈ Factory.collectionValidate.takesOnMember m a.facets, t.name ∉ ch.contested) :
    (a'.collectionValidation m).facets = (a.collectionValidation m).facets := by
  simp only [Factory.takesOnMember, List.forall_mem_cons] at hnames
  have hadd := h.attachClaimed .collectionValidateAddTo hnames.1 ch.same.validatesOne
  exact (hadd.attachClaimed .collectionValidateRemoveFrom hnames.2.1 ch.same.validatesOne).facets

theorem collectionChanges (m : MemberContext)
    (hnames : ∀ t ∈ Factory.collectionAddRemoveClear.takesOnMember m a.facets,
      t.name ∉ ch.contested) :
    (a'.collectionChanges m).facets = (a.collectionChanges m).facets := by
  simp only [Factory.takesOnMember, List.forall_mem_cons] at hnames
  obtain ⟨hadd, hremove, hclear, -⟩ := hnames
  have haccept := ch.same.takesElement a.facets.elementType?
  unfold Analysis.collectionChanges
  rw [h.facets]
  exact (((h.collectionChange m .collectionAddTo hadd haccept).collectionChange m
    .collectionRemoveFrom hremove haccept).collectionChange m .collectionClear hclear
      ch.same.hasNoParameters).facets

theorem propertySetAndClear (m : MemberContext)
    (hnames : ∀ t ∈ Introspection.changeTakes (Naming.capitalize m.id) m.method.returnType,
      t.name ∉ ch.contested) :
    (a'.propertySetAndClear m).facets = (a.propertySetAndClear m).facets := by
  have hfirst {t : Take}
      (ht : t ∈ Introspection.changeTakes (Naming.capitalize m.id) m.method.returnType) :
      a'.pool.first? t = (a.pool.first? t).map ch.swap := by
    have htake : t ∈ Factory.propertySetAndClear.takesOnMember m a.facets := ht
    exact h.pool.first? (ignores_of_mem_takesOnMember t htake) (hnames t ht)
  -- what is attached names the methods found, and their names are the same
  have hsetter (modify setter : Option Method) :
      (a'.attachSetter (modify.map ch.swap) (setter.map ch.swap)).facets =
        (a.attachSetter modify setter).facets := by
    rw [Analysis.facets_attachSetter_congr _ _ h.facets]
    cases modify <;> cases setter <;> simp [Analysis.attachSetter]
  have hclearing (b : Analysis) (clear setter : Option Method) :
      b.attachClearing (clear.map ch.swap) (setter.map ch.swap) =
        b.attachClearing clear setter := by
    cases clear <;> cases setter <;> simp [Analysis.attachClearing]
  have hfacets' := a'.facets_propertySetAndClear m
  rw [hfirst (by simp [Introspection.changeTakes]), hfirst (by simp [Introspection.changeTakes]),
    hfirst (by simp [Introspection.changeTakes])] at hfacets'
  rw [a.facets_propertySetAndClear m, hfacets', hclearing]
  exact Analysis.facets_attachClearing_congr _ _ (hsetter _ _)

end AlikeIn

/-- **A factory that asks for no contested method sees no difference.** -/
theorem alike_onMember {f : Factory} (env : Environment) {m : MemberContext} {a a' : Analysis}
    (h : ch.AlikeIn a a') (hnames : ∀ t ∈ f.takesOnMember m a.facets, t.name ∉ ch.contested)
    (hsearch : f = .propertyAutoComplete → m.supporting "autoComplete" ≠ ch.method.name) :
    ch.AlikeIn (f.onMember env m a) (f.onMember env m a') where
  pool := by
    rw [Factory.pool_onMember, Factory.pool_onMember, h.facets]
    exact h.pool.afterTakes ignores_of_mem_takesOnMember rfl
  facets := by
    have hclaim {name : String} {accept : Method → Bool} (facet : String → Facet.Data)
        (ht : ⟨name, accept⟩ ∈ f.takesOnMember m a.facets) :
        (a'.attachClaimed name accept fun s => facet s.name).facets =
          (a.attachClaimed name accept fun s => facet s.name).facets :=
      (h.attachClaimed facet (hnames _ ht) (ignores_of_mem_takesOnMember _ ht)).facets
    cases f with
    | named => exact Analysis.facets_localized_congr h.facets env _ _ _ _
    | describedAs => exact Analysis.facets_localized_congr h.facets env _ _ _ _
    | memberOrder => exact Analysis.facets_memberOrder_congr h.facets m
    | hiddenAnnotation => exact Analysis.facets_hidden_congr h.facets _
    | disabledAnnotation => exact Analysis.facets_disabled_congr h.facets m
    | hideMethod => exact hclaim .hideForContext List.mem_cons_self
    | disableMethod => exact hclaim .disableForContext List.mem_cons_self
    | propertyAccessor => exact congrArg (FacetHolder.attach · _) h.facets
    | propertySetAndClear => exact h.propertySetAndClear m hnames
    | mandatory => exact Analysis.facets_mandatory_congr h.facets env _ _
    | maxLength => exact Analysis.facets_maxLength_congr h.facets _
    | regex => exact Analysis.facets_pattern_congr h.facets _ _
    | propertyChoices => exact hclaim .propertyChoices List.mem_cons_self
    | propertyAutoComplete => exact h.search env _ _ (hnames _ List.mem_cons_self) (hsearch rfl)
    | propertyDefault => exact hclaim .propertyDefault List.mem_cons_self
    | propertyValidate => exact hclaim .propertyValidate List.mem_cons_self
    | collectionAccessor => exact congrArg (FacetHolder.attach · _) h.facets
    | typeOf => exact Analysis.facets_elementType_congr h.facets env m
    | collectionAddRemoveClear => exact h.collectionChanges m hnames
    | collectionValidate => exact h.collectionValidation m hnames
    | filterVisibility => exact Analysis.facets_filtered_congr h.facets env m
    | actionInvocation => exact congrArg (FacetHolder.attach · _) h.facets
    | actionValidate => exact hclaim .actionValidate List.mem_cons_self
    | _ => exact h.facets

/-- **A factory that looks at a parameter sees no difference either.** -/
theorem alike_onParameter {f : Factory} (env : Environment) {p : ParameterContext}
    {a a' : Analysis} (h : ch.AlikeIn a a')
    (hnames : ∀ t ∈ f.takesOnParameter p, t.name ∉ ch.contested)
    (hsearch : p.supporting "autoComplete" ≠ ch.method.name) :
    ch.AlikeIn (f.onParameter env p a) (f.onParameter env p a') where
  pool := by
    rw [Factory.pool_onParameter, Factory.pool_onParameter]
    exact h.pool.afterTakes ignores_of_mem_takesOnParameter rfl
  facets := by
    have hclaim {name : String} {accept : Method → Bool} (facet : String → Facet.Data)
        (ht : ⟨name, accept⟩ ∈ f.takesOnParameter p) :
        (a'.attachClaimed name accept fun s => facet s.name).facets =
          (a.attachClaimed name accept fun s => facet s.name).facets :=
      (h.attachClaimed facet (hnames _ ht) (ignores_of_mem_takesOnParameter _ ht)).facets
    cases f with
    | named => exact Analysis.facets_localized_congr h.facets env _ _ _ _
    | describedAs => exact Analysis.facets_localized_congr h.facets env _ _ _ _
    | mandatory => exact Analysis.facets_mandatory_congr h.facets env _ _
    | maxLength => exact Analysis.facets_maxLength_congr h.facets _
    | regex => exact Analysis.facets_pattern_congr h.facets _ _
    | actionParameterChoices => exact hclaim .actionParameterChoices List.mem_cons_self
    | actionParameterDefault => exact hclaim .actionParameterDefaults List.mem_cons_self
    | actionParameterAutoComplete =>
      exact h.search env _ _ (hnames _ List.mem_cons_self) hsearch
    | _ => exact h.facets

end Reannotation
end Facetry
