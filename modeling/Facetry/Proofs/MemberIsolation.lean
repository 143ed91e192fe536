/-
# Members and classes after a change of annotations

The analysis of one element, before and after the annotations of a method are changed. The analysis
of another member asks for no contested method: the words that a contested name starts with are
apart from the other words, and the rest of the name is what the changed method reads. Nor does a
search find the changed method, whose annotations it would read. So the other member is the same,
and the pools stay alike (`Reannotation.alike_member`). The analysis of the member itself may come
to something else, but what it takes differs in contested methods only
(`Reannotation.alike_member_context`).

A factory for classes reads no annotation of a method but those for titles, so that the class has
the same facets, but for its layout (`Reannotation.facets_analyseClass`). Members know their class
by its name and by whether it is immutable (`Introspection.member_owner_congr`).

Key definitions: `Reannotation.IsOther`, `Reannotation.context`, `Reannotation.onClass`.
Key theorems: `Reannotation.alike_member`, `Reannotation.alike_member_context`,
`Introspection.member_owner_congr`, `Reannotation.facets_analyseClass`.
-/
import Facetry.Proofs.ChangedAnnotations
import Facetry.Proofs.WrittenNumbers

namespace Facetry

namespace Reannotation

open Introspection

variable {ch : Reannotation} {model : ProgrammingModel} {env : Environment}

/-! ### Names that other members ask for -/

theorem mem_apartWords_of_mem_elementWords {w : String} (h : w ∈ elementWords) : w ∈ apartWords :=
  List.mem_append_right _ h

/-- A member with another name asks for no contested method. -/
theorem not_mem_contested_onMember {f : Factory} {m : MemberContext} {facets : FacetHolder}
    (h : ∀ X ∈ ch.reads?, Naming.capitalize m.id ≠ X) :
    ∀ t ∈ f.takesOnMember m facets, t.name ∉ ch.contested := by
  intro t ht hmem
  obtain ⟨X, hX, w, hw, hname⟩ := exists_of_mem_contested hmem
  exact Factory.name_ne_onMember (mem_apartWords_of_mem_elementWords hw) (.inr (h X hX)) t ht hname

/-- A parameter asks for no contested method. -/
theorem not_mem_contested_onParameter {f : Factory} {p : ParameterContext} :
    ∀ t ∈ f.takesOnParameter p, t.name ∉ ch.contested := by
  intro t ht hmem
  obtain ⟨X, -, w, hw, hname⟩ := exists_of_mem_contested hmem
  exact Factory.name_ne_onParameter (mem_apartWords_of_mem_elementWords hw) X p t ht hname

/-- The method is none that searches: it is an accessor, or its name is not reserved. -/
theorem search_ne {rest : String}
    (h : Naming.startsWith "autoComplete" ("autoComplete" ++ rest)) :
    "autoComplete" ++ rest ≠ ch.method.name := by
  intro heq
  rcases ch.isMember with haccessor | hfree
  · rw [isAccessor_eq_false (by decide) heq.symm] at haccessor
    cases haccessor
  · have hreserved : ProgrammingModel.standard.isReserved ch.method.name := by
      rw [← heq]
      exact List.any_eq_true.mpr ⟨.propertyAutoComplete, by decide +kernel,
        List.any_eq_true.mpr ⟨_, List.mem_cons_self, h⟩⟩
    rw [hfree] at hreserved
    cases hreserved

theorem search_ne_onMember {m : MemberContext} {name : String}
    (h : Naming.propertyOf? name = some m.id) : m.supporting "autoComplete" ≠ ch.method.name :=
  search_ne (Naming.startsWith_append_capitalize h _)

/-- The number of a parameter starts a new word. -/
theorem search_ne_onParameter (p : ParameterContext) :
    p.supporting "autoComplete" ≠ ch.method.name := by
  obtain ⟨c, cs, hdigits⟩ := List.exists_cons_of_ne_nil (Text.digitsOf_ne_nil p.index)
  have hc : c.isDigit := Text.isDigit_of_mem_digitsOf (hdigits ▸ List.mem_cons_self)
  have hname : Text.natText p.index ++ Naming.capitalize p.id =
      String.ofList (c :: (cs ++ (Naming.capitalize p.id).toList)) := by
    rw [Text.natText, hdigits, ← List.cons_append, String.ofList_append, String.ofList_toList]
  rw [ParameterContext.supporting, String.append_assoc, hname]
  exact search_ne (Naming.startsWith_of_startsWord (by simp [Naming.startsWord, hc]) _)

/-! ### Other members -/

theorem alike_foldl {step : Analysis → Factory → Analysis} {fs : List Factory}
    (hstep : ∀ f ∈ fs, ∀ a a', ch.AlikeIn a a' → ch.AlikeIn (step a f) (step a' f))
    {a a' : Analysis} (h : ch.AlikeIn a a') :
    ch.AlikeIn (fs.foldl step a) (fs.foldl step a') := by
  induction fs generalizing a a' with
  | nil => exact h
  | cons f fs ih =>
    obtain ⟨hf, hfs⟩ := List.forall_mem_cons.mp hstep
    exact ih hfs (hf a a' h)

theorem alike_analyseParameter (model : ProgrammingModel) (env : Environment)
    (p : ParameterContext) {a a' : Analysis} (h : ch.AlikeIn a a') :
    ch.AlikeIn (model.analyseParameter env p a) (model.analyseParameter env p a') := by
  refine alike_foldl (fun f _ b b' h => ?_) h
  exact alike_onParameter env h not_mem_contested_onParameter (search_ne_onParameter p)

theorem alike_parametersFrom (model : ProgrammingModel) (env : Environment) (m : MemberContext)
    (index : Nat) (ps : List Parameter) {a a' : Analysis} (h : ch.Alike a.pool a'.pool) :
    (parametersFrom model env m index ps a').1 = (parametersFrom model env m index ps a).1 ∧
      ch.Alike (parametersFrom model env m index ps a).2.pool
        (parametersFrom model env m index ps a').2.pool := by
  induction ps generalizing index a a' with
  | nil => exact ⟨rfl, h⟩
  | cons p ps ih =>
    have hstart : ch.AlikeIn (a.turnTo (.ofParameter m.owner.name m.id index))
        (a'.turnTo (.ofParameter m.owner.name m.id index)) := ⟨rfl, h⟩
    have hfirst := alike_analyseParameter model env ⟨m.owner, m.method, m.id, index, p⟩ hstart
    obtain ⟨hrest, hlast⟩ := ih (index + 1) hfirst.pool
    refine ⟨?_, hlast⟩
    simp only [parametersFrom]
    rw [hfirst.facets, hrest]

/-- Whether a member is another one than the one that is changed: it has another name, and if it is
no action, the name of something that is read. -/
structure IsOther (ch : Reannotation) (m : MemberContext) : Prop where
  id : ∀ X ∈ ch.reads?, Naming.capitalize m.id ≠ X
  read : m.feature ≠ .action → Naming.propertyOf? m.method.name = some m.id

theorem alike_analyseMember (model : ProgrammingModel) (env : Environment) {m : MemberContext}
    (hm : ch.IsOther m) {a a' : Analysis} (h : ch.AlikeIn a a') :
    ch.AlikeIn (model.analyseMember env m a) (model.analyseMember env m a') := by
  refine alike_foldl (fun f hf b b' h => ?_) h
  refine alike_onMember env h (not_mem_contested_onMember hm.id) fun hsearch => ?_
  subst hsearch
  have hproperty : m.feature = .property := by
    simpa [Factory.appliesTo, Factory.features] using (List.mem_filter.mp hf).2
  exact search_ne_onMember (hm.read (by simp [hproperty]))

/-- **Another member is the same after the change**, and leaves alike what was alike. -/
theorem alike_member (model : ProgrammingModel) (env : Environment) {m : MemberContext}
    (hm : ch.IsOther m) {a a' : Analysis} (h : ch.Alike a.pool a'.pool) :
    (member model env m a').1 = (member model env m a).1 ∧
      ch.Alike (member model env m a).2.pool (member model env m a').2.pool := by
  have hstart : ch.AlikeIn (a.turnTo (.ofMember m.owner.name m.id))
      (a'.turnTo (.ofMember m.owner.name m.id)) := ⟨rfl, h⟩
  have hanalysed := alike_analyseMember model env hm hstart
  obtain ⟨hparameters, hlast⟩ := alike_parametersFrom model env m 0
    (if m.feature = .action then m.method.parameters else []) hanalysed.pool
  refine ⟨?_, hlast⟩
  rw [member, member]
  simp only [hanalysed.facets, hparameters]

/-! ### The member itself -/

/-- The member after the change, as the factories see it. -/
def context (ch : Reannotation) (m : MemberContext) : MemberContext :=
  { m with method := ch.changed }

theorem alike_pool_foldl {step step' : Analysis → Factory → Analysis} {fs : List Factory}
    (hstep : ∀ f ∈ fs, ∀ a a', ch.Alike a.pool a'.pool → ch.Alike (step a f).pool (step' a' f).pool)
    {a a' : Analysis} (h : ch.Alike a.pool a'.pool) :
    ch.Alike (fs.foldl step a).pool (fs.foldl step' a').pool := by
  induction fs generalizing a a' with
  | nil => exact h
  | cons f fs ih =>
    obtain ⟨hf, hfs⟩ := List.forall_mem_cons.mp hstep
    exact ih hfs (hf a a' h)

theorem takesOnMember_context {m : MemberContext} (hm : m.method = ch.method) {f : Factory}
    (hf : f = .collectionAddRemoveClear → ch.reads? = some (Naming.capitalize m.id))
    (facets facets' : FacetHolder) :
    (f.takesOnMember (ch.context m) facets').filter (fun t => !ch.contested.contains t.name) =
      (f.takesOnMember m facets).filter fun t => !ch.contested.contains t.name := by
  have hsupporting (word : String) : (ch.context m).supporting word = m.supporting word := rfl
  by_cases hchanges : f = .collectionAddRemoveClear
  · subst hchanges
    have hmem : ∀ word ∈ elementWords, m.supporting word ∈ ch.contested := by
      intro word hword
      rw [contested, hf rfl]
      simp only [Option.toList_some, List.flatMap_singleton]
      exact List.mem_map_of_mem hword
    simp [Factory.takesOnMember, hsupporting, hmem _ List.mem_cons_self,
      hmem "removeFrom" (by decide)]
  · have hsame : f.takesOnMember (ch.context m) facets' = f.takesOnMember m facets := by
      cases f <;> first
        | exact absurd rfl hchanges
        | simp [Factory.takesOnMember, MemberContext.supporting, context, hm, ch.same.returnType,
            ch.same.types]
    rw [hsame]

/-- Which takes are made for a parameter does not depend on its annotations. -/
theorem takesOnParameter_congr {p p' : ParameterContext} (hid : p'.id = p.id)
    (hindex : p'.index = p.index) (f : Factory) : f.takesOnParameter p' = f.takesOnParameter p := by
  cases f <;> simp [Factory.takesOnParameter, ParameterContext.supporting, hid, hindex]

theorem alike_parametersFrom_context (m : MemberContext) (index : Nat) {ps ps' : List Parameter}
    (hlength : ps'.length = ps.length) {a a' : Analysis} (h : ch.Alike a.pool a'.pool) :
    ch.Alike (parametersFrom model env m index ps a).2.pool
      (parametersFrom model env (ch.context m) index ps' a').2.pool := by
  induction ps generalizing ps' index a a' with
  | nil =>
    obtain rfl := List.length_eq_zero_iff.mp hlength
    exact h
  | cons p ps ih =>
    obtain ⟨p', ps', rfl⟩ := List.exists_cons_of_length_eq_add_one hlength
    refine ih (index + 1) (Nat.succ.inj hlength) ?_
    refine alike_pool_foldl (fun f _ b b' h => ?_) h
    rw [Factory.pool_onParameter, Factory.pool_onParameter]
    exact h.afterTakes ignores_of_mem_takesOnParameter
      (congrArg (List.filter _) (takesOnParameter_congr rfl rfl f))

/-- **The member that is changed leaves alike what was alike**: only contested methods are claimed
otherwise. -/
theorem alike_member_context (model : ProgrammingModel) (env : Environment) {m : MemberContext}
    (hm : m.method = ch.method)
    (hreads : m.feature ≠ .action → ch.reads? = some (Naming.capitalize m.id)) {a a' : Analysis}
    (h : ch.Alike a.pool a'.pool) :
    ch.Alike (member model env m a).2.pool (member model env (ch.context m) a').2.pool := by
  have hanalysed : ch.Alike
      (model.analyseMember env m (a.turnTo (.ofMember m.owner.name m.id))).pool
      (model.analyseMember env (ch.context m) (a'.turnTo (.ofMember m.owner.name m.id))).pool := by
    refine alike_pool_foldl (fun f hf b b' h => ?_) h
    rw [Factory.pool_onMember, Factory.pool_onMember]
    refine h.afterTakes ignores_of_mem_takesOnMember
      (takesOnMember_context hm (fun hchanges => ?_) _ _)
    subst hchanges
    have hcollection : m.feature = .collection := by
      simpa [Factory.appliesTo, Factory.features] using (List.mem_filter.mp hf).2
    exact hreads (by simp [hcollection])
  refine alike_parametersFrom_context m 0 ?_ hanalysed
  show (if m.feature = .action then ch.changed.parameters else []).length =
    (if m.feature = .action then m.method.parameters else []).length
  split
  · exact hm ▸ ch.same.arity
  · rfl

end Reannotation

/-! ### Owners of one name -/

section Owner

variable {env : Environment} {model : ProgrammingModel} {c c' : Class} {F F' : FacetHolder}
  (hname : c'.name = c.name) (himmutable : F'.contains .immutable = F.contains .immutable)

namespace Factory

include hname himmutable in
theorem onMember_owner_congr (f : Factory) (method : Method) (id : String) (feature : Feature)
    (a : Analysis) :
    f.onMember env ⟨c', F', method, id, feature⟩ a =
      f.onMember env ⟨c, F, method, id, feature⟩ a := by
  cases f <;> first
    | rfl
    | simp only [onMember, Analysis.localized, Analysis.disabled, hname, himmutable]

include hname in
theorem onParameter_owner_congr (f : Factory) (method : Method) (id : String) (index : Nat)
    (p : Parameter) (a : Analysis) :
    f.onParameter env ⟨c', method, id, index, p⟩ a =
      f.onParameter env ⟨c, method, id, index, p⟩ a := by
  cases f <;> first
    | rfl
    | simp only [onParameter, Analysis.localized, hname]

end Factory

namespace Introspection

include hname in
theorem parametersFrom_owner_congr (F F' : FacetHolder) (method : Method) (id : String)
    (feature : Feature) (index : Nat) (ps : List Parameter) (a : Analysis) :
    parametersFrom model env ⟨c', F', method, id, feature⟩ index ps a =
      parametersFrom model env ⟨c, F, method, id, feature⟩ index ps a := by
  induction ps generalizing index a with
  | nil => rfl
  | cons p ps ih =>
    simp only [parametersFrom, ProgrammingModel.analyseParameter, hname, ih,
      Factory.onParameter_owner_congr hname]

include hname himmutable

/-- **A member depends on its class through its name and on whether it is immutable** alone. -/
theorem member_owner_congr (method : Method) (id : String) (feature : Feature) (a : Analysis) :
    member model env ⟨c', F', method, id, feature⟩ a =
      member model env ⟨c, F, method, id, feature⟩ a := by
  simp only [member, ProgrammingModel.analyseMember, hname,
    Factory.onMember_owner_congr hname himmutable, parametersFrom_owner_congr hname F F']

theorem associationsOf_owner_congr (entries : List (Nat × Method)) (a : Analysis) :
    associationsOf model env c' F' entries a = associationsOf model env c F entries a := by
  induction entries generalizing a with
  | nil => rfl
  | cons e entries ih => simp only [associationsOf, member_owner_congr hname himmutable, ih]

theorem actionsOf_owner_congr (entries : List (Nat × Method)) (a : Analysis) :
    actionsOf model env c' F' entries a = actionsOf model env c F entries a := by
  induction entries generalizing a with
  | nil => rfl
  | cons e entries ih => simp only [actionsOf, member_owner_congr hname himmutable, ih]

end Introspection

end Owner

namespace Introspection

/-! ### Runs one after another -/

variable {model : ProgrammingModel} {env : Environment} {c : Class} {F : FacetHolder}

theorem associationsOf_append (xs ys : List (Nat × Method)) (a : Analysis) :
    associationsOf model env c F (xs ++ ys) a =
      ((associationsOf model env c F xs a).1 ++
        (associationsOf model env c F ys (associationsOf model env c F xs a).2).1,
      (associationsOf model env c F ys (associationsOf model env c F xs a).2).2) := by
  induction xs generalizing a with
  | nil => rfl
  | cons e xs ih =>
    obtain ⟨index, accessor⟩ := e
    cases hid : Naming.propertyOf? accessor.name <;>
      simp only [List.cons_append, associationsOf, hid, ih]

theorem actionsOf_append (xs ys : List (Nat × Method)) (a : Analysis) :
    actionsOf model env c F (xs ++ ys) a =
      ((actionsOf model env c F xs a).1 ++
        (actionsOf model env c F ys (actionsOf model env c F xs a).2).1,
      (actionsOf model env c F ys (actionsOf model env c F xs a).2).2) := by
  induction xs generalizing a with
  | nil => rfl
  | cons e xs ih =>
    by_cases hpresent : a.pool.contains e.1
    · rw [List.cons_append, actionsOf_cons_of_contains hpresent,
        actionsOf_cons_of_contains hpresent, ih]
      rfl
    · rw [List.cons_append, actionsOf_cons_of_not_contains hpresent,
        actionsOf_cons_of_not_contains hpresent, ih]

end Introspection

namespace Reannotation

open Introspection

variable {ch : Reannotation} {model : ProgrammingModel} {env : Environment} {c : Class}
  {F : FacetHolder} {a a' : Analysis}

/-! ### The class itself -/

/-- The class after the change. -/
def onClass (ch : Reannotation) (c : Class) : Class := { c with methods := c.methods.map ch.swap }

theorem ofClass_onClass (ch : Reannotation) (c : Class) :
    MethodPool.ofClass (ch.onClass c) = ch.exchange (MethodPool.ofClass c) := by
  have hmap (methods : List Method) : (methods.map ch.swap).mapIdx (fun i k => (i, k)) =
      (methods.mapIdx fun i k => (i, k)).map fun e => (e.1, ch.swap e.2) := by
    refine List.ext_getElem? fun i => ?_
    simp only [List.getElem?_mapIdx, List.getElem?_map, Option.map_map, Function.comp_def]
  exact congrArg MethodPool.mk (hmap c.methods)

theorem pool_start_onClass (ch : Reannotation) (c : Class) :
    (start (ch.onClass c)).pool = ch.exchange (start c).pool := by
  show (MethodPool.ofClass (ch.onClass c)).discard isExcluded = _
  rw [ofClass_onClass, discard_exchange _ ch.same.isExcluded]
  rfl

theorem pool_foldl_onClass (env : Environment) (c : Class) (fs : List Factory) (c' : Class)
    (h : a'.pool = ch.exchange a.pool) :
    (fs.foldl (fun a f => f.onClass env c' a) a').pool =
      ch.exchange (fs.foldl (fun a f => f.onClass env c a) a).pool := by
  induction fs generalizing a a' with
  | nil => exact h
  | cons f fs ih =>
    refine ih ?_
    rw [Factory.pool_onClass, Factory.pool_onClass, h,
      afterTakes_exchange ignores_of_mem_takesOnClass]

/-- The parts of a title are the same methods, in the same order. -/
theorem titleParts_exchange (p : MethodPool) :
    Analysis.titleParts (ch.exchange p) = (Analysis.titleParts p).map ch.swap := by
  have hpart (k : Method) : Analysis.isTitlePart (ch.swap k) = Analysis.isTitlePart k := by
    refine ch.apply_swap Analysis.isTitlePart ?_ k
    have hmark : ch.changed.isAnnotated "Title" = ch.method.isAnnotated "Title" :=
      congrArg Option.isSome ch.same.title
    rw [Analysis.isTitlePart, hmark, ch.same.isGetter, Analysis.isTitlePart]
  have hplace (k : Method) : Analysis.titleSequence (ch.swap k) = Analysis.titleSequence k := by
    refine ch.apply_swap Analysis.titleSequence ?_ k
    rw [Analysis.titleSequence, ch.same.title, Analysis.titleSequence]
  have hmethods : (ch.exchange p).methods = p.methods.map ch.swap := by
    simp [exchange, MethodPool.methods]
  rw [Analysis.titleParts, Analysis.titleParts, hmethods, List.filter_map]
  have hfilter : Analysis.isTitlePart ∘ ch.swap = Analysis.isTitlePart := funext hpart
  rw [hfilter]
  exact (List.map_mergeSort fun k _ l _ => by rw [hplace, hplace]).symm

theorem facets_titleFromMembers (h : a'.facets = a.facets) (hpool : a'.pool = ch.exchange a.pool) :
    a'.titleFromMembers.facets = a.titleFromMembers.facets := by
  have hname (k : Method) : Analysis.memberName (ch.swap k) = Analysis.memberName k := by
    rw [Analysis.memberName, name_swap, Analysis.memberName]
  have hnames : (Analysis.titleParts a'.pool).map Analysis.memberName =
      (Analysis.titleParts a.pool).map Analysis.memberName := by
    rw [hpool, titleParts_exchange, List.map_map]
    exact List.map_congr_left fun k _ => hname k
  have hempty : (Analysis.titleParts a'.pool).isEmpty = (Analysis.titleParts a.pool).isEmpty := by
    rw [hpool, titleParts_exchange, List.isEmpty_map]
  unfold Analysis.titleFromMembers
  dsimp only
  rw [hempty, hnames]
  split
  · exact h
  · exact congrArg (FacetHolder.attach · _) h

theorem facets_titleFromMethod (h : a'.facets = a.facets) (hpool : a'.pool = ch.exchange a.pool) :
    a'.titleFromMethod.facets = a.titleFromMethod.facets := by
  have hgetter : ch.Ignores Method.isGetter := ch.same.isGetter
  have hplain : ch.Ignores Method.hasNoParameters := ch.same.hasNoParameters
  unfold Analysis.titleFromMethod
  rw [Analysis.take_eq, Analysis.take_eq, hpool, first?_exchange hgetter,
    afterTake_exchange hgetter]
  cases a.pool.first? ⟨"title", Method.isGetter⟩ with
  | some s => simp [Analysis.attachIfAbsent, h]
  | none =>
    have hlast : ((ch.exchange (a.pool.afterTake ⟨"title", Method.isGetter⟩)).peek? "toString"
        Method.hasNoParameters).isSome =
          ((a.pool.afterTake ⟨"title", Method.isGetter⟩).peek? "toString"
            Method.hasNoParameters).isSome := by
      have hfirst := first?_exchange (t := ⟨"toString", Method.hasNoParameters⟩) hplain
        (a.pool.afterTake ⟨"title", Method.isGetter⟩)
      exact (congrArg Option.isSome hfirst).trans Option.isSome_map
    simp only [Option.map_none, hlast]
    split <;> simp [Analysis.attachDerivedIfAbsent, h]

/-- A factory that looks at the class attaches the same. -/
theorem facets_onClass (f : Factory) (h : a'.facets = a.facets)
    (hpool : a'.pool = ch.exchange a.pool) :
    (f.onClass env c a').facets = (f.onClass env c a).facets := by
  cases f with
  | named => exact Analysis.facets_localized_congr h env c _ _ _
  | describedAs => exact Analysis.facets_localized_congr h env c _ _ _
  | plural => exact Analysis.facets_localized_congr h env c _ _ _
  | objectSpecId => exact Analysis.facets_objectType_congr h c
  | value => exact Analysis.facets_valueClass_congr h c
  | collectionType => exact Analysis.facets_collectionClass_congr h env c
  | immutable => exact Analysis.facets_immutableClass_congr h c
  | notPersistable => exact Analysis.facets_notPersistableClass_congr h c
  | titleAnnotation => exact facets_titleFromMembers h hpool
  | titleMethod => exact facets_titleFromMethod h hpool
  | iconName =>
    have hgetter : ch.Ignores Method.isGetter := ch.same.isGetter
    show (a'.iconName).facets = (a.iconName).facets
    rw [Analysis.iconName, Analysis.iconName, Analysis.facets_attachClaimed,
      Analysis.facets_attachClaimed, h, hpool, first?_exchange hgetter]
    cases a.pool.first? ⟨"iconName", Method.isGetter⟩ <;> simp
  | grid => exact Analysis.facets_layout_congr h env c
  | hiddenAnnotation => exact Analysis.facets_hidden_congr h _
  | _ => exact h

/-- Only a layout can depend on the annotations of methods. -/
theorem onClass_onClass {f : Factory} (hf : f ≠ .grid) (a : Analysis) :
    f.onClass env (ch.onClass c) a = f.onClass env c a := by
  cases f <;> first
    | exact absurd rfl hf
    | rfl

theorem facets_foldl_onClass {fs : List Factory} (hfs : .grid ∉ fs) (h : a'.facets = a.facets)
    (hpool : a'.pool = ch.exchange a.pool) :
    (fs.foldl (fun a f => f.onClass env (ch.onClass c) a) a').facets =
      (fs.foldl (fun a f => f.onClass env c a) a).facets := by
  induction fs generalizing a a' with
  | nil => exact h
  | cons f fs ih =>
    obtain ⟨hf, hfs⟩ := List.ne_and_not_mem_of_not_mem_cons hfs
    have hfirst : (f.onClass env (ch.onClass c) a').facets = (f.onClass env c a).facets := by
      rw [onClass_onClass (Ne.symm hf)]
      exact facets_onClass f h hpool
    exact ih hfs hfirst (pool_foldl_onClass env c [f] (ch.onClass c) hpool)

/-- What an element is hidden by does not depend on its other facets. -/
theorem get?_hidden_congr (howner : a'.facets.owner = a.facets.owner) {k : Facet.Kind}
    (hk : a'.facets.get? k = a.facets.get? k) (annotations : List Annotation) :
    (a'.hidden annotations).facets.get? k = (a.hidden annotations).facets.get? k := by
  have hattach (d : Facet.Data) :
      (a'.facets.attach d).get? k = (a.facets.attach d).get? k := by
    rw [FacetHolder.attach, FacetHolder.attach, FacetHolder.get?_put, FacetHolder.get?_put, howner,
      hk]
  unfold Analysis.hidden
  split
  · exact hk
  · split
    · exact hattach _
    · split
      · exact hattach _
      · exact hk

/-- **The class has the same facets after the change**, but for a layout if the service for layouts
looks at the annotations of methods. -/
theorem facets_analyseClass (ch : Reannotation) (env : Environment) (c : Class) :
    (∀ k ≠ .grid, (analyseClass .standard env (ch.onClass c)).facets.get? k =
      (analyseClass .standard env c).facets.get? k) ∧
    (env.services.grid.bind (· (ch.onClass c)) = env.services.grid.bind (· c) →
      (analyseClass .standard env (ch.onClass c)).facets =
        (analyseClass .standard env c).facets) := by
  obtain ⟨before, hsplit, hbefore⟩ : ∃ before, ProgrammingModel.standard.factoriesFor .object =
      before ++ [.grid, Factory.hiddenAnnotation] ∧ .grid ∉ before :=
    ⟨[.named, .describedAs, .plural, .objectSpecId, .value, .collectionType, .immutable,
      .notPersistable, Factory.titleAnnotation, .titleMethod, .iconName],
      ProgrammingModel.factoriesFor_object, by decide⟩
  let first (c : Class) := before.foldl (fun a f => f.onClass env c a) (start c)
  have hclass (c : Class) : (analyseClass .standard env c).facets =
      (((first c).layout env c).hidden c.annotations).facets := by
    rw [Introspection.facets_analyseClass, ProgrammingModel.analyseClass, hsplit, List.foldl_append]
    rfl
  have hfirst : (first (ch.onClass c)).facets = (first c).facets :=
    facets_foldl_onClass hbefore rfl (pool_start_onClass ch c)
  have hlayout (c : Class) := (first c).progress_layout env c
  rw [hclass, hclass]
  constructor
  · intro k hk
    refine get?_hidden_congr ?_ ?_ c.annotations
    · rw [(hlayout _).owner, (hlayout c).owner, hfirst]
    · rw [(hlayout _).facets k (by simpa using hk), (hlayout c).facets k (by simpa using hk),
        hfirst]
  · intro hgrid
    refine Analysis.facets_hidden_congr ?_ c.annotations
    have hsame : (first (ch.onClass c)).layout env (ch.onClass c) =
        (first (ch.onClass c)).layout env c := by
      unfold Analysis.layout
      rw [hgrid]
    rw [hsame]
    exact Analysis.facets_layout_congr hfirst env c

theorem contains_immutable_onClass (ch : Reannotation) (env : Environment) (c : Class) :
    (analyseClass .standard env (ch.onClass c)).facets.contains .immutable =
      (analyseClass .standard env c).facets.contains .immutable :=
  congrArg Option.isSome ((facets_analyseClass ch env c).1 .immutable (by decide))

theorem pool_analyseClass_onClass (ch : Reannotation) (env : Environment) (c : Class) :
    (analyseClass model env (ch.onClass c)).pool = ch.exchange (analyseClass model env c).pool := by
  have hclass := pool_foldl_onClass env c (model.factoriesFor .object)
    (ch.onClass c) (pool_start_onClass ch c)
  have hframework : ch.Ignores isFrameworkMethod := ch.same.isFrameworkMethod
  have hdiscard := ch.discard_exchange hframework (model.analyseClass env c (start c)).pool
  exact (congrArg (MethodPool.discard · isFrameworkMethod) hclass).trans hdiscard

/-! ### The entries of the class -/

/-- The entry after the change. -/
def swapEntry (ch : Reannotation) (e : Nat × Method) : Nat × Method := (e.1, ch.swap e.2)

theorem accessors_onClass (ch : Reannotation) (env : Environment) (c : Class) :
    accessors model env (ch.onClass c) = (accessors model env c).map ch.swapEntry := by
  have haccessor (k : Method) : isAccessor (ch.swap k) = isAccessor k :=
    ch.apply_swap isAccessor ch.same.isAccessor k
  rw [accessors, pool_analyseClass_onClass]
  simp [exchange, accessors, List.filter_map, Function.comp_def, haccessor, swapEntry]

theorem pool_afterAccessors_onClass (ch : Reannotation) (env : Environment) (c : Class) :
    (afterAccessors model env (ch.onClass c)).pool =
      ch.exchange (afterAccessors model env c).pool := by
  show (analyseClass model env (ch.onClass c)).pool.discard isAccessor = _
  rw [pool_analyseClass_onClass, discard_exchange _ ch.same.isAccessor]
  rfl

theorem alike_afterAccessors (ch : Reannotation) (env : Environment) (c : Class) :
    ch.Alike (afterAccessors model env c).pool (afterAccessors model env (ch.onClass c)).pool := by
  rw [pool_afterAccessors_onClass]
  exact .of_exchange ch _

/-- Methods that are no support are seen alike in pools that are alike. -/
theorem filter_unreserved {p p' : MethodPool} (h : ch.Alike p p') :
    (p'.unclaimed.filter fun e => !ProgrammingModel.standard.isReserved e.2.name) =
      (p.unclaimed.filter fun e => !ProgrammingModel.standard.isReserved e.2.name).map
        ch.swapEntry := by
  have hseen (q : MethodPool) :
      (q.unclaimed.filter fun e => !ProgrammingModel.standard.isReserved e.2.name) =
        (ch.uncontested q).unclaimed.filter
          fun e => !ProgrammingModel.standard.isReserved e.2.name := by
    rw [uncontested, MethodPool.discard, List.filter_filter]
    refine List.filter_congr fun e _ => ?_
    cases hreserved : ProgrammingModel.standard.isReserved e.2.name with
    | true => rfl
    | false =>
      have hfree : e.2.name ∉ ch.contested := fun hmem => by
        rw [isReserved_of_mem_contested hmem] at hreserved
        cases hreserved
      simp [hfree]
  rw [hseen p', hseen p, show ch.uncontested p' = _ from h]
  simp [exchange, List.filter_map, Function.comp_def, swapEntry]

end Reannotation
end Facetry
