/-
# Methods that hide actions

A member is hidden as the method decides that is called `hide` and then the capitalized name
of the member. No other take asks for a method of that name: every other word that a factory
puts before a name has another first letter. So such a method stays in the pool until the turn
of its member, unless it becomes an action before.

It cannot become an action if its name is reserved, and it is if a new word starts after
`hide`: in upper case, or with a digit. The capitalized name of a member can start otherwise,
with a mark or with a letter that has no case. Then the method is a candidate for an action
like any other, and the order of the declaration decides: an action declared before the method
claims it, and after it has come too late.

Key definitions: `MethodPool.matching`, `Introspection.HidesAt`.
Key theorems: `Introspection.matching_member`, `Introspection.matching_actionsOf`,
`Introspection.hidden_iff`.
-/
import Facetry.Proofs.MethodUses

namespace Facetry

/-! ### What a take can find -/

namespace MethodPool

/-- The entries that a take can find, in order. -/
def matching (p : MethodPool) (t : Take) : List (Nat × Method) :=
  p.unclaimed.filter (isMatch t.name t.accept)

variable (p : MethodPool) {s t : Take}

theorem peek?_eq_head? : p.peek? t.name t.accept = (p.matching t).head?.map (·.2) := by
  rw [matching, List.head?_filter, peek?]

/-- A take takes the first entry that it can find. -/
theorem matching_afterTake : (p.afterTake t).matching t = (p.matching t).tail := by
  show (p.unclaimed.eraseP (isMatch t.name t.accept)).filter _ = (p.unclaimed.filter _).tail
  induction p.unclaimed with
  | nil => rfl
  | cons e entries ih =>
    by_cases h : isMatch t.name t.accept e
    · rw [List.eraseP_cons_of_pos h, List.filter_cons_of_pos h, List.tail_cons]
    · rw [List.eraseP_cons_of_neg h, List.filter_cons_of_neg h, List.filter_cons_of_neg h, ih]

/-- A take that asks for another name takes none of them. -/
theorem matching_afterTake_of_ne (h : s.name ≠ t.name) :
    (p.afterTake s).matching t = p.matching t := by
  show (p.unclaimed.eraseP (isMatch s.name s.accept)).filter _ = p.unclaimed.filter _
  induction p.unclaimed with
  | nil => rfl
  | cons e entries ih =>
    by_cases hs : isMatch s.name s.accept e
    · have ht : ¬ isMatch t.name t.accept e := by
        simp only [isMatch, Bool.and_eq_true, beq_iff_eq] at hs ⊢
        exact fun ht => h (hs.1.symm.trans ht.1)
      rw [List.eraseP_cons_of_pos hs, List.filter_cons_of_neg ht]
    · rw [List.eraseP_cons_of_neg hs, List.filter_cons, List.filter_cons, ih]

theorem matching_afterTakes_of_ne {ts : List Take} (h : ∀ s ∈ ts, s.name ≠ t.name) :
    (p.afterTakes ts).matching t = p.matching t := by
  induction ts generalizing p with
  | nil => rfl
  | cons s ts ih =>
    obtain ⟨hs, hts⟩ := List.forall_mem_cons.mp h
    exact (ih (p.afterTake s) hts).trans (p.matching_afterTake_of_ne hs)

theorem matching_claim (index : Nat) :
    (p.claim index).matching t = (p.matching t).filter (·.1 != index) :=
  List.filter_comm ..

theorem matching_discard {test : Method → Bool} (h : ∀ m, m.name = t.name → test m = false) :
    (p.discard test).matching t = p.matching t := by
  show (p.unclaimed.filter fun e => !test e.2).filter _ = p.unclaimed.filter _
  rw [List.filter_filter]
  refine List.filter_congr fun e _ => ?_
  by_cases hname : e.2.name = t.name
  · simp [h e.2 hname]
  · simp [isMatch, hname]

end MethodPool

/-! ### Names that start with `hide` -/

theorem ne_hide_append {name rest : String} (h : name.toList.head? ≠ some 'h') :
    name ≠ "hide" ++ rest := by
  rintro rfl
  rw [String.toList_append] at h
  exact h rfl

/-- The word for hiding is the only reserved word with its first letter. -/
theorem Factory.head?_of_mem_words {f : Factory} {word : String} (h : word ∈ f.words) :
    word = "hide" ∨ ∃ c ∈ word.toList.head?, c ≠ 'h' := by
  have hall : ∀ word ∈ f.words, word = "hide" ∨ word.toList.head?.any (· != 'h') := by
    cases f <;> decide
  simpa [Option.any_eq_true] using hall word h

/-- A name starts with no word that has another first letter. -/
theorem Naming.startsWith_eq_false {word name : String} {c : Char} (hc : c ∈ word.toList.head?)
    (hname : name.toList.head? ≠ some c) : Naming.startsWith word name = false := by
  have hprefix : word.toList.isPrefixOf? name.toList = none := by
    cases hword : word.toList with
    | nil => simp [hword] at hc
    | cons d ds =>
      obtain rfl : d = c := by simpa [hword] using hc
      cases hcs : name.toList with
      | nil => rfl
      | cons e es =>
        have hne : (d == e) = false := by
          refine beq_eq_false_iff_ne.mpr fun heq => hname ?_
          rw [hcs, heq]
          rfl
        simp [List.isPrefixOf?, hne]
  rw [Naming.startsWith, Naming.rest?, hprefix]
  rfl

/-- A name that goes on after `hide` is reserved if a new word starts there, and only then. -/
theorem ProgrammingModel.isReserved_hide {model : ProgrammingModel}
    (hhide : .hideMethod ∈ model.factories) (X : String) :
    model.isReserved ("hide" ++ X) = Naming.startsWith "hide" ("hide" ++ X) := by
  have hiff : model.isReserved ("hide" ++ X) ↔ Naming.startsWith "hide" ("hide" ++ X) := by
    unfold isReserved
    rw [List.any_eq_true]
    constructor
    · rintro ⟨f, -, hf⟩
      obtain ⟨word, hword, hstarts⟩ := List.any_eq_true.mp hf
      rcases Factory.head?_of_mem_words hword with rfl | ⟨c, hc, hne⟩
      · exact hstarts
      · have hname : ("hide" ++ X).toList.head? ≠ some c := by
          rw [String.toList_append]
          exact fun h => hne (Option.some.inj h).symm
        rw [Naming.startsWith_eq_false hc hname] at hstarts
        cases hstarts
    · intro h
      exact ⟨.hideMethod, hhide, List.any_eq_true.mpr ⟨"hide", List.mem_cons_self, h⟩⟩
  exact Bool.eq_iff_iff.mpr hiff

namespace Factory

/-- A factory that looks at a class asks for no method that hides. -/
theorem name_ne_of_mem_takesOnClass {f : Factory} {X : String} :
    ∀ t ∈ f.takesOnClass, t.name ≠ "hide" ++ X := by
  have hnames : ∀ t ∈ f.takesOnClass, t.name.toList.head? ≠ some 'h' := by
    cases f <;> simp [takesOnClass]
  exact fun t ht => ne_hide_append (hnames t ht)

/-- A factory that looks at a parameter asks for no method that hides. -/
theorem name_ne_of_mem_takesOnParameter {f : Factory} {p : ParameterContext} {X : String} :
    ∀ t ∈ f.takesOnParameter p, t.name ≠ "hide" ++ X := by
  have hnames : ∀ t ∈ f.takesOnParameter p, t.name.toList.head? ≠ some 'h' := by
    cases f <;> simp [takesOnParameter, ParameterContext.supporting]
  exact fun t ht => ne_hide_append (hnames t ht)

/-- A factory that looks at a member asks for a method that hides only if it is the factory for
hiding, and then for the one of the member. -/
theorem name_ne_of_mem_takesOnMember {f : Factory} {m : MemberContext} {facets : FacetHolder}
    {X : String} (h : f ≠ .hideMethod ∨ Naming.capitalize m.id ≠ X) :
    ∀ t ∈ f.takesOnMember m facets, t.name ≠ "hide" ++ X := by
  by_cases hf : f = .hideMethod
  · subst hf
    have hX := h.resolve_left fun hne => hne rfl
    rintro t ht heq
    obtain rfl := List.mem_singleton.mp ht
    refine hX (String.toList_inj.mp ?_)
    have := congrArg String.toList heq
    simpa [MemberContext.supporting] using this
  · have hnames : ∀ t ∈ f.takesOnMember m facets, t.name.toList.head? ≠ some 'h' := by
      cases f <;> first | exact absurd rfl hf | simp [takesOnMember, MemberContext.supporting]
    exact fun t ht => ne_hide_append (hnames t ht)

theorem not_mem_kinds_of_ne {f : Factory} (h : f ≠ .hideMethod) : .hideForContext ∉ f.kinds := by
  cases f <;> first | exact absurd rfl h | simp [kinds]

end Factory

/-! ### Members and the method that hides them -/

namespace Introspection

/-- The take by which the member with a capitalized name claims the method that hides it. -/
def hideTake (X : String) : Take := ⟨"hide" ++ X, Method.hasNoParameters⟩

variable {model : ProgrammingModel} {env : Environment} {X : String} {t : Take}

/-- Factories that do not ask for the methods leave them in the pool. -/
theorem matching_foldl {step : Analysis → Factory → Analysis}
    {takes : Analysis → Factory → List Take}
    (hstep : ∀ a f, (step a f).pool = a.pool.afterTakes (takes a f)) {fs : List Factory}
    (hne : ∀ f ∈ fs, ∀ a, ∀ s ∈ takes a f, s.name ≠ t.name) (a : Analysis) :
    (fs.foldl step a).pool.matching t = a.pool.matching t := by
  induction fs generalizing a with
  | nil => rfl
  | cons f fs ih =>
    obtain ⟨hf, hfs⟩ := List.forall_mem_cons.mp hne
    rw [List.foldl_cons, ih hfs, hstep, MethodPool.matching_afterTakes_of_ne _ (hf a)]

theorem matching_analyseClass (h : ∀ f : Factory, ∀ s ∈ f.takesOnClass, s.name ≠ t.name)
    (model : ProgrammingModel) (env : Environment) (c : Class) (a : Analysis) :
    (model.analyseClass env c a).pool.matching t = a.pool.matching t :=
  matching_foldl (fun a f => f.pool_onClass env c a) (fun f _ _ => h f) a

theorem matching_parametersFrom
    (h : ∀ (f : Factory) (p : ParameterContext), ∀ s ∈ f.takesOnParameter p, s.name ≠ t.name)
    (m : MemberContext) (index : Nat) (ps : List Parameter) (a : Analysis) :
    (parametersFrom model env m index ps a).2.pool.matching t = a.pool.matching t := by
  induction ps generalizing index a with
  | nil => rfl
  | cons p ps ih =>
    refine (ih (index + 1) _).trans ?_
    exact matching_foldl (fun a f => f.pool_onParameter env _ a) (fun f _ _ => h f _) _

theorem id_member (m : MemberContext) (a : Analysis) : (member model env m a).1.id = m.id := rfl

/-- **A member leaves alone the methods that hide others.** -/
theorem matching_member {m : MemberContext} (h : Naming.capitalize m.id ≠ X) (a : Analysis) :
    (member model env m a).2.pool.matching (hideTake X) = a.pool.matching (hideTake X) := by
  refine (matching_parametersFrom (fun _ _ => Factory.name_ne_of_mem_takesOnParameter)
    m 0 _ _).trans ?_
  exact matching_foldl (fun a f => f.pool_onMember env m a)
    (fun _ _ _ => Factory.name_ne_of_mem_takesOnMember (.inr h)) _

/-- The facet that a method gives rise to which hides an element. -/
def hidingFacet (owner : Identifier) (e : Nat × Method) : Facet :=
  ⟨owner, false, .hideForContext e.2.name⟩

/-- The factory for hiding attaches the facet of the first method that it can find. -/
theorem get?_hideMethod {m : MemberContext} {a : Analysis}
    (h : a.facets.get? .hideForContext = none) :
    (a.hideMethod m).facets.get? .hideForContext =
      ((a.pool.matching (hideTake (Naming.capitalize m.id))).head?.map
        (hidingFacet a.facets.owner)) := by
  have hfound := a.pool.peek?_eq_head? (t := hideTake (Naming.capitalize m.id))
  have htake : a.take (m.supporting "hide") Method.hasNoParameters =
      (a.pool.peek? (m.supporting "hide") Method.hasNoParameters,
        { a with pool := a.pool.afterTake (hideTake (Naming.capitalize m.id)) }) := rfl
  unfold Analysis.hideMethod Analysis.attachClaimed
  rw [htake, show a.pool.peek? (m.supporting "hide") Method.hasNoParameters = _ from hfound]
  cases a.pool.matching (hideTake (Naming.capitalize m.id)) with
  | nil => exact h
  | cons e entries => rfl

theorem matching_hideMethod (m : MemberContext) (a : Analysis) :
    (a.hideMethod m).pool.matching (hideTake (Naming.capitalize m.id)) =
      (a.pool.matching (hideTake (Naming.capitalize m.id))).tail := by
  rw [← a.pool.matching_afterTake]
  exact congrArg (MethodPool.matching · _) (a.pool_attachClaimed _ _ _)

/-- The other factories leave both the method and the facet alone. -/
theorem foldl_onMember_of_not_mem (env : Environment) (X : String) {fs : List Factory}
    (h : .hideMethod ∉ fs) (m : MemberContext) (a : Analysis) :
    (fs.foldl (fun a f => f.onMember env m a) a).pool.matching (hideTake X) =
        a.pool.matching (hideTake X) ∧
      (fs.foldl (fun a f => f.onMember env m a) a).facets.get? .hideForContext =
        a.facets.get? .hideForContext := by
  have hne : ∀ f ∈ fs, f ≠ .hideMethod := fun f hf heq => h (heq ▸ hf)
  have hkinds : .hideForContext ∉ fs.flatMap Factory.kinds := by
    intro hk
    obtain ⟨f, hf, hk⟩ := List.mem_flatMap.mp hk
    exact Factory.not_mem_kinds_of_ne (hne f hf) hk
  exact ⟨matching_foldl (fun a f => f.pool_onMember env m a)
      (fun f hf _ => Factory.name_ne_of_mem_takesOnMember (.inl (hne f hf))) a,
    (ProgrammingModel.progress_foldl (fun a f => f.progress_onMember env m a) fs a).facets _ hkinds⟩

/-- A factory of a model has its turn once. -/
theorem exists_only_turn (hnodup : model.factories.Nodup) {f : Factory}
    (hf : f ∈ model.factories) {feature : Feature} (hfeature : f.appliesTo feature) :
    ∃ before after, model.factoriesFor feature = before ++ f :: after ∧ f ∉ before ∧
      f ∉ after := by
  obtain ⟨before, after, hsplit⟩ :=
    List.append_of_mem (List.mem_filter.mpr ⟨hf, hfeature⟩ : f ∈ model.factoriesFor feature)
  have h : (before ++ f :: after).Nodup := hsplit ▸ hnodup.filter _
  rw [List.nodup_append, List.nodup_cons] at h
  exact ⟨before, after, hsplit, fun hbefore => h.2.2 _ hbefore _ List.mem_cons_self rfl, h.2.1.1⟩

/-- **A member takes the first method that hides it**, and gets its facet. -/
theorem hides_member (hnodup : model.factories.Nodup) (hhide : .hideMethod ∈ model.factories)
    {m : MemberContext} (hfeature : Factory.hideMethod.appliesTo m.feature) (a : Analysis) :
    (member model env m a).1.facets.get? .hideForContext =
        (a.pool.matching (hideTake (Naming.capitalize m.id))).head?.map
          (hidingFacet (.ofMember m.owner.name m.id)) ∧
      (member model env m a).2.pool.matching (hideTake (Naming.capitalize m.id)) =
        (a.pool.matching (hideTake (Naming.capitalize m.id))).tail := by
  obtain ⟨before, after, hsplit, hbefore, hafter⟩ := exists_only_turn hnodup hhide hfeature
  let start := a.turnTo (.ofMember m.owner.name m.id)
  let first := before.foldl (fun a f => f.onMember env m a) start
  have hanalysed : model.analyseMember env m start =
      after.foldl (fun a f => f.onMember env m a) (first.hideMethod m) := by
    rw [ProgrammingModel.analyseMember, hsplit, List.foldl_append]
    rfl
  have howner : first.facets.owner = .ofMember m.owner.name m.id :=
    (ProgrammingModel.progress_foldl (fun a f => f.progress_onMember env m a) before start).owner
  have hfirst := foldl_onMember_of_not_mem env (Naming.capitalize m.id) hbefore m start
  have hlast := foldl_onMember_of_not_mem env (Naming.capitalize m.id) hafter m
    (first.hideMethod m)
  constructor
  · show (model.analyseMember env m start).facets.get? .hideForContext = _
    rw [hanalysed, hlast.2, get?_hideMethod hfirst.2, howner, hfirst.1]
    rfl
  · refine (matching_parametersFrom (fun _ _ => Factory.name_ne_of_mem_takesOnParameter)
      m 0 _ _).trans ?_
    show (model.analyseMember env m start).pool.matching _ = _
    rw [hanalysed, hlast.1, matching_hideMethod, hfirst.1]
    rfl

/-! ### The course of the introspection -/

section Course

variable {c : Class} {classFacets : FacetHolder} {entries : List (Nat × Method)} {a : Analysis}

/-- Associations with other names leave the methods in the pool, if a member with another name
does. -/
theorem matching_associationsOf
    (hother : ∀ m : MemberContext, Naming.capitalize m.id ≠ X → ∀ a,
      (member model env m a).2.pool.matching t = a.pool.matching t)
    (h : ∀ found ∈ (associationsOf model env c classFacets entries a).1,
      Naming.capitalize found.2.id ≠ X) :
    (associationsOf model env c classFacets entries a).2.pool.matching t =
      a.pool.matching t := by
  induction entries generalizing a with
  | nil => rfl
  | cons e entries ih =>
    obtain ⟨index, accessor⟩ := e
    cases hid : Naming.propertyOf? accessor.name with
    | none =>
      simp only [associationsOf, hid] at h ⊢
      exact ih h
    | some id =>
      simp only [associationsOf, hid, List.forall_mem_cons, id_member] at h ⊢
      exact (ih h.2).trans (hother ⟨c, classFacets, accessor, id, featureOf env accessor⟩ h.1 a)

/-- The analysis of a candidate in its turn. -/
def turn (model : ProgrammingModel) (env : Environment) (c : Class) (classFacets : FacetHolder)
    (e : Nat × Method) (a : Analysis) : Member × Analysis :=
  member model env ⟨c, classFacets, e.2, e.2.name, .action⟩ { a with pool := a.pool.claim e.1 }

theorem actionsOf_cons_of_contains {e : Nat × Method} (h : a.pool.contains e.1) :
    actionsOf model env c classFacets (e :: entries) a =
      ((e.1, (turn model env c classFacets e a).1) ::
          (actionsOf model env c classFacets entries (turn model env c classFacets e a).2).1,
        (actionsOf model env c classFacets entries (turn model env c classFacets e a).2).2) :=
  if_pos h

theorem actionsOf_cons_of_not_contains {e : Nat × Method} (h : ¬ a.pool.contains e.1) :
    actionsOf model env c classFacets (e :: entries) a =
      actionsOf model env c classFacets entries a :=
  if_neg h

theorem id_turn (e : Nat × Method) : (turn model env c classFacets e a).1.id = e.2.name := rfl

theorem pool_turn (e : Nat × Method) :
    (turn model env c classFacets e a).2.pool.unclaimed.Sublist a.pool.unclaimed :=
  (pool_member _ _).trans List.filter_sublist

theorem matching_turn {e : Nat × Method} (h : Naming.capitalize e.2.name ≠ X) :
    (turn model env c classFacets e a).2.pool.matching (hideTake X) =
      (a.pool.matching (hideTake X)).filter (·.1 != e.1) := by
  let m : MemberContext := ⟨c, classFacets, e.2, e.2.name, .action⟩
  have hname : Naming.capitalize m.id ≠ X := h
  rw [turn, matching_member hname, MethodPool.matching_claim]

/-- An action takes the first method that hides it, of those that the pool has in its turn. -/
theorem hides_turn (hnodup : model.factories.Nodup) (hhide : .hideMethod ∈ model.factories)
    {e : Nat × Method} (h : Naming.capitalize e.2.name = X) :
    (turn model env c classFacets e a).1.facets.get? .hideForContext =
        ((a.pool.matching (hideTake X)).filter (·.1 != e.1)).head?.map
          (hidingFacet (.ofMember c.name e.2.name)) ∧
      (turn model env c classFacets e a).2.pool.matching (hideTake X) =
        ((a.pool.matching (hideTake X)).filter (·.1 != e.1)).tail := by
  let m : MemberContext := ⟨c, classFacets, e.2, e.2.name, .action⟩
  have hfeature : Factory.hideMethod.appliesTo m.feature :=
    (by decide : Factory.hideMethod.appliesTo .action)
  subst h
  rw [← MethodPool.matching_claim]
  exact hides_member hnodup hhide hfeature _

/-- Only candidates become actions. -/
theorem mem_places_of_mem_actionsOf {place : Nat}
    (h : place ∈ (actionsOf model env c classFacets entries a).1.map (·.1)) :
    place ∈ entries.map (·.1) := by
  obtain ⟨found, hfound, rfl⟩ := List.mem_map.mp h
  obtain ⟨m, hm, -⟩ := isAction_of_mem_actionsOf hfound
  exact List.mem_map_of_mem hm

/-- Actions with other names leave the methods in the pool that are no candidates themselves. -/
theorem matching_actionsOf
    (h : ∀ found ∈ (actionsOf model env c classFacets entries a).1,
      Naming.capitalize found.2.id ≠ X) :
    (actionsOf model env c classFacets entries a).2.pool.matching (hideTake X) =
      (a.pool.matching (hideTake X)).filter fun e => !(entries.map (·.1)).contains e.1 := by
  induction entries generalizing a with
  | nil => simp [actionsOf]
  | cons first entries ih =>
    have hboth : (fun e : Nat × Method => !((first :: entries).map (·.1)).contains e.1) =
        fun e => !(entries.map (·.1)).contains e.1 && e.1 != first.1 := by
      funext e
      simp [bne, Bool.and_comm]
    rw [hboth, ← List.filter_filter]
    by_cases hpresent : a.pool.contains first.1
    · rw [actionsOf_cons_of_contains hpresent] at h ⊢
      obtain ⟨hfirst, hrest⟩ := List.forall_mem_cons.mp h
      rw [id_turn] at hfirst
      rw [ih hrest, matching_turn hfirst]
    · rw [actionsOf_cons_of_not_contains hpresent] at h ⊢
      have hself : (a.pool.matching (hideTake X)).filter (·.1 != first.1) =
          a.pool.matching (hideTake X) := by
        refine List.filter_eq_self.mpr fun e he => bne_iff_ne.mpr fun heq => hpresent ?_
        rw [MethodPool.contains, List.contains_iff_mem, ← heq]
        exact List.mem_map_of_mem (List.mem_filter.mp he).1
      rw [ih h, hself]

/-- A candidate among the methods is an action exactly if the pool has it. -/
theorem mem_actionsOf_iff
    (h : ∀ found ∈ (actionsOf model env c classFacets entries a).1,
      Naming.capitalize found.2.id ≠ X)
    (hnodup : (entries.map (·.1)).Nodup) {e : Nat × Method} (he : e ∈ entries)
    (hmatch : MethodPool.isMatch (hideTake X).name (hideTake X).accept e)
    (hpool : ∀ e' ∈ a.pool.unclaimed, e'.1 = e.1 → e' = e) :
    e.1 ∈ (actionsOf model env c classFacets entries a).1.map (·.1) ↔
      e ∈ a.pool.matching (hideTake X) := by
  induction entries generalizing a with
  | nil => cases he
  | cons first entries ih =>
    obtain ⟨hfirst, hrest⟩ := List.nodup_cons.mp hnodup
    have hplace : a.pool.contains e.1 ↔ e ∈ a.pool.matching (hideTake X) := by
      rw [MethodPool.contains, List.contains_iff_mem, MethodPool.matching, List.mem_filter]
      constructor
      · intro hmem
        obtain ⟨e', he', heq⟩ := List.mem_map.mp hmem
        obtain rfl := hpool e' he' heq
        exact ⟨he', hmatch⟩
      · exact fun hmem => List.mem_map_of_mem hmem.1
    rcases List.mem_cons.mp he with rfl | he
    · by_cases hpresent : a.pool.contains e.1
      · rw [actionsOf_cons_of_contains hpresent]
        exact iff_of_true List.mem_cons_self (hplace.mp hpresent)
      · rw [actionsOf_cons_of_not_contains hpresent]
        exact iff_of_false (fun hmem => hfirst (mem_places_of_mem_actionsOf hmem))
          fun hmem => hpresent (hplace.mpr hmem)
    · have hne : e.1 ≠ first.1 := fun heq => hfirst (List.mem_map.mpr ⟨e, he, heq⟩)
      by_cases hpresent : a.pool.contains first.1
      · rw [actionsOf_cons_of_contains hpresent] at h ⊢
        obtain ⟨hname, hothers⟩ := List.forall_mem_cons.mp h
        rw [id_turn] at hname
        rw [List.map_cons, List.mem_cons, or_iff_right hne,
          ih hothers hrest he fun e' he' => hpool e' ((pool_turn first).subset he'),
          matching_turn hname, List.mem_filter, and_iff_left (bne_iff_ne.mpr hne)]
      · rw [actionsOf_cons_of_not_contains hpresent] at h ⊢
        exact ih h hrest he hpool

/-- An action is found in its turn, after the actions before it and before those after it. -/
theorem exists_turn_of_mem_actionsOf {found : Nat × Member}
    (h : found ∈ (actionsOf model env c classFacets entries a).1) :
    ∃ before method after, entries = before ++ (found.1, method) :: after ∧
      let b := (actionsOf model env c classFacets before a).2
      found.2 = (turn model env c classFacets (found.1, method) b).1 ∧
        (actionsOf model env c classFacets entries a).1 =
          (actionsOf model env c classFacets before a).1 ++ found ::
            (actionsOf model env c classFacets after
              (turn model env c classFacets (found.1, method) b).2).1 := by
  induction entries generalizing a with
  | nil => cases h
  | cons first entries ih =>
    by_cases hpresent : a.pool.contains first.1
    · rw [actionsOf_cons_of_contains hpresent] at h ⊢
      rcases List.mem_cons.mp h with rfl | h
      · exact ⟨[], first.2, entries, rfl, rfl, rfl⟩
      · obtain ⟨before, method, after, rfl, hfound, hactions⟩ := ih h
        refine ⟨first :: before, method, after, rfl, ?_⟩
        rw [actionsOf_cons_of_contains hpresent]
        exact ⟨hfound, congrArg (List.cons _) hactions⟩
    · rw [actionsOf_cons_of_not_contains hpresent] at h ⊢
      obtain ⟨before, method, after, rfl, hfound, hactions⟩ := ih h
      refine ⟨first :: before, method, after, rfl, ?_⟩
      rw [actionsOf_cons_of_not_contains hpresent]
      exact ⟨hfound, hactions⟩

end Course

/-! ### The methods that can hide a member -/

/-- Whether the class declares at the place a method that can hide the member with a capitalized
name: it is not excluded, has no parameters, and is called so. -/
def HidesAt (c : Class) (X : String) (place : Nat) : Prop :=
  ∃ m, c.methods[place]? = some m ∧ isExcluded m = false ∧ m.hasNoParameters ∧
    m.name = "hide" ++ X

/-- The methods that can hide the member with a capitalized name, with their places. -/
def hiders (c : Class) (X : String) : List (Nat × Method) := (start c).pool.matching (hideTake X)

section Hiders

variable {c : Class} {e e' : Nat × Method}

theorem sublist_hiders : (hiders c X).Sublist (MethodPool.ofClass c).unclaimed :=
  List.filter_sublist.trans (pool_start c)

theorem name_of_mem_hiders (h : e ∈ hiders c X) : e.2.name = "hide" ++ X := by
  have hmatch := (List.mem_filter.mp h).2
  simp only [MethodPool.isMatch, Bool.and_eq_true, beq_iff_eq] at hmatch
  exact hmatch.1

theorem hidesAt_iff {place : Nat} : HidesAt c X place ↔ ∃ m, (place, m) ∈ hiders c X := by
  refine exists_congr fun m => ?_
  rw [hiders, MethodPool.matching, List.mem_filter, start, MethodPool.discard, List.mem_filter]
  simp only [MethodPool.isMatch, hideTake, Bool.and_eq_true, beq_iff_eq, Bool.not_eq_true']
  constructor
  · rintro ⟨hm, hexcluded, hparameters, hname⟩
    exact ⟨⟨MethodPool.mem_ofClass_of_getElem? hm, hexcluded⟩, hname, hparameters⟩
  · rintro ⟨⟨hm, hexcluded⟩, hname, hparameters⟩
    exact ⟨MethodPool.getElem?_of_mem_ofClass hm, hexcluded, hparameters, hname⟩

/-- An entry of a class is known by its place. -/
theorem eq_of_mem_ofClass (he : e ∈ (MethodPool.ofClass c).unclaimed)
    (he' : e' ∈ (MethodPool.ofClass c).unclaimed) (h : e.1 = e'.1) : e = e' := by
  have hm : c.methods[e.1]? = some e.2 := MethodPool.getElem?_of_mem_ofClass he
  have hm' : c.methods[e'.1]? = some e'.2 := MethodPool.getElem?_of_mem_ofClass he'
  rw [h, hm'] at hm
  exact Prod.ext h (Option.some.inj hm).symm

/-- The entries of a class stand in the order of their places. -/
theorem ascending_of_sublist {entries : List (Nat × Method)}
    (h : entries.Sublist (MethodPool.ofClass c).unclaimed) : entries.Pairwise (·.1 < ·.1) := by
  have hall : (MethodPool.ofClass c).indices.Pairwise (· < ·) := by
    rw [MethodPool.indices_ofClass]
    exact List.pairwise_lt_range
  exact (List.pairwise_map.mp hall).sublist h

/-- A method that hides is neither one that every object has nor an accessor. -/
theorem isFrameworkMethod_hide {m : Method} (h : m.name = "hide" ++ X) :
    isFrameworkMethod m = false := by
  have hall : ∀ name ∈ frameworkMethods, ¬ "hide".toList.isPrefixOf name.toList := by decide
  refine Bool.eq_false_iff.mpr fun hmem => ?_
  refine hall m.name (List.contains_iff_mem.mp hmem) ?_
  rw [h, String.toList_append]
  exact List.isPrefixOf_iff_prefix.mpr (List.prefix_append _ _)

theorem isAccessor_hide {m : Method} (h : m.name = "hide" ++ X) : isAccessor m = false := by
  have hhead : m.name.toList.head? = some 'h' := by
    rw [h, String.toList_append]
    rfl
  have hget : Naming.startsWith "get" m.name = false :=
    Naming.startsWith_eq_false (c := 'g') rfl (by rw [hhead]; decide)
  have his : Naming.startsWith "is" m.name = false :=
    Naming.startsWith_eq_false (c := 'i') rfl (by rw [hhead]; decide)
  simp [isAccessor, hget, his]

/-- Methods that no class asks for, and that are neither framework methods nor accessors, are in the
pool when the associations begin. -/
theorem matching_afterAccessors (hclass : ∀ f : Factory, ∀ s ∈ f.takesOnClass, s.name ≠ t.name)
    (hframework : ∀ m : Method, m.name = t.name → isFrameworkMethod m = false)
    (haccessor : ∀ m : Method, m.name = t.name → isAccessor m = false) :
    (afterAccessors model env c).pool.matching t = (start c).pool.matching t := by
  calc (afterAccessors model env c).pool.matching t
      = ((model.analyseClass env c (start c)).pool.discard isFrameworkMethod).matching t :=
        MethodPool.matching_discard _ haccessor
    _ = (model.analyseClass env c (start c)).pool.matching t :=
        MethodPool.matching_discard _ hframework
    _ = (start c).pool.matching t := matching_analyseClass hclass model env c (start c)

/-- **The methods are in the pool when the actions begin**, if no association can be hidden by
them. -/
theorem matching_afterAssociations
    (h : ∀ found ∈ (ofClass model env c).associations, Naming.capitalize found.2.id ≠ X) :
    (afterAssociations model env c).pool.matching (hideTake X) = hiders c X :=
  (matching_associationsOf (fun _ => matching_member) h).trans
    (matching_afterAccessors (fun _ => Factory.name_ne_of_mem_takesOnClass)
      (fun _ => isFrameworkMethod_hide) fun _ => isAccessor_hide)

end Hiders

/-! ### Candidates among the methods -/

/-- If only one element passes a test, none before it and none after it does. -/
theorem not_of_filter_eq_singleton {α : Type} {p : α → Bool} {before after : List α} {x : α}
    (h : (before ++ x :: after).filter p = [x]) :
    (∀ y ∈ before, ¬ p y) ∧ ∀ y ∈ after, ¬ p y := by
  have hx : p x := (List.mem_filter.mp (h ▸ List.mem_singleton_self x)).2
  rw [List.filter_append, List.filter_cons_of_pos hx] at h
  have hlength := congrArg List.length h
  simp only [List.length_append, List.length_cons, List.length_nil] at hlength
  constructor
  · exact List.filter_eq_nil_iff.mp (List.length_eq_zero_iff.mp (by omega))
  · exact List.filter_eq_nil_iff.mp (List.length_eq_zero_iff.mp (by omega))

section Candidates

variable {c : Class} {e : Nat × Method}

/-- If the element is in the second list, it is the only one there, and none is in the first. -/
theorem filter_eq_singleton_of_mem {α : Type} {p : α → Bool} {xs ys : List α} {y : α}
    (h : (xs ++ ys).filter p = [y]) (hy : y ∈ ys) :
    (∀ x ∈ xs, ¬ p x) ∧ ys.filter p = [y] := by
  obtain ⟨before, after, rfl⟩ := List.append_of_mem hy
  have hnone : ∀ x ∈ xs, ¬ p x := by
    rw [← List.append_assoc] at h
    exact fun x hx => (not_of_filter_eq_singleton h).1 x (List.mem_append_left _ hx)
  rw [List.filter_append, List.filter_eq_nil_iff.mpr hnone, List.nil_append] at h
  exact ⟨hnone, h⟩

/-- A member with the capitalized name is no method that hides it. -/
theorem capitalize_hide_ne (X : String) : Naming.capitalize ("hide" ++ X) ≠ X := by
  intro h
  have hlength := congrArg (fun s => s.toList.length) h
  have hupper : (Text.upperChar 'h').length = 1 := by decide +kernel
  simp [Naming.capitalize, Naming.capitalizeChars, String.toList_append, hupper] at hlength
  omega

theorem ne_of_mem_hiders {method : Method} (he : e ∈ hiders c X)
    (hname : Naming.capitalize method.name = X) {i : Nat} : e ≠ (i, method) := by
  rintro rfl
  rw [name_of_mem_hiders he] at hname
  exact capitalize_hide_ne X hname

/-- A method that hides is a candidate if the pool has it and its name is not reserved. -/
theorem mem_candidates_iff (hhide : .hideMethod ∈ model.factories)
    (hpool : (afterAssociations model env c).pool.matching (hideTake X) = hiders c X)
    (he : e ∈ hiders c X) :
    e ∈ candidates model env c ↔ Naming.startsWith "hide" ("hide" ++ X) = false := by
  have hmem : e ∈ (afterAssociations model env c).pool.unclaimed :=
    (List.mem_filter.mp (hpool ▸ he)).1
  rw [candidates, List.mem_filter, name_of_mem_hiders he, ProgrammingModel.isReserved_hide hhide]
  simp [hmem]

/-- Among entries of the class, a method is known by its place. -/
theorem place_mem_iff {entries : List (Nat × Method)}
    (hsub : entries.Sublist (MethodPool.ofClass c).unclaimed) (he : e ∈ hiders c X) :
    e.1 ∈ entries.map (·.1) ↔ e ∈ entries := by
  rw [List.mem_map]
  constructor
  · rintro ⟨e', he', hplace⟩
    exact eq_of_mem_ofClass (hsub.subset he') (sublist_hiders.subset he) hplace ▸ he'
  · exact fun hmem => ⟨e, hmem, rfl⟩

/-- The methods that are in the pool in the turn of the action at a place, once the candidates
before it have had theirs. -/
def waiting (c : Class) (X : String) (before : List (Nat × Method)) (place : Nat) :
    List (Nat × Method) :=
  (hiders c X).filter fun e => !(before.map (·.1)).contains e.1 && e.1 != place

/-- **An action takes the first of the methods that wait for it.** The others are actions if they
are candidates, those before it in any case, and those after it unless it took them. -/
theorem exists_waiting (hnodup : model.factories.Nodup) (hhide : .hideMethod ∈ model.factories)
    {classFacets : FacetHolder} {entries : List (Nat × Method)} {a : Analysis}
    (hentries : entries.Sublist (MethodPool.ofClass c).unclaimed)
    (hsub : a.pool.unclaimed.Sublist (MethodPool.ofClass c).unclaimed)
    (hpool : a.pool.matching (hideTake X) = hiders c X) {i : Nat} {x : Member}
    (hone : (actionsOf model env c classFacets entries a).1.filter
      (fun found => Naming.capitalize found.2.id == X) = [(i, x)]) :
    ∃ before method after, entries = before ++ (i, method) :: after ∧
      Naming.capitalize method.name = X ∧
      x.facets.get? .hideForContext =
        (waiting c X before i).head?.map (hidingFacet (.ofMember c.name x.id)) ∧
      ∀ e ∈ hiders c X, e ∈ entries →
        (e.1 ∈ (actionsOf model env c classFacets entries a).1.map (·.1) ↔
          e ∈ before ∨ e ∈ (waiting c X before i).tail) := by
  obtain ⟨hmem, hX⟩ := List.mem_filter.mp (hone ▸ List.mem_singleton_self (i, x))
  obtain ⟨before, method, after, hsplit, hfound, hactions⟩ := exists_turn_of_mem_actionsOf hmem
  dsimp only at hsplit hfound hactions
  set b := (actionsOf model env c classFacets before a).2 with hb
  have hid : x.id = method.name := by rw [hfound]; rfl
  have hname : Naming.capitalize method.name = X := by rw [← hid]; exact beq_iff_eq.mp hX
  rw [hactions] at hone
  obtain ⟨hearlier, hlater⟩ := not_of_filter_eq_singleton hone
  simp only [beq_iff_eq] at hearlier hlater
  -- the turn of the action: what the pool has, and what is left
  have hwaiting : (b.pool.matching (hideTake X)).filter (·.1 != i) = waiting c X before i := by
    rw [hb, matching_actionsOf hearlier, hpool, List.filter_filter, waiting]
    exact List.filter_congr fun e _ => Bool.and_comm ..
  obtain ⟨hfacet, htail⟩ := hides_turn hnodup hhide (a := b) (e := (i, method)) hname
  rw [hwaiting] at hfacet htail
  refine ⟨before, method, after, hsplit, hname, ?_, fun e he hcandidate => ?_⟩
  · rw [hid, hfound]
    exact hfacet
  -- the candidates before the action and those after it
  have hplaces : (entries.map (·.1)).Nodup :=
    List.pairwise_map.mpr ((ascending_of_sublist hentries).imp Nat.ne_of_lt)
  rw [hsplit, List.map_append, List.map_cons, List.nodup_append, List.nodup_cons] at hplaces
  obtain ⟨hbefore, ⟨hi, hafter⟩, hapart⟩ := hplaces
  have hmatch := (List.mem_filter.mp he).2
  have hunique {q : MethodPool} (hq : q.unclaimed.Sublist (MethodPool.ofClass c).unclaimed) :
      ∀ e' ∈ q.unclaimed, e'.1 = e.1 → e' = e := fun e' he' =>
    eq_of_mem_ofClass (hq.subset he') (sublist_hiders.subset he)
  rw [hactions, List.map_append, List.map_cons, List.mem_append, List.mem_cons]
  rw [hsplit, List.mem_append, List.mem_cons] at hcandidate
  rcases hcandidate with hmem | rfl | hmem
  · have haction := (mem_actionsOf_iff hearlier hbefore hmem hmatch (hunique hsub)).mpr (hpool ▸ he)
    exact iff_of_true (.inl haction) (.inl hmem)
  · exact absurd rfl (ne_of_mem_hiders he hname)
  · have hplace : e.1 ∈ after.map (·.1) := List.mem_map_of_mem hmem
    have hne : e.1 ≠ i := fun heq => hi (heq ▸ hplace)
    have hfree : e.1 ∉ before.map (·.1) := fun h => hapart _ h _ (List.mem_cons_of_mem _ hplace) rfl
    have hlast : (turn model env c classFacets (i, method) b).2.pool.unclaimed.Sublist
        a.pool.unclaimed := (pool_turn _).trans (pool_actionsOf ..)
    rw [or_iff_right fun h => hfree (mem_places_of_mem_actionsOf h), or_iff_right hne,
      or_iff_right fun h => hfree (List.mem_map_of_mem h), ← htail]
    exact mem_actionsOf_iff hlater hafter hmem hmatch (hunique (hlast.trans hsub))

theorem mem_waiting {before : List (Nat × Method)} {i : Nat} :
    e ∈ waiting c X before i ↔ e ∈ hiders c X ∧ e.1 ∉ before.map (·.1) ∧ e.1 ≠ i := by
  rw [waiting, List.mem_filter]
  simp

/-- Methods wait if they are no candidates, or come after the action. -/
theorem mem_waiting_iff {before after : List (Nat × Method)} {i : Nat} {method : Method}
    (hsub : (before ++ (i, method) :: after).Sublist (MethodPool.ofClass c).unclaimed)
    (he : e ∈ hiders c X) :
    e ∈ waiting c X before i ↔ e ∉ before ++ (i, method) :: after ∨ i < e.1 := by
  obtain ⟨-, hafter, hbefore⟩ := List.pairwise_append.mp (ascending_of_sublist hsub)
  have hplace := place_mem_iff hsub he
  rw [List.map_append, List.map_cons, List.mem_append, List.mem_cons] at hplace
  rw [mem_waiting, and_iff_right he]
  constructor
  · rintro ⟨hfree, hne⟩
    by_cases hmem : e ∈ before ++ (i, method) :: after
    · refine .inr ?_
      rcases List.mem_append.mp hmem with h | h
      · exact absurd (List.mem_map_of_mem h) hfree
      · rcases List.mem_cons.mp h with rfl | h
        · exact absurd rfl hne
        · exact (List.pairwise_cons.mp hafter).1 e h
    · exact .inl hmem
  · rintro (hmem | hlt)
    · rw [← hplace, not_or, not_or] at hmem
      exact ⟨hmem.1, hmem.2.1⟩
    · refine ⟨fun h => ?_, Nat.ne_of_gt hlt⟩
      obtain ⟨e', he', heq⟩ := List.mem_map.mp h
      have := hbefore e' he' _ List.mem_cons_self
      omega

/-- Whichever of the methods is the first to wait, its facet names them all. -/
theorem map_head?_waiting {before : List (Nat × Method)} {i : Nat} {owner : Identifier}
    (he : e ∈ waiting c X before i) :
    (waiting c X before i).head?.map (hidingFacet owner) =
      some ⟨owner, false, .hideForContext ("hide" ++ X)⟩ := by
  obtain ⟨first, rest, hwaiting⟩ := List.exists_cons_of_ne_nil (List.ne_nil_of_mem he)
  have hfirst : first ∈ waiting c X before i := hwaiting ▸ List.mem_cons_self
  rw [hwaiting, List.head?_cons, Option.map_some, hidingFacet,
    name_of_mem_hiders (mem_waiting.mp hfirst).1]

/-- Of entries in order, all but the first have another before them. -/
theorem mem_tail_iff {entries : List (Nat × Method)} (h : entries.Pairwise (·.1 < ·.1))
    (he : e ∈ entries) : e ∈ entries.tail ↔ ∃ e' ∈ entries, e'.1 < e.1 := by
  cases entries with
  | nil => cases he
  | cons first entries =>
    obtain ⟨hfirst, -⟩ := List.pairwise_cons.mp h
    constructor
    · exact fun htail => ⟨first, List.mem_cons_self, hfirst e htail⟩
    · rintro ⟨e', he', hlt⟩
      rcases List.mem_cons.mp he with rfl | he
      · rcases List.mem_cons.mp he' with rfl | he'
        · omega
        · have := hfirst e' he'
          omega
      · exact he

end Candidates

/-! ### When an action is hidden -/

/-- The actions are found among the candidates, once the associations are. -/
theorem actions_ofClass (model : ProgrammingModel) (env : Environment) (c : Class) :
    (ofClass model env c).actions =
      (actionsOf model env c (analyseClass model env c).facets (candidates model env c)
        (afterAssociations model env c)).1 := rfl

theorem nodup_standard : ProgrammingModel.standard.factories.Nodup := by decide +kernel

theorem hideMethod_mem_standard : .hideMethod ∈ ProgrammingModel.standard.factories := by
  decide +kernel

/-- **When the method that hides an action does so.** Let exactly one member have a capitalized
name, an action, and let the class declare a method that can hide it. The action has the facet of
the method, and the method is no action itself, in exactly two cases: if the name of the method is
reserved, whatever the order of the declaration; or if the method is declared after the action, and
no other one of the kind between them. -/
theorem hidden_iff (env : Environment) (c : Class) {i j : Nat} {x : Member} {X : String}
    (hone : ((ofClass .standard env c).associations ++ (ofClass .standard env c).actions).filter
      (fun found => Naming.capitalize found.2.id == X) = [(i, x)])
    (haction : (i, x) ∈ (ofClass .standard env c).actions) (hj : HidesAt c X j) :
    (x.facets.get? .hideForContext =
          some ⟨.ofMember c.name x.id, false, .hideForContext ("hide" ++ X)⟩ ∧
        j ∉ (ofClass .standard env c).actions.map (·.1)) ↔
      (Naming.startsWith "hide" ("hide" ++ X) ∨
        (i < j ∧ ∀ k, i < k → k < j → ¬ HidesAt c X k)) := by
  obtain ⟨hassociations, hactions⟩ := filter_eq_singleton_of_mem hone haction
  simp only [beq_iff_eq] at hassociations
  have hpool := matching_afterAssociations hassociations
  have hsub : (candidates .standard env c).Sublist (MethodPool.ofClass c).unclaimed :=
    List.filter_sublist.trans (pool_afterAssociations .standard env c)
  rw [actions_ofClass] at hactions ⊢
  obtain ⟨before, method, after, hsplit, hname, hfacet, hexposed⟩ :=
    exists_waiting nodup_standard hideMethod_mem_standard hsub
      (pool_afterAssociations .standard env c) hpool hactions
  have hcandidate {e : Nat × Method} (he : e ∈ hiders c X) :=
    mem_candidates_iff hideMethod_mem_standard hpool he
  have hwaits {e : Nat × Method} (he : e ∈ hiders c X) :
      e ∈ waiting c X before i ↔ e ∉ candidates .standard env c ∨ i < e.1 := by
    rw [hsplit]
    exact mem_waiting_iff (hsplit ▸ hsub) he
  have hascending : (waiting c X before i).Pairwise (·.1 < ·.1) :=
    ascending_of_sublist (List.filter_sublist.trans sublist_hiders)
  rw [hfacet]
  obtain ⟨m, he⟩ := hidesAt_iff.mp hj
  cases hreserved : Naming.startsWith "hide" ("hide" ++ X) with
  | true =>
    -- the method is no candidate, and waits whatever its place
    have hmem : (j, m) ∉ candidates .standard env c := fun h => by
      rw [(hcandidate he).mp h] at hreserved
      cases hreserved
    refine iff_of_true ⟨map_head?_waiting ((hwaits he).mpr (.inl hmem)), fun hplace => ?_⟩ (.inl rfl)
    exact hmem ((place_mem_iff hsub he).mp (mem_places_of_mem_actionsOf hplace))
  | false =>
    -- the methods are candidates, and only those after the action wait
    have hmem := (hcandidate he).mpr hreserved
    rw [hexposed _ he hmem]
    constructor
    · rintro ⟨-, hfree⟩
      rw [not_or] at hfree
      rw [hsplit] at hsub
      have hplace : j ∉ before.map (·.1) :=
        (place_mem_iff ((List.sublist_append_left _ _).trans hsub) he).not.mpr hfree.1
      have hne : j ≠ i := fun heq => ne_of_mem_hiders he hname
        (eq_of_mem_ofClass (sublist_hiders.subset he)
          (hsub.subset (List.mem_append_right _ List.mem_cons_self)) heq)
      have hwait : (j, m) ∈ waiting c X before i := mem_waiting.mpr ⟨he, hplace, hne⟩
      refine .inr ⟨((hwaits he).mp hwait).resolve_left (not_not_intro hmem), fun k hik hkj hk => ?_⟩
      obtain ⟨m', he'⟩ := hidesAt_iff.mp hk
      exact hfree.2 ((mem_tail_iff hascending hwait).mpr ⟨_, (hwaits he').mpr (.inr hik), hkj⟩)
    · rintro (h | ⟨hij, hnone⟩)
      · cases h
      have hwait := (hwaits he).mpr (.inr hij)
      refine ⟨map_head?_waiting hwait, ?_⟩
      rintro (hbefore | htail)
      · exact (mem_waiting.mp hwait).2.1 (List.mem_map_of_mem hbefore)
      · obtain ⟨e', he', hlt⟩ := (mem_tail_iff hascending hwait).mp htail
        have hhides := (mem_waiting.mp he').1
        have hlater := ((hwaits hhides).mp he').resolve_left
          (not_not_intro ((hcandidate hhides).mpr hreserved))
        exact hnone e'.1 hlater hlt (hidesAt_iff.mpr ⟨e'.2, hhides⟩)

/-- A class with the actions and methods that can hide them, in an order. -/
def door (names : List String) : Class :=
  { Class.named "shop.Door" with methods := names.map Method.named }

/-- An environment without services, in which no type is one of collections or primitive. -/
def plainEnvironment : Environment := ⟨.empty, {}, fun _ => false, fun _ => false⟩

/-- A class with one action has one member of its name. -/
theorem exists_of_one_action (env : Environment) (c : Class) (i : Nat) (id : String)
    (hassociations : (ofClass .standard env c).associations.length = 0)
    (hactions : (ofClass .standard env c).actions.map (fun found => (found.1, found.2.id)) =
      [(i, id)]) :
    ∃ x, x.id = id ∧ (ofClass .standard env c).actions = [(i, x)] ∧
      ((ofClass .standard env c).associations ++ (ofClass .standard env c).actions).filter
        (fun found => Naming.capitalize found.2.id == Naming.capitalize id) = [(i, x)] := by
  obtain ⟨found, hfound, heq⟩ := List.map_eq_singleton_iff.mp hactions
  obtain ⟨rfl, rfl⟩ := Prod.mk.inj heq
  refine ⟨found.2, rfl, hfound, ?_⟩
  rw [List.length_eq_zero_iff.mp hassociations, hfound]
  simp

/-- An upper-case name is reserved, so the method may come first; another one must come second. -/
theorem hidden_door :
    (∃ x, (ofClass .standard plainEnvironment (door ["hideOpen", "open"])).actions = [(1, x)] ∧
      x.facets.get? .hideForContext =
        some ⟨.ofMember "shop.Door" "open", false, .hideForContext "hideOpen"⟩) ∧
    ∃ x, (ofClass .standard plainEnvironment (door ["_open", "hide_open"])).actions = [(0, x)] ∧
      x.facets.get? .hideForContext =
        some ⟨.ofMember "shop.Door" "_open", false, .hideForContext "hide_open"⟩ := by
  obtain ⟨x, hx, hactions, hone⟩ := exists_of_one_action plainEnvironment
    (door ["hideOpen", "open"]) 1 "open" (by decide +kernel) (by decide +kernel)
  obtain ⟨y, hy, hactions', hone'⟩ := exists_of_one_action plainEnvironment
    (door ["_open", "hide_open"]) 0 "_open" (by decide +kernel) (by decide +kernel)
  have hopen : Naming.capitalize "open" = "Open" := by decide +kernel
  have hmark : Naming.capitalize "_open" = "_open" := by decide +kernel
  rw [hopen] at hone
  rw [hmark] at hone'
  have hhides : HidesAt (door ["hideOpen", "open"]) "Open" 0 :=
    ⟨Method.named "hideOpen", rfl, by decide +kernel, rfl, by decide +kernel⟩
  have hhides' : HidesAt (door ["_open", "hide_open"]) "_open" 1 :=
    ⟨Method.named "hide_open", rfl, by decide +kernel, rfl, by decide +kernel⟩
  have hx' := (hidden_iff plainEnvironment (door ["hideOpen", "open"]) hone
    (hactions ▸ List.mem_singleton_self _) hhides).mpr (.inl (by decide +kernel))
  have hy' := (hidden_iff plainEnvironment (door ["_open", "hide_open"]) hone'
    (hactions' ▸ List.mem_singleton_self _) hhides').mpr
      (.inr ⟨Nat.zero_lt_one, fun k _ _ => by omega⟩)
  rw [hx] at hx'
  rw [hy] at hy'
  exact ⟨⟨x, hactions, hx'.1⟩, y, hactions', hy'.1⟩

/-- An action declared after the method that should hide it is not hidden, and the method is an
action, where a name with a mark at its start makes it no reserved one. -/
theorem door_not_hidden :
    HidesAt (door ["hide_open", "_open"]) (Naming.capitalize "_open") 0 ∧
      (ofClass .standard plainEnvironment (door ["hide_open", "_open"])).associations.length = 0 ∧
      (ofClass .standard plainEnvironment (door ["hide_open", "_open"])).actions.map
          (fun found => (found.1, found.2.id, found.2.facets.data? .hideForContext)) =
        [(0, "hide_open", none), (1, "_open", none)] := by
  refine ⟨⟨Method.named "hide_open", rfl, ?_, rfl, ?_⟩, ?_, ?_⟩ <;> decide +kernel

end Introspection

end Facetry
