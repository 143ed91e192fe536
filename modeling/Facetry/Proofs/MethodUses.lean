/-
# Every method has one use

Introspection puts every method of a class to one of six uses: it is excluded, it is
one that every object has, it is the accessor of a property or a collection, it is an
action, a factory has claimed it as support, or it is left over. The uses follow one
another on one pool, and each stage spends what it takes out of the pool
(`MethodPool.Spends`). So the six lists of places are the whole declaration, cut into
parts (`Introspection.books_balance`).

Candidates for actions are listed before the first action is analysed, and the
analysis of an action can claim a later candidate as its support. Such a candidate is
out of the pool when its turn comes, and is passed over. That is why what is left
over has reserved names only, although not every candidate becomes an action.

Key definitions: `Introspection.Books`, `Introspection.books`.
Key theorems: `Introspection.spends_member`, `Introspection.spends_associationsOf`,
`Introspection.spends_actionsOf`, `Introspection.books_balance`.
-/
import Facetry.Proofs.MethodClaims
import Facetry.Proofs.References
import Mathlib.Data.List.Forall2

namespace Facetry

/-! ### Places -/

namespace MethodPool

theorem indices_ofClass (c : Class) : (ofClass c).indices = List.range c.methods.length := by
  simp [indices, ofClass, List.mapIdx_eq_zipIdx_map, List.map_map, Function.comp_def,
    List.range_eq_range']

theorem methods_ofClass (c : Class) : (ofClass c).methods = c.methods := by
  simp [methods, ofClass, List.mapIdx_eq_zipIdx_map, Function.comp_def]

/-- The method at a place of the pool is the one that the class declares there. -/
theorem getElem?_of_mem_ofClass {c : Class} {index : Nat} {m : Method}
    (h : (index, m) ∈ (ofClass c).unclaimed) : c.methods[index]? = some m := by
  obtain ⟨i, hi, heq⟩ := List.mem_mapIdx.mp h
  cases heq
  exact List.getElem?_eq_getElem hi

theorem mem_ofClass_of_getElem? {c : Class} {index : Nat} {m : Method}
    (h : c.methods[index]? = some m) : (index, m) ∈ (ofClass c).unclaimed := by
  obtain ⟨hi, rfl⟩ := List.getElem?_eq_some_iff.mp h
  exact List.mem_mapIdx.mpr ⟨index, hi, rfl⟩

end MethodPool

theorem Member.perm_inOrder (members : List Member) : (inOrder members).Perm members :=
  List.mergeSort_perm _ _

/-- An accessor reads something that has a name. -/
theorem Naming.isSome_propertyOf? {name : String}
    (h : Naming.startsWith "get" name ∨ Naming.startsWith "is" name) :
    (Naming.propertyOf? name).isSome := by
  unfold Naming.startsWith at h
  simpa [Naming.propertyOf?, Naming.propertyChars?] using h

namespace Introspection

variable {model : ProgrammingModel} {env : Environment} {c : Class} {classFacets : FacetHolder}

theorem isSome_propertyOf?_of_isAccessor {m : Method} (h : isAccessor m) :
    (Naming.propertyOf? m.name).isSome := by
  unfold isAccessor at h
  refine Naming.isSome_propertyOf? ?_
  split at h
  · exact .inl ‹_›
  · simp only [Bool.and_eq_true] at h
    exact .inr h.2.1

/-! ### Claims for members -/

/-- The claims made for the parameters from the place `index` on. -/
def parameterClaimsFrom (model : ProgrammingModel) (env : Environment) (m : MemberContext) :
    Nat → List Parameter → Analysis → List Claim
  | _, [], _ => []
  | index, p :: rest, a =>
    let context : ParameterContext := ⟨m.owner, m.method, m.id, index, p⟩
    let a := a.turnTo (.ofParameter m.owner.name m.id index)
    model.parameterClaims env context a ++
      parameterClaimsFrom model env m (index + 1) rest (model.analyseParameter env context a)

/-- The claims made for a member and its parameters. -/
def memberClaims (model : ProgrammingModel) (env : Environment) (m : MemberContext)
    (a : Analysis) : List Claim :=
  let a := a.turnTo (.ofMember m.owner.name m.id)
  let parameters := if m.feature = .action then m.method.parameters else []
  model.memberClaims env m a ++
    parameterClaimsFrom model env m 0 parameters (model.analyseMember env m a)

/-- The claims made for the members that the accessors read. -/
def associationClaims (model : ProgrammingModel) (env : Environment) (c : Class)
    (classFacets : FacetHolder) : List (Nat × Method) → Analysis → List Claim
  | [], _ => []
  | (_, accessor) :: rest, a =>
    match Naming.propertyOf? accessor.name with
    | none => associationClaims model env c classFacets rest a
    | some id =>
      let m : MemberContext := ⟨c, classFacets, accessor, id, featureOf env accessor⟩
      memberClaims model env m a ++
        associationClaims model env c classFacets rest (member model env m a).2

/-- The claims made for the candidates that become actions. -/
def actionClaims (model : ProgrammingModel) (env : Environment) (c : Class)
    (classFacets : FacetHolder) : List (Nat × Method) → Analysis → List Claim
  | [], _ => []
  | (index, method) :: rest, a =>
    if a.pool.contains index then
      let m : MemberContext := ⟨c, classFacets, method, method.name, .action⟩
      let a := { a with pool := a.pool.claim index }
      memberClaims model env m a ++
        actionClaims model env c classFacets rest (member model env m a).2
    else actionClaims model env c classFacets rest a

section Spending

variable (model : ProgrammingModel) (env : Environment) (c : Class) (classFacets : FacetHolder)

theorem spends_parametersFrom (m : MemberContext) (index : Nat) (ps : List Parameter)
    (a : Analysis) :
    a.pool.Spends ((parameterClaimsFrom model env m index ps a).map (·.place))
      (parametersFrom model env m index ps a).2.pool := by
  induction ps generalizing index a with
  | nil => exact .refl a.pool
  | cons p ps ih =>
    have hfirst := model.spends_parameterClaims env
      (a.turnTo (.ofParameter m.owner.name m.id index)) ⟨m.owner, m.method, m.id, index, p⟩
    simp only [parameterClaimsFrom, List.map_append]
    exact hfirst.trans (ih (index + 1) _)

/-- **A member spends what is claimed for it.** -/
theorem spends_member (m : MemberContext) (a : Analysis) :
    a.pool.Spends ((memberClaims model env m a).map (·.place)) (member model env m a).2.pool := by
  have hmember := model.spends_memberClaims env (a.turnTo (.ofMember m.owner.name m.id)) m
  simp only [memberClaims, List.map_append]
  exact hmember.trans (spends_parametersFrom model env m 0 _ _)

/-- **The associations spend what is claimed for them.** -/
theorem spends_associationsOf (entries : List (Nat × Method)) (a : Analysis) :
    a.pool.Spends ((associationClaims model env c classFacets entries a).map (·.place))
      (associationsOf model env c classFacets entries a).2.pool := by
  induction entries generalizing a with
  | nil => exact .refl a.pool
  | cons e entries ih =>
    obtain ⟨index, accessor⟩ := e
    cases hid : Naming.propertyOf? accessor.name with
    | none =>
      simp only [associationClaims, associationsOf, hid]
      exact ih a
    | some id =>
      simp only [associationClaims, associationsOf, hid, List.map_append]
      exact (spends_member model env _ a).trans (ih _)

/-- **The actions spend their own places and what is claimed for them.** -/
theorem spends_actionsOf (entries : List (Nat × Method)) {a : Analysis}
    (ha : a.pool.indices.Nodup) :
    a.pool.Spends
      ((actionsOf model env c classFacets entries a).1.map (·.1) ++
        (actionClaims model env c classFacets entries a).map (·.place))
      (actionsOf model env c classFacets entries a).2.pool := by
  induction entries generalizing a with
  | nil => exact .refl a.pool
  | cons e entries ih =>
    obtain ⟨index, method⟩ := e
    by_cases hpresent : a.pool.contains index
    · have hclaim := MethodPool.spends_claim hpresent ha
      have hmember := hclaim.trans (spends_member model env
        ⟨c, classFacets, method, method.name, .action⟩ { a with pool := a.pool.claim index })
      have hrest := ih (hmember.nodup ha)
      simp only [actionClaims, actionsOf, if_pos hpresent, List.map_append, List.map_cons]
      -- the claims for this action come before the places of the later ones
      exact (hmember.trans hrest).perm ((List.perm_append_comm_assoc _ _ _).cons index)
    · simp only [actionClaims, actionsOf, if_neg hpresent]
      exact ih ha

theorem pool_actionsOf (entries : List (Nat × Method)) (a : Analysis) :
    (actionsOf model env c classFacets entries a).2.pool.unclaimed.Sublist a.pool.unclaimed := by
  induction entries generalizing a with
  | nil => exact List.Sublist.refl _
  | cons e entries ih =>
    obtain ⟨index, method⟩ := e
    unfold actionsOf
    split
    · exact (ih _).trans ((pool_member _ _).trans List.filter_sublist)
    · exact ih a

/-- No candidate is left when all have had their turn: it is an action, or it was claimed
before. -/
theorem not_mem_indices_actionsOf {entries : List (Nat × Method)} {e : Nat × Method}
    (he : e ∈ entries) (a : Analysis) :
    e.1 ∉ (actionsOf model env c classFacets entries a).2.pool.indices := by
  induction entries generalizing a with
  | nil => cases he
  | cons first entries ih =>
    obtain ⟨index, method⟩ := first
    by_cases hpresent : a.pool.contains index
    · simp only [actionsOf, if_pos hpresent]
      rcases List.mem_cons.mp he with rfl | he
      · have hclaimed : index ∉ (a.pool.claim index).indices := by
          simp [MethodPool.indices_claim]
        have hmember : (member model env ⟨c, classFacets, method, method.name, .action⟩
            { a with pool := a.pool.claim index }).2.pool.unclaimed.Sublist
              (a.pool.claim index).unclaimed := pool_member _ _
        have hlast := (pool_actionsOf model env c classFacets entries _).trans hmember
        exact fun hleft => hclaimed ((hlast.map (·.1)).subset hleft)
      · exact ih he _
    · simp only [actionsOf, if_neg hpresent]
      rcases List.mem_cons.mp he with rfl | he
      · have habsent : index ∉ a.pool.indices := by
          simpa only [MethodPool.contains, List.contains_iff_mem] using hpresent
        have hlast := pool_actionsOf model env c classFacets entries a
        exact fun hleft => habsent ((hlast.map (·.1)).subset hleft)
      · exact ih he a

end Spending

/-! ### The claims are of factories of the model -/

variable {claim : Claim}

theorem within_parameterClaimsFrom {m : MemberContext} {index : Nat} {ps : List Parameter}
    {a : Analysis} (h : claim ∈ parameterClaimsFrom model env m index ps a) :
    claim.Within model.factories a.pool := by
  induction ps generalizing index a with
  | nil => cases h
  | cons p ps ih =>
    rcases List.mem_append.mp h with h | h
    · exact ProgrammingModel.within_parameterClaims (a := a.turnTo _) h
    · exact (ih h).mono (fun _ hf => hf) (model.progress_analyseParameter env _ _).pool

theorem within_memberClaims {m : MemberContext} {a : Analysis}
    (h : claim ∈ memberClaims model env m a) : claim.Within model.factories a.pool := by
  rcases List.mem_append.mp h with h | h
  · exact ProgrammingModel.within_memberClaims (a := a.turnTo _) h
  · exact (within_parameterClaimsFrom h).mono (fun _ hf => hf)
      (model.progress_analyseMember env _ m).pool

theorem within_associationClaims {entries : List (Nat × Method)} {a : Analysis}
    (h : claim ∈ associationClaims model env c classFacets entries a) :
    claim.Within model.factories a.pool := by
  induction entries generalizing a with
  | nil => cases h
  | cons e entries ih =>
    obtain ⟨index, accessor⟩ := e
    unfold associationClaims at h
    split at h
    · exact ih h
    · rcases List.mem_append.mp h with h | h
      · exact within_memberClaims h
      · exact (ih h).mono (fun _ hf => hf) (pool_member _ a)

theorem within_actionClaims {entries : List (Nat × Method)} {a : Analysis}
    (h : claim ∈ actionClaims model env c classFacets entries a) :
    claim.Within model.factories a.pool := by
  induction entries generalizing a with
  | nil => cases h
  | cons e entries ih =>
    obtain ⟨index, method⟩ := e
    unfold actionClaims at h
    split at h
    · have hclaimed : (a.pool.claim index).unclaimed.Sublist a.pool.unclaimed :=
        List.filter_sublist
      rcases List.mem_append.mp h with h | h
      · exact (within_memberClaims h).mono (fun _ hf => hf) hclaimed
      · exact (ih h).mono (fun _ hf => hf) ((pool_member _ _).trans hclaimed)
    · exact ih h

/-! ### What becomes a member -/

/-- Whether the member is the property or collection that the accessor reads. -/
def IsRead (env : Environment) (accessor : Method) (x : Member) : Prop :=
  Naming.propertyOf? accessor.name = some x.id ∧ x.method = accessor.name ∧
    x.feature = featureOf env accessor

/-- Whether the member is the method as an action. -/
def IsAction (method : Method) (x : Member) : Prop :=
  x.id = method.name ∧ x.method = method.name ∧ x.feature = .action

/-- **Each accessor is read into one member**, in order, and none is passed over. -/
theorem forall₂_associationsOf {entries : List (Nat × Method)}
    (h : ∀ e ∈ entries, isAccessor e.2) (a : Analysis) :
    List.Forall₂ (fun e found => found.1 = e.1 ∧ IsRead env e.2 found.2) entries
      (associationsOf model env c classFacets entries a).1 := by
  induction entries generalizing a with
  | nil => exact .nil
  | cons e entries ih =>
    obtain ⟨index, accessor⟩ := e
    obtain ⟨haccessor, hrest⟩ := List.forall_mem_cons.mp h
    obtain ⟨id, hid⟩ := Option.isSome_iff_exists.mp (isSome_propertyOf?_of_isAccessor haccessor)
    simp only [associationsOf, hid]
    exact .cons ⟨rfl, hid, rfl, rfl⟩ (ih hrest _)

theorem isAction_of_mem_actionsOf {entries : List (Nat × Method)} {a : Analysis} {index : Nat}
    {x : Member} (h : (index, x) ∈ (actionsOf model env c classFacets entries a).1) :
    ∃ m, (index, m) ∈ entries ∧ IsAction m x := by
  induction entries generalizing a with
  | nil => cases h
  | cons e entries ih =>
    obtain ⟨first, method⟩ := e
    unfold actionsOf at h
    split at h
    · rcases List.mem_cons.mp h with h | h
      · cases h
        exact ⟨method, List.mem_cons_self, rfl, rfl, rfl⟩
      · obtain ⟨m, hm, hx⟩ := ih h
        exact ⟨m, List.mem_cons_of_mem _ hm, hx⟩
    · obtain ⟨m, hm, hx⟩ := ih h
      exact ⟨m, List.mem_cons_of_mem _ hm, hx⟩

/-- Properties and collections together are what was found, if it has no other members. -/
theorem perm_membersOf_associations {members : List (Nat × Member)}
    (h : ∀ found ∈ members, found.2.feature = .property ∨ found.2.feature = .collection) :
    (membersOf members .property ++ membersOf members .collection).Perm (members.map (·.2)) := by
  have hother : (members.map (·.2)).filter (·.feature == .collection) =
      (members.map (·.2)).filter fun x => !(x.feature == .property) := by
    refine List.filter_congr fun x hx => ?_
    obtain ⟨found, hfound, rfl⟩ := List.mem_map.mp hx
    rcases h found hfound with hf | hf <;> simp [hf]
  refine ((Member.perm_inOrder _).append (Member.perm_inOrder _)).trans ?_
  rw [hother]
  exact List.filter_append_perm _ _

theorem perm_membersOf {members : List (Nat × Member)} {feature : Feature}
    (h : ∀ found ∈ members, found.2.feature = feature) :
    (membersOf members feature).Perm (members.map (·.2)) := by
  have hall : (members.map (·.2)).filter (·.feature == feature) = members.map (·.2) := by
    refine List.filter_eq_self.mpr fun x hx => ?_
    obtain ⟨found, hfound, rfl⟩ := List.mem_map.mp hx
    simp [h found hfound]
  rw [membersOf, hall]
  exact Member.perm_inOrder _

/-! ### The books -/

/-- The places of the methods of a class, by what the methods are for. -/
structure Books where
  excluded : List Nat
  framework : List Nat
  accessors : List Nat
  actions : List Nat
  claims : List Claim
  leftOver : List Nat

/-- All places in the books. -/
def Books.places (b : Books) : List Nat :=
  b.excluded ++ b.framework ++ b.accessors ++ b.actions ++ b.claims.map (·.place) ++ b.leftOver

/-- The analysis of a class before the first factory. -/
def start (c : Class) : Analysis :=
  ⟨.empty (.ofClass c.name), (MethodPool.ofClass c).discard isExcluded, []⟩

/-- The accessors, with their places. -/
def accessors (model : ProgrammingModel) (env : Environment) (c : Class) : List (Nat × Method) :=
  (analyseClass model env c).pool.unclaimed.filter fun e => isAccessor e.2

/-- The analysis of a class once the accessors are claimed. -/
def afterAccessors (model : ProgrammingModel) (env : Environment) (c : Class) : Analysis :=
  { analyseClass model env c with pool := (analyseClass model env c).pool.discard isAccessor }

/-- The analysis of a class once its properties and collections are found. -/
def afterAssociations (model : ProgrammingModel) (env : Environment) (c : Class) : Analysis :=
  (associationsOf model env c (analyseClass model env c).facets (accessors model env c)
    (afterAccessors model env c)).2

/-- The methods that can be actions, with their places. -/
def candidates (model : ProgrammingModel) (env : Environment) (c : Class) :
    List (Nat × Method) :=
  (afterAssociations model env c).pool.unclaimed.filter fun e => !model.isReserved e.2.name

/-- The books of the introspection of a class. -/
def books (model : ProgrammingModel) (env : Environment) (c : Class) : Books :=
  let facets := (analyseClass model env c).facets
  { excluded := ((MethodPool.ofClass c).unclaimed.filter fun e => isExcluded e.2).map (·.1)
    framework := ((model.analyseClass env c (start c)).pool.unclaimed.filter
      fun e => isFrameworkMethod e.2).map (·.1)
    accessors := (accessors model env c).map (·.1)
    actions := (ofClass model env c).actions.map (·.1)
    claims := model.classClaims env c (start c) ++
      associationClaims model env c facets (accessors model env c) (afterAccessors model env c) ++
      actionClaims model env c facets (candidates model env c) (afterAssociations model env c)
    leftOver := (ofClass model env c).last.pool.indices }

section Stages

variable (model : ProgrammingModel) (env : Environment) (c : Class)

theorem pool_start : (start c).pool.unclaimed.Sublist (MethodPool.ofClass c).unclaimed :=
  List.filter_sublist

theorem pool_accessors :
    (accessors model env c).Sublist (MethodPool.ofClass c).unclaimed :=
  List.filter_sublist.trans (pool_analyseClass model env c)

theorem pool_afterAccessors :
    (afterAccessors model env c).pool.unclaimed.Sublist (MethodPool.ofClass c).unclaimed :=
  List.filter_sublist.trans (pool_analyseClass model env c)

theorem pool_afterAssociations :
    (afterAssociations model env c).pool.unclaimed.Sublist (MethodPool.ofClass c).unclaimed :=
  (pool_associationsOf _ _).trans (pool_afterAccessors model env c)

theorem pool_candidates :
    (candidates model env c).Sublist (MethodPool.ofClass c).unclaimed :=
  List.filter_sublist.trans (pool_afterAssociations model env c)

theorem pool_last :
    (ofClass model env c).last.pool.unclaimed.Sublist (MethodPool.ofClass c).unclaimed :=
  (pool_actionsOf model env c _ (candidates model env c) _).trans
    (pool_afterAssociations model env c)

theorem nodup_afterAssociations : (afterAssociations model env c).pool.indices.Nodup := by
  have hsub := (pool_afterAssociations model env c).map (·.1)
  have hall : (MethodPool.ofClass c).indices.Nodup := by
    rw [MethodPool.indices_ofClass]
    exact List.nodup_range
  exact hall.sublist hsub

/-- **What each stage takes out of the pool is in the books.** -/
theorem spends_books :
    (MethodPool.ofClass c).Spends
      ((books model env c).excluded ++
        ((model.classClaims env c (start c)).map (·.place) ++
          ((books model env c).framework ++
            ((books model env c).accessors ++
              ((associationClaims model env c (analyseClass model env c).facets
                  (accessors model env c) (afterAccessors model env c)).map (·.place) ++
                ((books model env c).actions ++
                  (actionClaims model env c (analyseClass model env c).facets
                    (candidates model env c)
                    (afterAssociations model env c)).map (·.place)))))))
      (ofClass model env c).last.pool := by
  have hexcluded := (MethodPool.ofClass c).spends_discard isExcluded
  have hclass := model.spends_classClaims env (start c) c
  have hframework := (model.analyseClass env c (start c)).pool.spends_discard isFrameworkMethod
  have haccessors := (analyseClass model env c).pool.spends_discard isAccessor
  have hassociations := spends_associationsOf model env c (analyseClass model env c).facets
    (accessors model env c) (afterAccessors model env c)
  have hactions := spends_actionsOf model env c (analyseClass model env c).facets
    (candidates model env c) (nodup_afterAssociations model env c)
  exact hexcluded.trans (hclass.trans (hframework.trans (haccessors.trans
    (hassociations.trans hactions))))

/-- **The books are balanced**: every method of the declaration is in them, once. -/
theorem perm_places_books : (books model env c).places.Perm (List.range c.methods.length) := by
  have hspends := spends_books model env c
  unfold MethodPool.Spends at hspends
  rw [MethodPool.indices_ofClass] at hspends
  refine List.perm_iff_count.mpr fun place => ?_
  have hcount := hspends.count_eq place
  simp only [List.count_append] at hcount
  have hleft : (books model env c).leftOver = (ofClass model env c).last.pool.indices := rfl
  have hclaims : (books model env c).claims = model.classClaims env c (start c) ++
      associationClaims model env c (analyseClass model env c).facets (accessors model env c)
        (afterAccessors model env c) ++
      actionClaims model env c (analyseClass model env c).facets (candidates model env c)
        (afterAssociations model env c) := rfl
  simp only [Books.places, hleft, hclaims, List.map_append, List.count_append]
  omega

/-- A claim in the books is one of a factory of the model, of a method with the name that the
factory asked for. -/
theorem exists_of_mem_claims {claim : Claim} (h : claim ∈ (books model env c).claims) :
    claim.factory ∈ model.factories ∧ ∃ m, c.methods[claim.place]? = some m ∧
      m.name = claim.take.name ∧ claim.take.accept m := by
  have hwithin : claim.Within model.factories (MethodPool.ofClass c) := by
    rcases List.mem_append.mp h with h | h
    · rcases List.mem_append.mp h with h | h
      · exact (ProgrammingModel.within_classClaims h).mono (fun _ hf => hf) (pool_start c)
      · exact (within_associationClaims h).mono (fun _ hf => hf)
          (pool_afterAccessors model env c)
    · exact (within_actionClaims h).mono (fun _ hf => hf) (pool_afterAssociations model env c)
  obtain ⟨hfactory, m, hm, hmatch⟩ := hwithin
  exact ⟨hfactory, m, MethodPool.getElem?_of_mem_ofClass hm, hmatch⟩

/-- The members that are no actions are those that the accessors read. -/
theorem forall₂_associations :
    List.Forall₂ (fun e found => found.1 = e.1 ∧ IsRead env e.2 found.2)
      (accessors model env c) (ofClass model env c).associations :=
  forall₂_associationsOf (fun _ he => (List.mem_filter.mp he).2) _

/-- There is one member for each accessor. -/
theorem places_associations :
    (ofClass model env c).associations.map (·.1) = (books model env c).accessors := by
  have hplaces : List.Forall₂ (· = ·) ((accessors model env c).map (·.1))
      ((ofClass model env c).associations.map (·.1)) := by
    rw [List.forall₂_map_left_iff, List.forall₂_map_right_iff]
    exact (forall₂_associations model env c).imp fun _ _ h => h.1.symm
  rw [List.forall₂_eq_eq_eq] at hplaces
  exact hplaces.symm

theorem isRead_of_mem_associations {index : Nat} {x : Member}
    (h : (index, x) ∈ (ofClass model env c).associations) :
    ∃ m, c.methods[index]? = some m ∧ isAccessor m ∧ IsRead env m x := by
  obtain ⟨i, hi, hx⟩ := List.getElem_of_mem h
  have hall := forall₂_associations model env c
  have hi' : i < (accessors model env c).length := by rwa [hall.length_eq]
  obtain ⟨hindex, hread⟩ := hall.get hi' hi
  rw [show (ofClass model env c).associations.get ⟨i, hi⟩ = (index, x) from hx] at hindex hread
  have hmem := List.get_mem (accessors model env c) ⟨i, hi'⟩
  have haccessor := (List.mem_filter.mp hmem).2
  have hdeclared :=
    MethodPool.getElem?_of_mem_ofClass ((pool_accessors model env c).subset hmem)
  rw [← hindex] at hdeclared
  exact ⟨_, hdeclared, haccessor, hread⟩

theorem isAction_of_mem_actions {index : Nat} {x : Member}
    (h : (index, x) ∈ (ofClass model env c).actions) :
    ∃ m, c.methods[index]? = some m ∧ ¬ model.isReserved m.name ∧ IsAction m x := by
  obtain ⟨m, hm, hx⟩ := isAction_of_mem_actionsOf h
  have hfree := (List.mem_filter.mp hm).2
  have hdeclared :=
    MethodPool.getElem?_of_mem_ofClass ((pool_candidates model env c).subset hm)
  exact ⟨m, hdeclared, by simpa using hfree, hx⟩

/-- **What is left over looks like support.** -/
theorem isReserved_of_mem_last {e : Nat × Method}
    (h : e ∈ (ofClass model env c).last.pool.unclaimed) : model.isReserved e.2.name := by
  by_contra hfree
  have hpool := (pool_actionsOf model env c _ (candidates model env c) _).subset h
  have hcandidate : e ∈ candidates model env c := List.mem_filter.mpr ⟨hpool, by simpa using hfree⟩
  exact not_mem_indices_actionsOf model env c _ hcandidate _ (List.mem_map_of_mem h)

end Stages

/-- **Every declared method is accounted for exactly once.** Six lists of places make up the whole
declaration, without repetition: the methods that are excluded, those that every object has, the
accessors, the actions, those that one take of one factory has claimed, and those left over. Every
accessor is read into one property or collection and every action is one action, and there are no
other members. The orphans are the names of what is left over, in the order of the declaration, and
all of them are reserved. -/
theorem books_balance (model : ProgrammingModel) (env : Environment) (c : Class) :
    (books model env c).places.Perm (List.range c.methods.length) ∧
    (∀ place, place ∈ (books model env c).excluded ↔
      ∃ m, c.methods[place]? = some m ∧ isExcluded m) ∧
    (∀ place ∈ (books model env c).framework,
      ∃ m, c.methods[place]? = some m ∧ isFrameworkMethod m) ∧
    (∀ claim ∈ (books model env c).claims, claim.factory ∈ model.factories ∧
      ∃ m, c.methods[claim.place]? = some m ∧ m.name = claim.take.name ∧ claim.take.accept m) ∧
    (ofClass model env c).associations.map (·.1) = (books model env c).accessors ∧
    (∀ place x, (place, x) ∈ (ofClass model env c).associations →
      ∃ m, c.methods[place]? = some m ∧ isAccessor m ∧ IsRead env m x) ∧
    (((ofClass model env c).specification c).properties ++
      ((ofClass model env c).specification c).collections).Perm
        ((ofClass model env c).associations.map (·.2)) ∧
    (ofClass model env c).actions.map (·.1) = (books model env c).actions ∧
    (∀ place x, (place, x) ∈ (ofClass model env c).actions →
      ∃ m, c.methods[place]? = some m ∧ ¬ model.isReserved m.name ∧ IsAction m x) ∧
    ((ofClass model env c).specification c).actions.Perm
      ((ofClass model env c).actions.map (·.2)) ∧
    ((ofClass model env c).specification c).orphans.map some =
      (books model env c).leftOver.map (fun place => c.methods[place]?.map (·.name)) ∧
    (books model env c).leftOver.Pairwise (· < ·) ∧
    ∀ name ∈ ((ofClass model env c).specification c).orphans, model.isReserved name := by
  have hlast := pool_last model env c
  refine ⟨perm_places_books model env c, fun place => ⟨fun h => ?_, ?_⟩, fun place h => ?_,
    fun claim => exists_of_mem_claims model env c, places_associations model env c,
    fun place x => isRead_of_mem_associations model env c, ?_, rfl,
    fun place x => isAction_of_mem_actions model env c, ?_, ?_, ?_, fun name hname => ?_⟩
  · obtain ⟨e, he, rfl⟩ := List.mem_map.mp h
    obtain ⟨hpool, hexcluded⟩ := List.mem_filter.mp he
    exact ⟨e.2, MethodPool.getElem?_of_mem_ofClass hpool, hexcluded⟩
  · rintro ⟨m, hm, hexcluded⟩
    exact List.mem_map.mpr
      ⟨(place, m), List.mem_filter.mpr ⟨MethodPool.mem_ofClass_of_getElem? hm, hexcluded⟩, rfl⟩
  · obtain ⟨e, he, rfl⟩ := List.mem_map.mp h
    obtain ⟨hpool, hframework⟩ := List.mem_filter.mp he
    have hstart := (model.progress_analyseClass env (start c) c).pool.subset hpool
    exact ⟨e.2, MethodPool.getElem?_of_mem_ofClass ((pool_start c).subset hstart), hframework⟩
  · refine perm_membersOf_associations fun found hfound => ?_
    obtain ⟨m, -, -, -, -, hfeature⟩ := isRead_of_mem_associations model env c hfound
    rw [hfeature, featureOf]
    split
    · exact .inr rfl
    · exact .inl rfl
  · refine perm_membersOf fun found hfound => ?_
    obtain ⟨m, -, -, -, -, hfeature⟩ := isAction_of_mem_actions model env c hfound
    exact hfeature
  · have horphans : ((ofClass model env c).specification c).orphans.map some =
        (ofClass model env c).last.pool.unclaimed.map fun e => some e.2.name := by
      simp [specification, MethodPool.methods]
    have hnames : (books model env c).leftOver.map (fun place => c.methods[place]?.map (·.name)) =
        (ofClass model env c).last.pool.unclaimed.map fun e => c.methods[e.1]?.map (·.name) := by
      simp [books, MethodPool.indices]
    rw [horphans, hnames]
    refine List.map_congr_left fun e he => ?_
    rw [MethodPool.getElem?_of_mem_ofClass (hlast.subset he), Option.map_some]
  · have hdeclared : (MethodPool.ofClass c).indices.Pairwise (· < ·) := by
      rw [MethodPool.indices_ofClass]
      exact List.pairwise_lt_range
    have hleft : (books model env c).leftOver.Sublist (MethodPool.ofClass c).indices :=
      hlast.map Prod.fst
    exact hdeclared.sublist hleft
  · obtain ⟨m, hm, rfl⟩ := List.mem_map.mp hname
    obtain ⟨e, he, rfl⟩ := List.mem_map.mp hm
    exact isReserved_of_mem_last model env c he

end Introspection
end Facetry
