/-
# The title of a class

Three factories give a class its title, and each deals in its own way with the title that is there
already. The factory for values runs first and infers a title. The one for marked members puts its
title in place of any other. The one for methods comes last and attaches a title only where there is
none. So it is not the order in which they run that decides: marked members prevail over the kind of
value, and this prevails over a method. Any of the three can be left out, and then the others keep
their order (`Introspection.get?_title_ofClass`).

The last factory claims a method called `title` even if another title prevails. No other take asks
for the name, since each asks for a name that starts with a reserved word, and no reserved word
starts with its letter. So every other method of the name that takes part becomes an action
(`Introspection.mem_actions_title_iff`).

Key definitions: `Configuration.includes`, `Introspection.Titled`, `Introspection.titlePlace?`,
`Claim.IsSupport`, `Introspection.IsTitle`.
Key theorems: `ProgrammingModel.factories_ofConfiguration`, `Introspection.get?_title_ofClass`,
`Introspection.mem_classClaims_title_iff`, `Introspection.mem_actions_iff_not_claimed`,
`Introspection.mem_actions_title_iff`, `Introspection.title_resolved`.
-/
import Facetry.Proofs.DeclaredFacets
import Facetry.Proofs.SupportNames

namespace Facetry

/-! ### The factories of a configuration -/

/-- Whether the configuration does not leave the factory out. -/
def Configuration.includes (config : Configuration) (f : Factory) : Bool :=
  !config.excludedFactories.contains f.name

namespace ProgrammingModel

theorem factories_foldl_without (names : List String) (m : ProgrammingModel) :
    (names.foldl without m).factories = m.factories.filter fun f => !names.contains f.name := by
  induction names generalizing m with
  | nil => simp
  | cons name names ih =>
    rw [List.foldl_cons, ih, without, Registry.drop, List.filter_filter]
    refine List.filter_congr fun f _ => ?_
    rw [List.contains_cons, Bool.not_or, Bool.and_comm]
    rfl

/-- The standard factories keep their order when some are left out. -/
theorem factories_ofConfiguration (config : Configuration) :
    (ofConfiguration config).factories = Factory.standard.filter config.includes := by
  have hstandard : standard.factories = Factory.standard := by decide +kernel
  rw [ofConfiguration, factories_foldl_without, hstandard]
  rfl

theorem mem_ofConfiguration_iff {config : Configuration} {f : Factory} :
    f ∈ (ofConfiguration config).factories ↔ config.includes f := by
  rw [factories_ofConfiguration, List.mem_filter, and_iff_right f.mem_standard]

theorem nodup_ofConfiguration (config : Configuration) :
    (ofConfiguration config).factories.Nodup := by
  have hstandard : Factory.standard.Nodup := by decide +kernel
  rw [factories_ofConfiguration]
  exact hstandard.filter _

end ProgrammingModel

/-! ### The turns of the factories -/

namespace MethodPool

theorem isSome_peek?_iff {p : MethodPool} {name : String} {accept : Method → Bool} :
    (p.peek? name accept).isSome ↔ ∃ m ∈ p.methods, m.name = name ∧ accept m := by
  rw [peek?, Option.isSome_map, List.find?_isSome, methods]
  simp only [isMatch, Bool.and_eq_true, beq_iff_eq, List.mem_map, exists_exists_and_eq_and]

end MethodPool

namespace Analysis

variable (a : Analysis)

/-- The title made of marked members. -/
def membersTitle? (a : Analysis) : Option Facet :=
  if titleParts a.pool = [] then none
  else some ⟨a.facets.owner, false, .title (.annotated ((titleParts a.pool).map memberName))⟩

/-- A title made of marked members takes the place of any other. -/
theorem get?_title_titleFromMembers :
    a.titleFromMembers.facets.get? .title = a.membersTitle?.or (a.facets.get? .title) := by
  unfold titleFromMembers membersTitle?
  simp only [List.isEmpty_iff]
  split <;> rfl

/-- The title that goes with the kind of value. -/
def valueTitle? (c : Class) (a : Analysis) : Option Facet :=
  (valueKind? c).map fun kind => ⟨a.facets.owner, true, .title (.valueKind kind)⟩

/-- The title that a method gives to a class that has none. -/
def methodTitle? (a : Analysis) : Option Facet :=
  if (a.pool.peek? "title" Method.isGetter).isSome then
    some ⟨a.facets.owner, false, .title (.method "title")⟩
  else if (a.pool.peek? "toString" Method.hasNoParameters).isSome then
    some ⟨a.facets.owner, true, .title .toStringMethod⟩
  else none

/-- A method gives the title where there is none. -/
theorem get?_title_titleFromMethod_eq :
    a.titleFromMethod.facets.get? .title = (a.facets.get? .title).or a.methodTitle? := by
  by_cases htitle : a.facets.contains .title
  · rw [a.get?_title_titleFromMethod htitle]
    exact (Option.or_of_isSome htitle).symm
  · have hnone : a.facets.get? .title = none := by
      simpa [FacetHolder.contains] using htitle
    rw [hnone, Option.none_or, methodTitle?]
    cases hpeek : a.pool.peek? "title" Method.isGetter with
    | some m =>
      have htake : a.take "title" Method.isGetter =
          (some m, (a.take "title" Method.isGetter).2) := by
        rw [← hpeek]
        rfl
      rw [titleFromMethod, htake, ← MethodPool.name_of_peek? hpeek]
      exact congrArg (FacetHolder.get? · _) (if_neg htitle)
    | none =>
      -- nothing is claimed, so the pool is the same when the other method is looked for
      have htake : a.take "title" Method.isGetter = (none, a) := by
        rw [take, a.pool.take_eq_self _ _ hpeek]
      rw [titleFromMethod, htake]
      by_cases htext : (a.pool.peek? "toString" Method.hasNoParameters).isSome
      · rw [if_neg (by simp), if_pos htext]
        simp only [htext, if_true]
        exact congrArg (FacetHolder.get? · _) (if_neg htitle)
      · rw [if_neg (by simp), if_neg htext]
        simp only [htext]
        exact hnone

end Analysis

namespace Introspection

section Turns

variable (config : Configuration) (env : Environment) (c : Class)

/-- The analysis after those of the factories had their turn that the configuration includes. -/
def turns (fs : List Factory) (a : Analysis) : Analysis :=
  (fs.filter config.includes).foldl (fun a f => f.onClass env c a) a

theorem turns_append (fs gs : List Factory) (a : Analysis) :
    turns config env c (fs ++ gs) a = turns config env c gs (turns config env c fs a) := by
  rw [turns, List.filter_append, List.foldl_append]
  rfl

theorem turns_cons (f : Factory) (fs : List Factory) (a : Analysis) :
    turns config env c (f :: fs) a =
      turns config env c fs (if config.includes f then f.onClass env c a else a) := by
  unfold turns
  split
  · rw [List.filter_cons_of_pos ‹_›, List.foldl_cons]
  · rw [List.filter_cons_of_neg ‹_›]

theorem title_turns {fs : List Factory} (h : ∀ f ∈ fs, .title ∉ f.kinds) (a : Analysis) :
    (turns config env c fs a).facets.get? .title = a.facets.get? .title := by
  refine (ProgrammingModel.progress_foldl (fun a f => f.progress_onClass env c a) _ a).facets _ ?_
  rw [List.mem_flatMap]
  rintro ⟨f, hf, hkind⟩
  exact h f (List.mem_filter.mp hf).1 hkind

/-- `b` is still on the element of `a` and has all its methods, and this is its title. -/
structure Titled (a b : Analysis) (title : Option Facet) : Prop where
  owner : b.facets.owner = a.facets.owner
  pool : b.pool = a.pool
  title : b.facets.get? .title = title

namespace Titled

variable {a b b' : Analysis} {title : Option Facet}

/-- Where a factory that may be left out puts a title in place of others, it does so if it is
included. -/
theorem turn (h : Titled a b title) {new : Option Facet} (h' : Titled a b' (new.or title))
    (f : Factory) :
    Titled a (if config.includes f then b' else b)
      ((if config.includes f then new else none).or title) := by
  split
  · exact h'
  · exact h

/-- Factories that attach no title and claim no method leave all as it is. -/
theorem turns (h : Titled a b title) {fs : List Factory}
    (hquiet : ∀ f ∈ fs, .title ∉ f.kinds ∧ f.takesOnClass = []) :
    Titled a (turns config env c fs b) title := by
  induction fs generalizing b with
  | nil => exact h
  | cons f fs ih =>
    obtain ⟨⟨hkinds, htakes⟩, hfs⟩ := List.forall_mem_cons.mp hquiet
    have hprogress := f.progress_onClass env c b
    have hpool : (f.onClass env c b).pool = b.pool := by
      rw [f.pool_onClass, htakes]
      rfl
    rw [turns_cons]
    refine ih ?_ hfs
    split
    · exact ⟨hprogress.owner.trans h.owner, hpool.trans h.pool,
        (hprogress.facets _ hkinds).trans h.title⟩
    · exact h

theorem valueClass (h : Titled a b title) :
    Titled a (b.valueClass c) ((a.valueTitle? c).or title) where
  owner := (Analysis.progress_valueClass c b).owner.trans h.owner
  pool := (b.pool_valueClass c).trans h.pool
  title := by rw [b.get?_title_valueClass c, h.title, h.owner, Analysis.valueTitle?]

theorem titleFromMembers (h : Titled a b title) :
    Titled a b.titleFromMembers (a.membersTitle?.or title) where
  owner := b.progress_titleFromMembers.owner.trans h.owner
  pool := b.pool_titleFromMembers.trans h.pool
  title := by
    rw [b.get?_title_titleFromMembers, h.title, Analysis.membersTitle?, h.owner, h.pool,
      Analysis.membersTitle?]

theorem titleFromMethod (h : Titled a b title) :
    b.titleFromMethod.facets.get? .title = title.or a.methodTitle? := by
  rw [b.get?_title_titleFromMethod_eq, h.title, Analysis.methodTitle?, h.owner, h.pool,
    Analysis.methodTitle?]

end Titled

/-- The factories that run before the one for values. -/
def beforeValue : List Factory := [.named, .describedAs, .plural, .objectSpecId]

/-- The factories that run between the one for values and those for titles. -/
def betweenTitles : List Factory := [.collectionType, .immutable, .notPersistable]

/-- The factories for classes that run after those for titles. -/
def afterTitles : List Factory := [.iconName, .grid, Factory.hiddenAnnotation]

theorem analyseClass_ofConfiguration (a : Analysis) :
    (ProgrammingModel.ofConfiguration config).analyseClass env c a =
      turns config env c
        (beforeValue ++ .value :: (betweenTitles ++ Factory.titleAnnotation :: .titleMethod ::
          afterTitles)) a := by
  have hclass : Factory.standard.filter (·.appliesTo .object) =
      beforeValue ++ .value :: (betweenTitles ++ Factory.titleAnnotation :: .titleMethod ::
        afterTitles) := by decide +kernel
  rw [ProgrammingModel.analyseClass, ProgrammingModel.factoriesFor,
    ProgrammingModel.factories_ofConfiguration, List.filter_comm, hclass, turns]

/-- **The title of a class is the first that there is** of the one made of its members, the one that
goes with its kind of value, and the one that a method gives, as far as their factories are
included. -/
theorem get?_title_ofClass :
    (ofClass (.ofConfiguration config) env c).classFacets.get? .title =
      (if config.includes Factory.titleAnnotation then (start c).membersTitle? else none).or
        ((if config.includes .value then (start c).valueTitle? c else none).or
          (if config.includes .titleMethod then (start c).methodTitle? else none)) := by
  -- the title after each turn, up to that of the factory for methods, which also changes the pool
  have hstart : Titled (start c) (start c) none := ⟨rfl, rfl, rfl⟩
  have hbefore := hstart.turns config env c (show ∀ f ∈ beforeValue, _ from by decide)
  have hvalue := hbefore.turn config (hbefore.valueClass c) .value
  have hbetween := hvalue.turns config env c (show ∀ f ∈ betweenTitles, _ from by decide)
  have hmembers := hbetween.turn config hbetween.titleFromMembers Factory.titleAnnotation
  rw [Option.or_none] at hmembers
  show ((ProgrammingModel.ofConfiguration config).analyseClass env c (start c)).facets.get? .title =
    _
  rw [analyseClass_ofConfiguration, turns_append, turns_cons, turns_append, turns_cons, turns_cons,
    title_turns config env c (show ∀ f ∈ afterTitles, _ from by decide)]
  split
  · rw [← Option.or_assoc]
    exact hmembers.titleFromMethod
  · rw [Option.or_none]
    exact hmembers.title

end Turns

/-! ### The methods that take part -/

/-- The methods of a class that take part in its introspection. -/
def eligible (c : Class) : List Method := c.methods.filter (!isExcluded ·)

/-- Whether the method takes part, is called `title`, and returns something for nothing. -/
def makesTitle (m : Method) : Bool := !isExcluded m && m.name == "title" && m.isGetter

/-- The place of the first method that can make the title. -/
def titlePlace? (c : Class) : Option Nat := c.methods.findIdx? makesTitle

/-- The take for a method that makes the title. -/
def titleTake : Take := ⟨"title", Method.isGetter⟩

theorem methods_start (c : Class) : (start c).pool.methods = eligible c := by
  rw [eligible, ← MethodPool.methods_ofClass c]
  show _ = ((MethodPool.ofClass c).unclaimed.map (·.2)).filter (!isExcluded ·)
  rw [List.filter_map]
  rfl

/-- Before the first factory, the take finds the method at its place. -/
theorem found?_start (c : Class) :
    ((start c).pool.found? titleTake).map (·.1) = titlePlace? c := by
  have hfound : (start c).pool.found? titleTake =
      (MethodPool.ofClass c).unclaimed.find? fun e => makesTitle e.2 := by
    refine List.find?_filter.trans (congrArg (List.find? · _) (funext fun e => ?_))
    rw [Bool.eq_iff_iff]
    simp [MethodPool.isMatch, makesTitle, titleTake, and_assoc]
  rw [hfound, titlePlace?, List.findIdx?_eq_fst_find?_zipIdx, MethodPool.ofClass,
    List.mapIdx_eq_zipIdx_map, List.find?_map, Option.map_map]
  rfl

end Introspection

/-! ### Claims of support -/

theorem MethodPool.take_of_mem_claims {f : Factory} {ts : List Take} {p : MethodPool}
    {claim : Claim} (h : claim ∈ claims f ts p) : claim.take ∈ ts := by
  induction ts generalizing p with
  | nil => cases h
  | cons t ts ih =>
    rcases List.mem_append.mp h with h | h
    · obtain ⟨e, -, rfl⟩ := Option.map_eq_some_iff.mp (Option.mem_toList.mp h)
      exact List.mem_cons_self
    · exact List.mem_cons_of_mem t (ih h)

/-- A factory takes for a parameter what starts with a word that it reserves. -/
theorem Factory.exists_word_of_mem_takesOnParameter {f : Factory} {p : ParameterContext} :
    ∀ t ∈ f.takesOnParameter p, ∃ word ∈ f.words, t.name = p.supporting word := by
  cases f <;> simp [takesOnParameter, words]

namespace Claim

/-- The claim is of a method whose name starts with a word that the factory reserves. -/
def IsSupport (claim : Claim) : Prop :=
  ∃ word ∈ claim.factory.words, ∃ rest, claim.take.name = word ++ rest

variable {step : Analysis → Factory → Analysis} {takes : Analysis → Factory → List Take}

theorem ledger_append (fs gs : List Factory) (a : Analysis) :
    ledger step takes (fs ++ gs) a =
      ledger step takes fs a ++ ledger step takes gs (fs.foldl step a) := by
  induction fs generalizing a with
  | nil => rfl
  | cons f fs ih => rw [List.cons_append, ledger, ledger, ih, List.append_assoc, List.foldl_cons]

/-- Every claim was made by one of the takes of its factory. -/
theorem take_of_mem_ledger {fs : List Factory} {a : Analysis} {claim : Claim}
    (h : claim ∈ ledger step takes fs a) :
    claim.factory ∈ fs ∧ ∃ b, claim.take ∈ takes b claim.factory := by
  induction fs generalizing a with
  | nil => cases h
  | cons f fs ih =>
    rcases List.mem_append.mp h with h | h
    · obtain ⟨rfl, -⟩ := MethodPool.exists_of_mem_claims h
      exact ⟨List.mem_cons_self, a, MethodPool.take_of_mem_claims h⟩
    · obtain ⟨hf, htake⟩ := ih h
      exact ⟨List.mem_cons_of_mem f hf, htake⟩

end Claim

namespace Introspection

variable {model : ProgrammingModel} {env : Environment} {c : Class} {classFacets : FacetHolder}
  {claim : Claim} {a : Analysis}

theorem isSupport_of_mem_parameterClaimsFrom {m : MemberContext} {index : Nat} {ps : List Parameter}
    (h : claim ∈ parameterClaimsFrom model env m index ps a) : claim.IsSupport := by
  induction ps generalizing index a with
  | nil => cases h
  | cons p ps ih =>
    rcases List.mem_append.mp h with h | h
    · obtain ⟨-, _, htake⟩ := Claim.take_of_mem_ledger h
      obtain ⟨word, hword, hname⟩ := Factory.exists_word_of_mem_takesOnParameter _ htake
      exact ⟨word, hword, _, hname.trans (String.append_assoc ..)⟩
    · exact ih h

/-- **What is claimed for a member supports it**, and so it is called. -/
theorem isSupport_of_mem_memberClaims {m : MemberContext}
    (h : claim ∈ memberClaims model env m a) : claim.IsSupport := by
  rcases List.mem_append.mp h with h | h
  · obtain ⟨-, _, htake⟩ := Claim.take_of_mem_ledger h
    obtain ⟨word, hword, hname⟩ := Factory.exists_word_of_mem_takesOnMember _ htake
    exact ⟨word, hword, _, hname⟩
  · exact isSupport_of_mem_parameterClaimsFrom h

theorem isSupport_of_mem_associationClaims {entries : List (Nat × Method)}
    (h : claim ∈ associationClaims model env c classFacets entries a) : claim.IsSupport := by
  induction entries generalizing a with
  | nil => cases h
  | cons e entries ih =>
    unfold associationClaims at h
    split at h
    · exact ih h
    · rcases List.mem_append.mp h with h | h
      · exact isSupport_of_mem_memberClaims h
      · exact ih h

theorem isSupport_of_mem_actionClaims {entries : List (Nat × Method)}
    (h : claim ∈ actionClaims model env c classFacets entries a) : claim.IsSupport := by
  induction entries generalizing a with
  | nil => cases h
  | cons e entries ih =>
    unfold actionClaims at h
    split at h
    · rcases List.mem_append.mp h with h | h
      · exact isSupport_of_mem_memberClaims h
      · exact ih h
    · exact ih h

/-- What the books say of claims: each is made for the class or of support for a member. -/
theorem mem_classClaims_or_isSupport (h : claim ∈ (books model env c).claims) :
    claim ∈ model.classClaims env c (start c) ∨ claim.IsSupport := by
  rcases List.mem_append.mp h with h | h
  · exact (List.mem_append.mp h).imp_right isSupport_of_mem_associationClaims
  · exact .inr (isSupport_of_mem_actionClaims h)

end Introspection

/-! ### Methods called `title` -/

namespace Factory

/-- No factory reserves a word that starts like `title`. -/
theorem apart_title {f : Factory} : ∀ word ∈ f.words, Naming.Apart word "title" := by
  cases f <;> decide

/-- Of the factories that look at classes, only the one for methods asks for `title`. -/
theorem eq_titleMethod_of_mem_takesOnClass {f : Factory} {t : Take} (ht : t ∈ f.takesOnClass)
    (hname : t.name = "title") : f = .titleMethod := by
  cases f <;> simp_all [takesOnClass]

end Factory

theorem Claim.not_isSupport_title {claim : Claim} (h : claim.take.name = "title") :
    ¬ claim.IsSupport := by
  rintro ⟨word, hword, rest, hname⟩
  obtain ⟨hword, htitle⟩ := Factory.apart_title word hword
  exact Naming.Apart.ne ⟨htitle, hword⟩ rest (h.symm.trans hname)

theorem ProgrammingModel.isReserved_title (model : ProgrammingModel) :
    model.isReserved "title" = false := by
  refine List.any_eq_false.mpr fun f _ => ?_
  rw [Bool.not_eq_true, List.any_eq_false]
  intro word hword
  rw [Bool.not_eq_true]
  exact (Factory.apart_title word hword).startsWith_eq_false ""

namespace Introspection

variable {model : ProgrammingModel} {env : Environment} {c : Class} {m : Method} {place : Nat}

theorem isAccessor_title (h : m.name = "title") : isAccessor m = false :=
  isAccessor_eq_false (by decide) (h.trans (String.append_empty).symm)

theorem isFrameworkMethod_title (h : m.name = "title") : isFrameworkMethod m = false := by
  rw [isFrameworkMethod, h]
  decide

/-- A claim that the factory of another name makes is of a method of another name. -/
theorem name_ne_title_of_mem_ledger {fs : List Factory} (h : .titleMethod ∉ fs) {a : Analysis}
    {step : Analysis → Factory → Analysis} {claim : Claim}
    (hclaim : claim ∈ Claim.ledger step (fun _ f => f.takesOnClass) fs a) :
    claim.take.name ≠ "title" := by
  intro hname
  obtain ⟨hf, _, htake⟩ := Claim.take_of_mem_ledger hclaim
  rw [Factory.eq_titleMethod_of_mem_takesOnClass htake hname] at hf
  exact h hf

/-- What the factory for methods claims in its turn is what its take finds before the first factory
has had one. -/
theorem exists_classClaims_eq (env : Environment) (c : Class) (hnodup : model.factories.Nodup)
    (hmem : .titleMethod ∈ model.factories) :
    ∃ before after, model.classClaims env c (start c) =
        before ++ (((start c).pool.found? titleTake).map fun e =>
          ⟨.titleMethod, titleTake, e.1⟩).toList ++ after ∧
      ∀ claim ∈ before ++ after, claim.take.name ≠ "title" := by
  let ledger := Claim.ledger (fun a f => f.onClass env c a) fun _ f => f.takesOnClass
  have hclass : Factory.titleMethod.appliesTo .object := by decide
  obtain ⟨before, after, hsplit, hbefore, hafter⟩ := exists_only_turn hnodup hmem hclass
  let first := before.foldl (fun a f => f.onClass env c a) (start c)
  -- no factory before it asks for the name, so the first method is still there
  have hfound : first.pool.found? titleTake = (start c).pool.found? titleTake := by
    have hmatching := matching_foldl (t := titleTake) (fun a f => f.pool_onClass env c a)
      (fun f hf _ t ht hname =>
        hbefore (Factory.eq_titleMethod_of_mem_takesOnClass ht hname ▸ hf)) (start c)
    have hhead := congrArg List.head? hmatching
    rwa [MethodPool.matching, MethodPool.matching, List.head?_filter, List.head?_filter] at hhead
  refine ⟨ledger before (start c), ledger after (Factory.titleMethod.onClass env c first), ?_,
    List.forall_mem_append.mpr ⟨fun _ => name_ne_title_of_mem_ledger hbefore,
      fun _ => name_ne_title_of_mem_ledger hafter⟩⟩
  rw [ProgrammingModel.classClaims, hsplit, Claim.ledger_append, ← hfound]
  simp [ledger, Claim.ledger, MethodPool.claims, Factory.takesOnClass, titleTake, first]

/-- **The factory for methods claims the first method that can make the title**, and it is the only
one to claim one of its name for the class. -/
theorem mem_classClaims_title_iff (env : Environment) (hnodup : model.factories.Nodup) :
    (∃ claim ∈ model.classClaims env c (start c), claim.take.name = "title" ∧ claim.place = place) ↔
      .titleMethod ∈ model.factories ∧ titlePlace? c = some place := by
  by_cases hmem : .titleMethod ∈ model.factories
  · rw [and_iff_right hmem, ← found?_start]
    obtain ⟨before, after, hclaims, hothers⟩ := exists_classClaims_eq env c hnodup hmem
    rw [hclaims]
    constructor
    · rintro ⟨claim, hclaim, hname, rfl⟩
      rw [List.append_assoc, List.mem_append, List.mem_append] at hclaim
      rcases hclaim with h | h | h
      · exact absurd hname (hothers claim (List.mem_append_left _ h))
      · obtain ⟨e, he, rfl⟩ := Option.map_eq_some_iff.mp (Option.mem_toList.mp h)
        rw [he]
        rfl
      · exact absurd hname (hothers claim (List.mem_append_right _ h))
    · intro h
      obtain ⟨e, he, rfl⟩ := Option.map_eq_some_iff.mp h
      exact ⟨⟨.titleMethod, titleTake, e.1⟩, by simp [he], rfl, rfl⟩
  · refine iff_of_false ?_ fun h => hmem h.1
    rintro ⟨claim, hclaim, hname, -⟩
    exact name_ne_title_of_mem_ledger (fun h => hmem (List.mem_filter.mp h).1) hclaim hname

/-- The claims in the books that are of a method called `title` are those for the class. -/
theorem mem_places_claims_title_iff (env : Environment) (hnodup : model.factories.Nodup)
    (hm : c.methods[place]? = some m) (hname : m.name = "title") :
    place ∈ (books model env c).claims.map (·.place) ↔
      .titleMethod ∈ model.factories ∧ titlePlace? c = some place := by
  rw [← mem_classClaims_title_iff env hnodup]
  constructor
  · intro h
    obtain ⟨claim, hclaim, rfl⟩ := List.mem_map.mp h
    obtain ⟨-, m', hm', htake, -⟩ := exists_of_mem_claims model env c hclaim
    obtain rfl : m = m' := Option.some.inj (hm.symm.trans hm')
    have htitle : claim.take.name = "title" := htake.symm.trans hname
    exact ⟨claim, (mem_classClaims_or_isSupport hclaim).resolve_right
      (Claim.not_isSupport_title htitle), htitle, rfl⟩
  · rintro ⟨claim, hclaim, -, rfl⟩
    exact List.mem_map_of_mem (List.mem_append_left _ (List.mem_append_left _ hclaim))

/-- An entry at the place of a method is the one of the method. -/
theorem mem_of_place_mem {entries : List (Nat × Method)}
    (hsub : entries.Sublist (MethodPool.ofClass c).unclaimed) (hm : c.methods[place]? = some m)
    (h : place ∈ entries.map (·.1)) : (place, m) ∈ entries := by
  obtain ⟨e, he, rfl⟩ := List.mem_map.mp h
  rwa [eq_of_mem_ofClass (MethodPool.mem_ofClass_of_getElem? hm) (hsub.subset he) rfl]

/-- A method that fails a test is not among the entries that pass it. -/
theorem not_mem_places_filter {entries : List (Nat × Method)} {test : Method → Bool}
    (hsub : entries.Sublist (MethodPool.ofClass c).unclaimed) (hm : c.methods[place]? = some m)
    (htest : test m = false) : place ∉ (entries.filter fun e => test e.2).map (·.1) := by
  intro h
  have hmem := mem_of_place_mem (List.filter_sublist.trans hsub) hm h
  rw [List.mem_filter, htest] at hmem
  cases hmem.2

/-- **A method that takes part is an action or claimed, and not both**, if it is none that every
object has, no accessor, and its name is not reserved. The books have no other place for it. -/
theorem mem_actions_iff_not_claimed (env : Environment) (hm : c.methods[place]? = some m)
    (hexcluded : isExcluded m = false) (hframework : isFrameworkMethod m = false)
    (haccessor : isAccessor m = false) (hfree : model.isReserved m.name = false) :
    place ∈ (ofClass model env c).actions.map (·.1) ↔
      place ∉ (books model env c).claims.map (·.place) := by
  have hnotExcluded : place ∉ (books model env c).excluded :=
    not_mem_places_filter (List.Sublist.refl _) hm hexcluded
  have hnotFramework : place ∉ (books model env c).framework :=
    not_mem_places_filter
      ((model.progress_analyseClass env (start c) c).pool.trans (pool_start c)) hm hframework
  have hnotAccessor : place ∉ (books model env c).accessors :=
    not_mem_places_filter (pool_analyseClass model env c) hm haccessor
  have hnotLeft : place ∉ (books model env c).leftOver := by
    intro h
    have hreserved :=
      isReserved_of_mem_last model env c (mem_of_place_mem (pool_last model env c) hm h)
    exact absurd hreserved (by simp [hfree])
  have hplaces := perm_places_books model env c
  have hall : place ∈ (books model env c).places :=
    hplaces.mem_iff.mpr (List.mem_range.mpr (List.getElem?_eq_some_iff.mp hm).1)
  have honce : (books model env c).places.Nodup := hplaces.nodup_iff.mpr List.nodup_range
  simp only [Books.places, List.mem_append, hnotExcluded, hnotFramework, hnotAccessor, hnotLeft,
    false_or, or_false] at hall
  refine ⟨fun haction hclaim => ?_, hall.resolve_right⟩
  have hparts := (List.nodup_append.mp (List.nodup_append.mp honce).1).2.2
  exact hparts place (List.mem_append_right _ haction) place hclaim rfl

/-- **A method called `title` that takes part is an action unless the factory for methods claims
it.** -/
theorem mem_actions_title_iff (env : Environment) (hnodup : model.factories.Nodup)
    (hm : c.methods[place]? = some m) (hname : m.name = "title")
    (hexcluded : isExcluded m = false) :
    place ∈ (ofClass model env c).actions.map (·.1) ↔
      ¬ (.titleMethod ∈ model.factories ∧ titlePlace? c = some place) := by
  rw [← mem_places_claims_title_iff env hnodup hm hname]
  exact mem_actions_iff_not_claimed env hm hexcluded (isFrameworkMethod_title hname)
    (isAccessor_title hname) (hname ▸ model.isReserved_title)

/-! ### Which title prevails -/

open Analysis (isTitlePart memberName titleParts valueKind?)

theorem perm_titleParts (p : MethodPool) : (titleParts p).Perm (p.methods.filter isTitlePart) :=
  List.mergeSort_perm _ _

theorem titleParts_eq_nil_iff (c : Class) :
    titleParts (start c).pool = [] ↔ ¬ ∃ m ∈ eligible c, isTitlePart m := by
  have hperm := perm_titleParts (start c).pool
  rw [methods_start] at hperm
  rw [← List.length_eq_zero_iff, hperm.length_eq, List.length_eq_zero_iff, List.filter_eq_nil_iff]
  push Not
  rfl

theorem membersTitle?_start_eq_none {c : Class} (h : ¬ ∃ m ∈ eligible c, isTitlePart m) :
    (start c).membersTitle? = none :=
  if_pos ((titleParts_eq_nil_iff c).mpr h)

theorem methodTitle?_start (c : Class) :
    (start c).methodTitle? =
      if ∃ m ∈ eligible c, m.name = "title" ∧ m.isGetter then
        some ⟨.ofClass c.name, false, .title (.method "title")⟩
      else if ∃ m ∈ eligible c, m.name = "toString" ∧ m.hasNoParameters then
        some ⟨.ofClass c.name, true, .title .toStringMethod⟩
      else none := by
  simp only [Analysis.methodTitle?, MethodPool.isSome_peek?_iff, methods_start]
  rfl

/-- Whether this is the title that a class has under a configuration. The first that applies of four
prevails: one made of all members marked for it, one that goes with the kind of value, one that a
method called `title` gives, and the general text. Each needs its factory, and the second and the
last are inferred. -/
def IsTitle (config : Configuration) (c : Class) (title : Option Facet) : Prop :=
  if config.includes Factory.titleAnnotation ∧ ∃ m ∈ eligible c, isTitlePart m then
    ∃ ids, ids.Perm (((eligible c).filter isTitlePart).map memberName) ∧
      title = some ⟨.ofClass c.name, false, .title (.annotated ids)⟩
  else if config.includes .value ∧ (valueKind? c).isSome then
    ∃ kind, valueKind? c = some kind ∧
      title = some ⟨.ofClass c.name, true, .title (.valueKind kind)⟩
  else if config.includes .titleMethod ∧ ∃ m ∈ eligible c, m.name = "title" ∧ m.isGetter then
    title = some ⟨.ofClass c.name, false, .title (.method "title")⟩
  else if config.includes .titleMethod ∧
      ∃ m ∈ eligible c, m.name = "toString" ∧ m.hasNoParameters then
    title = some ⟨.ofClass c.name, true, .title .toStringMethod⟩
  else title = none

theorem isTitle_ofClass (config : Configuration) (env : Environment) (c : Class) :
    IsTitle config c ((ofClass (.ofConfiguration config) env c).classFacets.get? .title) := by
  rw [IsTitle, get?_title_ofClass]
  by_cases hmembers : config.includes Factory.titleAnnotation ∧ ∃ m ∈ eligible c, isTitlePart m
  · rw [if_pos hmembers, if_pos hmembers.1, Analysis.membersTitle?,
      if_neg (by rw [titleParts_eq_nil_iff, not_not]; exact hmembers.2)]
    have hperm := (perm_titleParts (start c).pool).map memberName
    rw [methods_start] at hperm
    exact ⟨_, hperm, rfl⟩
  · have hnomembers : (if config.includes Factory.titleAnnotation then (start c).membersTitle?
        else none) = none :=
      ite_eq_right_iff.mpr fun hincludes =>
        membersTitle?_start_eq_none fun hparts => hmembers ⟨hincludes, hparts⟩
    rw [if_neg hmembers, hnomembers, Option.none_or]
    by_cases hvalue : config.includes .value ∧ (valueKind? c).isSome
    · obtain ⟨kind, hkind⟩ := Option.isSome_iff_exists.mp hvalue.2
      rw [if_pos hvalue, if_pos hvalue.1, Analysis.valueTitle?, hkind]
      exact ⟨kind, rfl, rfl⟩
    · have hnovalue : (if config.includes .value then (start c).valueTitle? c else none) = none :=
        ite_eq_right_iff.mpr fun hincludes => Option.map_eq_none_iff.mpr <|
          Option.not_isSome_iff_eq_none.mp fun hkind => hvalue ⟨hincludes, hkind⟩
      rw [if_neg hvalue, hnovalue, Option.none_or, methodTitle?_start]
      by_cases hincludes : config.includes .titleMethod
      · simp only [hincludes, true_and, if_true]
        split
        · rfl
        · split <;> rfl
      · simp [hincludes]

/-- **How the title of a class is resolved.** Under any configuration the class has the title that
prevails. Wherever the factory for methods is included, it claims the first method that can make the
title, whichever title prevails, and the method is no action. Every other method called `title` that
takes part is one. -/
theorem title_resolved (config : Configuration) (services : Services) (r : Repository)
    (c : Class) :
    let model := ProgrammingModel.ofConfiguration config
    let env := Environment.ofRepository config services r
    let found := ofClass model env c
    let s := found.specification c
    IsTitle config c (s.facets.get? .title) ∧
    (config.includes .titleMethod → ∀ place, titlePlace? c = some place →
      (∃ claim ∈ (books model env c).claims, claim.factory = .titleMethod ∧ claim.place = place) ∧
        ∀ x, (place, x) ∉ found.actions) ∧
    (∀ place m, c.methods[place]? = some m → m.name = "title" → ¬ isExcluded m →
      ¬ (config.includes .titleMethod ∧ titlePlace? c = some place) →
        ∃ x, (place, x) ∈ found.actions ∧ IsAction m x) ∧
    s.actions.Perm (found.actions.map (·.2)) := by
  intro model env found s
  have hnodup : model.factories.Nodup := ProgrammingModel.nodup_ofConfiguration config
  refine ⟨isTitle_ofClass config env c, fun hincludes place hplace => ⟨?_, fun x hx => ?_⟩,
    fun place m hm hname hpart hother => ?_, ?_⟩
  · have hmem : .titleMethod ∈ model.factories :=
      ProgrammingModel.mem_ofConfiguration_iff.mpr hincludes
    obtain ⟨claim, hclaim, hname, heq⟩ :=
      (mem_classClaims_title_iff env hnodup).mpr ⟨hmem, hplace⟩
    obtain ⟨-, _, htake⟩ := Claim.take_of_mem_ledger hclaim
    exact ⟨claim, List.mem_append_left _ (List.mem_append_left _ hclaim),
      Factory.eq_titleMethod_of_mem_takesOnClass htake hname, heq⟩
  · obtain ⟨hlt, hmakes, -⟩ := List.findIdx?_eq_some_iff_getElem.mp hplace
    simp only [makesTitle, Bool.and_eq_true, Bool.not_eq_true', beq_iff_eq] at hmakes
    obtain ⟨⟨hpart, hname⟩, -⟩ := hmakes
    have haction := (mem_actions_title_iff env hnodup (List.getElem?_eq_getElem hlt) hname
      hpart).mp (List.mem_map_of_mem hx)
    exact haction ⟨ProgrammingModel.mem_ofConfiguration_iff.mpr hincludes, hplace⟩
  · rw [← ProgrammingModel.mem_ofConfiguration_iff] at hother
    have hplace :=
      (mem_actions_title_iff env hnodup hm hname (Bool.eq_false_iff.mpr hpart)).mpr hother
    obtain ⟨⟨_, x⟩, hx, rfl⟩ := List.mem_map.mp hplace
    obtain ⟨m', hm', -, haction⟩ := isAction_of_mem_actions model env c hx
    obtain rfl : m = m' := Option.some.inj (hm.symm.trans hm')
    exact ⟨x, hx, haction⟩
  · refine perm_membersOf fun x hx => ?_
    obtain ⟨_, -, -, -, -, hfeature⟩ := isAction_of_mem_actions model env c hx
    exact hfeature

/-- A class of values with two methods called `title`, of which one returns nothing. -/
def label : Class := { price with methods := note.methods ++ [Method.named "title"] }

/-- The kind of value prevails over the first method, which is claimed all the same, and the second
is an action. -/
theorem title_resolved_label :
    let found := ofClass (.ofConfiguration .empty) (.ofRepository .empty {} .initial) label
    (found.specification label).facets.get? .title =
        some ⟨.ofClass "shop.Price", true, .title (.valueKind .long)⟩ ∧
      (∀ x, (0, x) ∉ found.actions) ∧
      ∃ x, (1, x) ∈ found.actions ∧ IsAction (Method.named "title") x := by
  obtain ⟨htitle, hclaimed, hactions, -⟩ := title_resolved .empty {} .initial label
  have hkind : valueKind? label = some .long := by decide +kernel
  rw [IsTitle, if_neg (by decide +kernel), if_pos (by decide +kernel)] at htitle
  obtain ⟨kind, heq, htitle⟩ := htitle
  obtain rfl : kind = .long := Option.some.inj (heq.symm.trans hkind)
  exact ⟨htitle, (hclaimed (by decide +kernel) 0 (by decide +kernel)).2,
    hactions 1 (Method.named "title") rfl rfl (by decide +kernel) (by decide +kernel)⟩

end Introspection
end Facetry
