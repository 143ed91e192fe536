/-
# Annotations of one member leave the others alone

A member is described anew when the annotations of its method are changed, on the method itself or
on its parameters. The other members are not: each has the same facets and parameters as before, no
member comes or goes, and what is wrong with the others is recorded as before. So a malformed
annotation does no harm but to the member that it is on.

This takes some care, as members share a pool of methods. The declared type of its elements decides
which methods a collection claims, and with other annotations it leaves there what it took before.
The two runs are therefore followed side by side, and their pools are alike all the time: they
differ in contested methods only. Those have reserved names, so that none of them becomes an action,
and the capitalized name of what the changed method reads, which no other member has, so that no
other member asks for them.

Key definitions: `Reannotation.DifferAt`, `Reannotation.HasDistinctIds`, `Reannotation.Changes`.
Key theorems: `Reannotation.alike_associationsOf`, `Reannotation.alike_actionsOf`,
`Reannotation.Changes.differ`, `Introspection.others_undisturbed`.
-/
import Facetry.Proofs.MemberIsolation

namespace Facetry

/-- If the names of methods differ, the place of a method is known by its name. -/
theorem Class.place_eq {c : Class} {i place : Nat} {m k : Method}
    (hnames : (c.methods.map (·.name)).Nodup) (hk : c.methods[place]? = some k)
    (hm : c.methods[i]? = some m) (hname : k.name = m.name) : place = i := by
  obtain ⟨hlt, -⟩ := List.getElem?_eq_some_iff.mp hk
  refine (List.getElem?_inj (by simpa using hlt) hnames).mp ?_
  rw [List.getElem?_map, List.getElem?_map, hk, hm, Option.map_some, Option.map_some, hname]

namespace Reannotation

open Introspection

variable {ch : Reannotation} {model : ProgrammingModel} {env : Environment} {c : Class}
  {F : FacetHolder} {a a' : Analysis}

/-! ### The course of the introspection -/

/-- The runs find the same but for one entry, of the same place, id and kind. -/
def DifferAt (i : Nat) (found found' : List (Nat × Member)) : Prop :=
  ∃ before x x' after, found = before ++ (i, x) :: after ∧ found' = before ++ (i, x') :: after ∧
    x'.id = x.id ∧ x'.feature = x.feature

/-- Whether what is found has other names than what is read. -/
def AreOthers (ch : Reannotation) (found : List (Nat × Member)) : Prop :=
  ∀ e ∈ found, ∀ X ∈ ch.reads?, Naming.capitalize e.2.id ≠ X

/-- Whether the capitalized ids of what is found are different. -/
def HasDistinctIds (found : List (Nat × Member)) : Prop :=
  (found.map fun e => Naming.capitalize e.2.id).Nodup

theorem HasDistinctIds.apart {found others : List (Nat × Member)}
    (h : HasDistinctIds (found ++ others)) :
    ∀ e ∈ found, ∀ o ∈ others, Naming.capitalize e.2.id ≠ Naming.capitalize o.2.id := by
  rw [HasDistinctIds, List.map_append, List.nodup_append] at h
  exact fun e he o ho =>
    h.2.2 _ (List.mem_map.mpr ⟨e, he, rfl⟩) _ (List.mem_map.mpr ⟨o, ho, rfl⟩)

theorem HasDistinctIds.of_append_left {found others : List (Nat × Member)}
    (h : HasDistinctIds (found ++ others)) : HasDistinctIds found := by
  rw [HasDistinctIds, List.map_append, List.nodup_append] at h
  exact h.1

theorem HasDistinctIds.around {before after : List (Nat × Member)} {one : Nat × Member}
    (h : HasDistinctIds (before ++ one :: after)) :
    ∀ e ∈ before ++ after, Naming.capitalize e.2.id ≠ Naming.capitalize one.2.id := by
  intro e he heq
  have hone := (List.perm_middle.map fun e : Nat × Member =>
    Naming.capitalize e.2.id).nodup_iff.mp h
  exact (List.nodup_cons.mp hone).1 (List.mem_map.mpr ⟨e, he, heq⟩)

/-- **Other associations are the same after the change.** -/
theorem alike_associationsOf {entries : List (Nat × Method)} (h : ch.Alike a.pool a'.pool)
    (hothers : ch.AreOthers (associationsOf model env c F entries a).1) :
    (associationsOf model env c F entries a').1 = (associationsOf model env c F entries a).1 ∧
      ch.Alike (associationsOf model env c F entries a).2.pool
        (associationsOf model env c F entries a').2.pool := by
  induction entries generalizing a a' with
  | nil => exact ⟨rfl, h⟩
  | cons e entries ih =>
    obtain ⟨index, accessor⟩ := e
    cases hid : Naming.propertyOf? accessor.name with
    | none =>
      simp only [associationsOf, hid] at hothers ⊢
      exact ih h hothers
    | some id =>
      simp only [associationsOf, hid, AreOthers, List.forall_mem_cons] at hothers ⊢
      have hother : ch.IsOther ⟨c, F, accessor, id, featureOf env accessor⟩ :=
        ⟨hothers.1, fun _ => hid⟩
      obtain ⟨hfound, hpool⟩ := alike_member model env hother h
      obtain ⟨hrest, hlast⟩ := ih hpool hothers.2
      exact ⟨by rw [hfound, hrest], hlast⟩

/-- The pool is one of the class. -/
def IsOf (c : Class) (p : MethodPool) : Prop := p.unclaimed.Sublist (MethodPool.ofClass c).unclaimed

theorem mem_indices_uncontested {p : MethodPool} (hp : IsOf c p) {place : Nat} {k : Method}
    (hk : (place, k) ∈ (MethodPool.ofClass c).unclaimed) (hname : k.name ∉ ch.contested) :
    place ∈ (ch.uncontested p).indices ↔ place ∈ p.indices := by
  constructor
  · exact fun hmem => (List.filter_sublist.map _).subset hmem
  · intro hmem
    obtain ⟨e, he, hplace⟩ := List.mem_map.mp hmem
    obtain rfl : e = (place, k) := eq_of_mem_ofClass (hp.subset he) hk hplace
    exact List.mem_map_of_mem (List.mem_filter.mpr ⟨he, by simpa using hname⟩)

/-- A method that is not contested is in both pools or in neither. -/
theorem contains_of_alike {p p' : MethodPool} (h : ch.Alike p p') (hp : IsOf c p)
    (hp' : IsOf (ch.onClass c) p') {place : Nat} {k : Method}
    (hk : (place, k) ∈ (MethodPool.ofClass c).unclaimed) (hname : k.name ∉ ch.contested) :
    p'.contains place = p.contains place := by
  have hk' : (place, ch.swap k) ∈ (MethodPool.ofClass (ch.onClass c)).unclaimed := by
    rw [ofClass_onClass]
    exact List.mem_map.mpr ⟨_, hk, rfl⟩
  have hplace := mem_indices_uncontested hp' hk' ((ch.name_swap k).symm ▸ hname)
  rw [show ch.uncontested p' = _ from h, indices_exchange, mem_indices_uncontested hp hk hname]
    at hplace
  rw [MethodPool.contains, MethodPool.contains, Bool.eq_iff_iff, List.contains_iff_mem,
    List.contains_iff_mem, hplace]

/-- **Other actions are the same after the change.** -/
theorem alike_actionsOf (model : ProgrammingModel) (env : Environment) (F : FacetHolder)
    {entries : List (Nat × Method)}
    (hentries : ∀ e ∈ entries, e ∈ (MethodPool.ofClass c).unclaimed ∧ e.2.name ∉ ch.contested)
    (h : ch.Alike a.pool a'.pool) (hp : IsOf c a.pool) (hp' : IsOf (ch.onClass c) a'.pool)
    (hothers : ch.AreOthers (actionsOf model env c F entries a).1) :
    (actionsOf model env c F entries a').1 = (actionsOf model env c F entries a).1 ∧
      ch.Alike (actionsOf model env c F entries a).2.pool
        (actionsOf model env c F entries a').2.pool := by
  induction entries generalizing a a' with
  | nil => exact ⟨rfl, h⟩
  | cons e entries ih =>
    obtain ⟨⟨he, hname⟩, hentries⟩ := List.forall_mem_cons.mp hentries
    have hcontains := contains_of_alike h hp hp' he hname
    by_cases hpresent : a.pool.contains e.1
    · rw [actionsOf_cons_of_contains hpresent] at hothers ⊢
      rw [actionsOf_cons_of_contains (hcontains.trans hpresent)]
      simp only [AreOthers, List.forall_mem_cons] at hothers
      have hother : ch.IsOther ⟨c, F, e.2, e.2.name, .action⟩ :=
        ⟨hothers.1, fun hne => absurd rfl hne⟩
      have hclaim : ch.Alike { a with pool := a.pool.claim e.1 }.pool
          { a' with pool := a'.pool.claim e.1 }.pool := h.claim e.1
      obtain ⟨hfound, hpool⟩ := alike_member model env hother hclaim
      obtain ⟨hrest, hlast⟩ := ih hentries hpool ((pool_turn e).trans hp) ((pool_turn e).trans hp')
        hothers.2
      exact ⟨by simp only [turn, hfound] at hrest ⊢; rw [hrest], hlast⟩
    · have hpresent' : ¬ a'.pool.contains e.1 := by rwa [hcontains]
      rw [actionsOf_cons_of_not_contains hpresent] at hothers ⊢
      rw [actionsOf_cons_of_not_contains hpresent']
      exact ih hentries h hp hp' hothers

/-- What is found around the member that is read has other names than this one. -/
theorem areOthers_around {before after : List (Nat × Member)} {one : Nat × Member}
    (hids : HasDistinctIds (before ++ one :: after))
    (hreads : ch.reads? = some (Naming.capitalize one.2.id)) :
    ch.AreOthers before ∧ ch.AreOthers after := by
  have hothers : ch.AreOthers (before ++ after) := by
    intro e he X hX heq
    rw [hreads] at hX
    exact hids.around e he (heq.trans (Option.some.inj hX).symm)
  exact List.forall_mem_append.mp hothers

/-- **One association is changed**, and the ones around it are the same. -/
theorem differ_associationsOf {before after : List (Nat × Method)} {i : Nat}
    (haccessor : isAccessor ch.method) (h : ch.Alike a.pool a'.pool)
    (hids : HasDistinctIds (associationsOf model env c F (before ++ (i, ch.method) :: after) a).1) :
    DifferAt i (associationsOf model env c F (before ++ (i, ch.method) :: after) a).1
        (associationsOf model env c F (before ++ (i, ch.changed) :: after) a').1 ∧
      ch.Alike (associationsOf model env c F (before ++ (i, ch.method) :: after) a).2.pool
        (associationsOf model env c F (before ++ (i, ch.changed) :: after) a').2.pool := by
  obtain ⟨id, hid⟩ := Option.isSome_iff_exists.mp (isSome_propertyOf?_of_isAccessor haccessor)
  have hreads : ch.reads? = some (Naming.capitalize id) := by
    rw [reads?, if_pos haccessor, hid, Option.map_some]
  have hid' : Naming.propertyOf? ch.changed.name = some id := by rw [ch.same.name, hid]
  have hfeature : featureOf env ch.changed = featureOf env ch.method := by
    rw [featureOf, ch.same.returnType, featureOf]
  let m : MemberContext := ⟨c, F, ch.method, id, featureOf env ch.method⟩
  rw [associationsOf_append] at hids ⊢
  rw [associationsOf_append]
  simp only [associationsOf, hid, hid', hfeature] at hids ⊢
  obtain ⟨hbefore, hafter⟩ := areOthers_around hids hreads
  obtain ⟨hfound, hpool⟩ := alike_associationsOf h hbefore
  have hturn := alike_member_context model env (m := m) rfl (fun _ => hreads) hpool
  obtain ⟨hfound', hlast⟩ := alike_associationsOf hturn hafter
  let x' := (member model env (ch.context m) (associationsOf model env c F before a').2).1
  refine ⟨⟨_, _, x', _, rfl, ?_, rfl, rfl⟩, hlast⟩
  exact congrArg₂ (· ++ ·) hfound (congrArg (List.cons (i, x')) hfound')

theorem areOthers_of_action (h : isAccessor ch.method = false) (found : List (Nat × Member)) :
    ch.AreOthers found := by
  intro e _ X hX
  rw [reads?, h] at hX
  cases hX

theorem contested_of_action (h : isAccessor ch.method = false) : ch.contested = [] := by
  rw [contested, reads?, h]
  rfl

/-- What has become an action was in the pool when its turn came. -/
theorem contains_of_mem_actionsOf {before after : List (Nat × Method)} {e : Nat × Method}
    {x : Member} (hentries : (before ++ e :: after).Sublist (MethodPool.ofClass c).unclaimed)
    (hx : (e.1, x) ∈ (actionsOf model env c F (before ++ e :: after) a).1) :
    (actionsOf model env c F before a).2.pool.contains e.1 := by
  obtain ⟨-, hrest, hfirst⟩ := List.pairwise_append.mp (ascending_of_sublist hentries)
  have hplace {entries : List (Nat × Method)} {b : Analysis}
      (hx : (e.1, x) ∈ (actionsOf model env c F entries b).1) : ∃ e' ∈ entries, e'.1 = e.1 :=
    List.mem_map.mp (mem_places_of_mem_actionsOf (List.mem_map.mpr ⟨_, hx, rfl⟩))
  by_contra hpresent
  rw [actionsOf_append, actionsOf_cons_of_not_contains hpresent] at hx
  rcases List.mem_append.mp hx with hx | hx
  · obtain ⟨e', he', heq⟩ := hplace hx
    exact Nat.ne_of_lt (hfirst e' he' e List.mem_cons_self) heq
  · obtain ⟨e', he', heq⟩ := hplace hx
    exact Nat.ne_of_gt ((List.pairwise_cons.mp hrest).1 e' he') heq

/-- The turn of the action that is changed leaves alike what was alike. -/
theorem alike_turn (model : ProgrammingModel) (env : Environment) (F : FacetHolder) (i : Nat)
    (h : ch.Alike a.pool a'.pool) :
    ch.Alike (turn model env c F (i, ch.method) a).2.pool
      (turn model env c F (i, ch.changed) a').2.pool := by
  let m : MemberContext := ⟨c, F, ch.method, ch.method.name, .action⟩
  have hcontext : turn model env c F (i, ch.changed) a' =
      member model env (ch.context m) { a' with pool := a'.pool.claim i } := by
    rw [turn, ch.same.name]
    rfl
  rw [hcontext]
  exact alike_member_context model env (m := m) rfl (fun hne => absurd rfl hne) (h.claim i)

/-- **One action is changed**, and the ones around it are the same. -/
theorem differ_actionsOf {before after : List (Nat × Method)} {i : Nat} {x : Member}
    (haction : isAccessor ch.method = false)
    (hentries : (before ++ (i, ch.method) :: after).Sublist (MethodPool.ofClass c).unclaimed)
    (h : ch.Alike a.pool a'.pool) (hp : IsOf c a.pool) (hp' : IsOf (ch.onClass c) a'.pool)
    (hx : (i, x) ∈ (actionsOf model env c F (before ++ (i, ch.method) :: after) a).1) :
    DifferAt i (actionsOf model env c F (before ++ (i, ch.method) :: after) a).1
      (actionsOf model env c F (before ++ (i, ch.changed) :: after) a').1 := by
  have hfree (name : String) : name ∉ ch.contested := by simp [contested_of_action haction]
  have hmem : ∀ e ∈ before ++ (i, ch.method) :: after,
      e ∈ (MethodPool.ofClass c).unclaimed ∧ e.2.name ∉ ch.contested :=
    fun e he => ⟨hentries.subset he, hfree _⟩
  obtain ⟨hbefore, hafter⟩ := List.forall_mem_append.mp hmem
  obtain ⟨hi, hafter⟩ := List.forall_mem_cons.mp hafter
  obtain ⟨hfound, hpool⟩ := alike_actionsOf model env F hbefore h hp hp'
    (areOthers_of_action haction _)
  have hpresent := contains_of_mem_actionsOf hentries hx
  set b := (actionsOf model env c F before a).2 with hb
  set b' := (actionsOf model env c F before a').2 with hb'
  have hsub : IsOf c b.pool := (pool_actionsOf ..).trans hp
  have hsub' : IsOf (ch.onClass c) b'.pool := (pool_actionsOf ..).trans hp'
  have hpresent' : b'.pool.contains i :=
    (contains_of_alike hpool hsub hsub' hi.1 hi.2).trans hpresent
  rw [actionsOf_append, ← hb, actionsOf_cons_of_contains (e := (i, ch.method)) hpresent]
  rw [actionsOf_append, ← hb', actionsOf_cons_of_contains (e := (i, ch.changed)) hpresent']
  obtain ⟨hfound', -⟩ := alike_actionsOf model env F hafter (alike_turn model env F i hpool)
    ((pool_turn _).trans hsub) ((pool_turn _).trans hsub') (areOthers_of_action haction _)
  let x' := (turn model env c F (i, ch.changed) b').1
  refine ⟨_, _, x', _, rfl, ?_, ch.same.name, rfl⟩
  exact congrArg₂ (· ++ ·) hfound (congrArg (List.cons (i, x')) hfound')

theorem DifferAt.append_right {i : Nat} {found found' : List (Nat × Member)}
    (h : DifferAt i found found') (others : List (Nat × Member)) :
    DifferAt i (found ++ others) (found' ++ others) := by
  obtain ⟨before, x, x', after, rfl, rfl, hsame⟩ := h
  exact ⟨before, x, x', after ++ others, by simp, by simp, hsame⟩

theorem DifferAt.append_left {i : Nat} {found found' : List (Nat × Member)}
    (h : DifferAt i found found') (others : List (Nat × Member)) :
    DifferAt i (others ++ found) (others ++ found') := by
  obtain ⟨before, x, x', after, rfl, rfl, hsame⟩ := h
  exact ⟨others ++ before, x, x', after, by simp, by simp, hsame⟩

/-! ### All members -/

theorem associations_onClass (ch : Reannotation) (env : Environment) (c : Class) :
    (ofClass .standard env (ch.onClass c)).associations =
      (associationsOf .standard env c (analyseClass .standard env c).facets
        (accessors .standard env (ch.onClass c))
        (afterAccessors .standard env (ch.onClass c))).1 := by
  have hname : (ch.onClass c).name = c.name := rfl
  rw [associations_ofClass, associationsOf_owner_congr hname (contains_immutable_onClass ch env c)]

theorem afterAssociations_onClass (ch : Reannotation) (env : Environment) (c : Class) :
    afterAssociations .standard env (ch.onClass c) =
      (associationsOf .standard env c (analyseClass .standard env c).facets
        (accessors .standard env (ch.onClass c))
        (afterAccessors .standard env (ch.onClass c))).2 := by
  have hname : (ch.onClass c).name = c.name := rfl
  rw [afterAssociations, associationsOf_owner_congr hname (contains_immutable_onClass ch env c)]

theorem actions_onClass (ch : Reannotation) (env : Environment) (c : Class) :
    (ofClass .standard env (ch.onClass c)).actions =
      (actionsOf .standard env c (analyseClass .standard env c).facets
        (candidates .standard env (ch.onClass c))
        (afterAssociations .standard env (ch.onClass c))).1 := by
  have hname : (ch.onClass c).name = c.name := rfl
  rw [actions_ofClass, actionsOf_owner_congr hname (contains_immutable_onClass ch env c)]

theorem candidates_onClass
    (h : ch.Alike (afterAssociations .standard env c).pool
      (afterAssociations .standard env (ch.onClass c)).pool) :
    candidates .standard env (ch.onClass c) = (candidates .standard env c).map ch.swapEntry :=
  filter_unreserved h

theorem isAccessor_of_mem_candidates {e : Nat × Method} (h : e ∈ candidates model env c) :
    isAccessor e.2 = false := by
  have hpool := (pool_associationsOf _ _).subset (List.mem_filter.mp h).1
  simpa using (List.mem_filter.mp hpool).2

theorem isAccessor_of_mem_accessors {e : Nat × Method} (h : e ∈ accessors model env c) :
    isAccessor e.2 :=
  (List.mem_filter.mp h).2

theorem not_mem_contested_of_mem_candidates {e : Nat × Method}
    (h : e ∈ candidates .standard env c) : e.2.name ∉ ch.contested := by
  intro hmem
  have hfree := (List.mem_filter.mp h).2
  rw [isReserved_of_mem_contested hmem] at hfree
  cases hfree

/-- Where the methods of a class have different names, one of them is the one that is changed. -/
structure Changes (ch : Reannotation) (c : Class) (i : Nat) : Prop where
  declared : c.methods[i]? = some ch.method
  names : (c.methods.map (·.name)).Nodup

namespace Changes

variable {i : Nat} (h : ch.Changes c i)
include h

theorem mem_ofClass : (i, ch.method) ∈ (MethodPool.ofClass c).unclaimed :=
  MethodPool.mem_ofClass_of_getElem? h.declared

theorem swapEntry_eq {e : Nat × Method} (he : e ∈ (MethodPool.ofClass c).unclaimed)
    (hne : e ≠ (i, ch.method)) : ch.swapEntry e = e := by
  have hmethod : e.2 ≠ ch.method := by
    intro heq
    have hdeclared := MethodPool.getElem?_of_mem_ofClass he
    have hplace := Class.place_eq h.names hdeclared h.declared (congrArg Method.name heq)
    exact hne (Prod.ext hplace heq)
  exact Prod.ext rfl (if_neg hmethod)

theorem map_swapEntry {entries : List (Nat × Method)}
    (hsub : entries.Sublist (MethodPool.ofClass c).unclaimed) (hi : (i, ch.method) ∉ entries) :
    entries.map ch.swapEntry = entries := by
  have hself : entries.map ch.swapEntry = entries.map id :=
    List.map_congr_left fun e he => h.swapEntry_eq (hsub.subset he) fun heq => hi (heq ▸ he)
  rw [hself, List.map_id]

theorem map_swapEntry_split {before after : List (Nat × Method)}
    (hsub : (before ++ (i, ch.method) :: after).Sublist (MethodPool.ofClass c).unclaimed) :
    (before ++ (i, ch.method) :: after).map ch.swapEntry = before ++ (i, ch.changed) :: after := by
  obtain ⟨-, hrest, hfirst⟩ := List.pairwise_append.mp (ascending_of_sublist hsub)
  have hbefore : (i, ch.method) ∉ before := fun hmem =>
    Nat.lt_irrefl i (hfirst _ hmem _ List.mem_cons_self)
  have hafter : (i, ch.method) ∉ after := fun hmem =>
    Nat.lt_irrefl i ((List.pairwise_cons.mp hrest).1 _ hmem)
  have hself : ch.swapEntry (i, ch.method) = (i, ch.changed) := Prod.ext rfl (if_pos rfl)
  have hlast := (List.sublist_append_right _ _).trans hsub
  rw [List.map_append, List.map_cons, hself,
    h.map_swapEntry ((List.sublist_append_left _ _).trans hsub) hbefore,
    h.map_swapEntry ((List.sublist_cons_self _ _).trans hlast) hafter]

theorem mem_accessors {x : Member} (hx : (i, x) ∈ (ofClass model env c).associations) :
    (i, ch.method) ∈ accessors model env c := by
  have hplaces := places_associations model env c
  have hplace : i ∈ (books model env c).accessors := hplaces ▸ List.mem_map.mpr ⟨_, hx, rfl⟩
  obtain ⟨e, he, hi⟩ := List.mem_map.mp hplace
  have hdeclared := (pool_accessors model env c).subset he
  exact eq_of_mem_ofClass hdeclared h.mem_ofClass hi ▸ he

theorem mem_candidates {x : Member} (hx : (i, x) ∈ (ofClass model env c).actions) :
    (i, ch.method) ∈ candidates model env c := by
  obtain ⟨m, hm, -⟩ := isAction_of_mem_actionsOf hx
  have hdeclared := (pool_candidates model env c).subset hm
  exact eq_of_mem_ofClass hdeclared h.mem_ofClass rfl ▸ hm

theorem reads?_eq {x : Member} (hx : (i, x) ∈ (ofClass model env c).associations) :
    ch.reads? = some (Naming.capitalize x.id) := by
  obtain ⟨m, hm, haccessor, hid, -⟩ := isRead_of_mem_associations model env c hx
  obtain rfl : m = ch.method := Option.some.inj (hm.symm.trans h.declared)
  rw [reads?, if_pos haccessor, hid, Option.map_some]

/-- An association is changed: the other associations are the same, and so are the actions. -/
theorem differ_of_association {x : Member}
    (hids : HasDistinctIds
      ((ofClass .standard env c).associations ++ (ofClass .standard env c).actions))
    (hx : (i, x) ∈ (ofClass .standard env c).associations) :
    DifferAt i (ofClass .standard env c).associations
        (ofClass .standard env (ch.onClass c)).associations ∧
      (ofClass .standard env (ch.onClass c)).actions = (ofClass .standard env c).actions := by
  have hmem := h.mem_accessors hx
  have haccessor : isAccessor ch.method := isAccessor_of_mem_accessors hmem
  have hsub := pool_accessors .standard env c
  obtain ⟨before, after, hsplit⟩ := List.append_of_mem hmem
  have haccessors : accessors .standard env (ch.onClass c) =
      before ++ (i, ch.changed) :: after := by
    rw [accessors_onClass, hsplit]
    exact h.map_swapEntry_split (hsplit ▸ hsub)
  have hassociations := hids.of_append_left
  rw [associations_ofClass, hsplit] at hassociations
  obtain ⟨hdiffer, halike⟩ :=
    differ_associationsOf haccessor (alike_afterAccessors ch env c) hassociations
  rw [← hsplit, ← haccessors] at hdiffer halike
  rw [← associations_ofClass, ← associations_onClass] at hdiffer
  rw [← afterAssociations_onClass, ← afterAssociations] at halike
  refine ⟨hdiffer, ?_⟩
  -- the method is an accessor, so that it is not among the candidates
  have hcandidates : candidates .standard env (ch.onClass c) = candidates .standard env c := by
    rw [candidates_onClass halike]
    refine h.map_swapEntry (pool_candidates .standard env c) fun hcandidate => ?_
    rw [isAccessor_of_mem_candidates hcandidate] at haccessor
    cases haccessor
  have hothers : ch.AreOthers (ofClass .standard env c).actions := by
    intro e he X hX heq
    obtain rfl : Naming.capitalize x.id = X := Option.some.inj ((h.reads?_eq hx).symm.trans hX)
    exact hids.apart _ hx e he heq.symm
  have hentries : ∀ e ∈ candidates .standard env c,
      e ∈ (MethodPool.ofClass c).unclaimed ∧ e.2.name ∉ ch.contested := fun e he =>
    ⟨(pool_candidates .standard env c).subset he, not_mem_contested_of_mem_candidates he⟩
  rw [actions_onClass, hcandidates]
  rw [actions_ofClass] at hothers ⊢
  exact (alike_actionsOf .standard env _ hentries halike (pool_afterAssociations .standard env c)
    (pool_afterAssociations .standard env _) hothers).1

/-- An action is changed: the other actions are the same, and so are the associations. -/
theorem differ_of_action {x : Member} (hx : (i, x) ∈ (ofClass .standard env c).actions) :
    DifferAt i (ofClass .standard env c).actions (ofClass .standard env (ch.onClass c)).actions ∧
      (ofClass .standard env (ch.onClass c)).associations =
        (ofClass .standard env c).associations := by
  have hmem := h.mem_candidates hx
  have haction : isAccessor ch.method = false := isAccessor_of_mem_candidates hmem
  have hsub := pool_candidates .standard env c
  have haccessors : accessors .standard env (ch.onClass c) = accessors .standard env c := by
    rw [accessors_onClass]
    refine h.map_swapEntry (pool_accessors .standard env c) fun haccessor => ?_
    rw [isAccessor_of_mem_accessors haccessor] at haction
    cases haction
  have hothers : ch.AreOthers (associationsOf .standard env c (analyseClass .standard env c).facets
      (accessors .standard env c) (afterAccessors .standard env c)).1 :=
    areOthers_of_action haction _
  obtain ⟨hassociations, halike⟩ := alike_associationsOf (alike_afterAccessors ch env c) hothers
  rw [← haccessors] at hassociations halike
  rw [← associations_onClass, haccessors, ← associations_ofClass] at hassociations
  rw [← afterAssociations_onClass, haccessors, ← afterAssociations] at halike
  refine ⟨?_, hassociations⟩
  obtain ⟨before, after, hsplit⟩ := List.append_of_mem hmem
  have hcandidates : candidates .standard env (ch.onClass c) =
      before ++ (i, ch.changed) :: after := by
    rw [candidates_onClass halike, hsplit]
    exact h.map_swapEntry_split (hsplit ▸ hsub)
  rw [actions_onClass, hcandidates]
  rw [actions_ofClass, hsplit] at hx ⊢
  exact differ_actionsOf haction (hsplit ▸ hsub) halike (pool_afterAssociations .standard env c)
    (pool_afterAssociations .standard env _) hx

/-- **One member is changed**, and the ones around it are the same. -/
theorem differ {x : Member}
    (hids : HasDistinctIds
      ((ofClass .standard env c).associations ++ (ofClass .standard env c).actions))
    (hx : (i, x) ∈ (ofClass .standard env c).associations ++ (ofClass .standard env c).actions) :
    DifferAt i ((ofClass .standard env c).associations ++ (ofClass .standard env c).actions)
      ((ofClass .standard env (ch.onClass c)).associations ++
        (ofClass .standard env (ch.onClass c)).actions) := by
  rcases List.mem_append.mp hx with hx | hx
  · obtain ⟨hdiffer, hactions⟩ := h.differ_of_association hids hx
    rw [hactions]
    exact hdiffer.append_right _
  · obtain ⟨hdiffer, hassociations⟩ := h.differ_of_action hx
    rw [hassociations]
    exact hdiffer.append_left _

theorem onClass_eq : ch.onClass c = { c with methods := c.methods.set i ch.changed } := by
  have hmethods : c.methods.map ch.swap = c.methods.set i ch.changed := by
    refine List.ext_getElem? fun place => ?_
    rw [List.getElem?_map]
    rcases eq_or_ne i place with rfl | hne
    · obtain ⟨hlt, -⟩ := List.getElem?_eq_some_iff.mp h.declared
      rw [List.getElem?_set_self hlt, h.declared]
      exact congrArg some (if_pos rfl)
    · rw [List.getElem?_set_ne hne]
      cases hk : c.methods[place]? with
      | none => rfl
      | some k =>
        have hentry := h.swapEntry_eq (MethodPool.mem_ofClass_of_getElem? hk)
          fun heq => hne (congrArg Prod.fst heq).symm
        exact congrArg some (congrArg Prod.snd hentry)
  rw [onClass, hmethods]

end Changes

end Reannotation

namespace Introspection

variable {model : ProgrammingModel} {env : Environment}

theorem nodup_places (model : ProgrammingModel) (env : Environment) (c : Class) :
    (((ofClass model env c).associations ++ (ofClass model env c).actions).map (·.1)).Nodup := by
  have hall := (perm_places_books model env c).nodup_iff.mpr List.nodup_range
  have hfirst := (List.nodup_append.mp (List.nodup_append.mp hall).1).1
  rw [List.append_assoc] at hfirst
  rw [List.map_append, places_associations]
  exact (List.nodup_append.mp hfirst).2.1

/-- A member of a specification is at the place of its method. -/
theorem mem_of_mem_members {c : Class} {i : Nat} {m : Method} {x : Member}
    (hnames : (c.methods.map (·.name)).Nodup) (hm : c.methods[i]? = some m)
    (hx : x ∈ ((ofClass model env c).specification c).members) (hmethod : x.method = m.name) :
    (i, x) ∈ (ofClass model env c).associations ++ (ofClass model env c).actions := by
  obtain ⟨⟨place, _⟩, hfound, rfl⟩ := List.mem_map.mp ((perm_members model env c).subset hx)
  obtain ⟨k, hk, hname, -⟩ := exists_method_of_mem model env c hfound
  exact Class.place_eq hnames hk hm (hname.symm.trans hmethod) ▸ hfound

theorem isMember_of_mem {c : Class} {i : Nat} {m : Method} {x : Member}
    (hm : c.methods[i]? = some m)
    (hx : (i, x) ∈ (ofClass .standard env c).associations ++ (ofClass .standard env c).actions) :
    isAccessor m ∨ ProgrammingModel.standard.isReserved m.name = false := by
  rcases List.mem_append.mp hx with hx | hx
  · obtain ⟨k, hk, haccessor, -⟩ := isRead_of_mem_associations _ env c hx
    exact .inl (Option.some.inj (hm.symm.trans hk) ▸ haccessor)
  · obtain ⟨k, hk, hfree, -⟩ := isAction_of_mem_actions _ env c hx
    exact .inr (Option.some.inj (hm.symm.trans hk) ▸ Bool.eq_false_iff.mpr hfree)

end Introspection

namespace Reannotation

open Introspection

variable {ch : Reannotation} {env : Environment} {i : Nat} {x : Member}
  {found found' : List (Nat × Member)}

/-- The entry that differs is the one at the place, if there is only one. -/
theorem DifferAt.exists_split (h : DifferAt i found found') (hplaces : (found.map (·.1)).Nodup)
    (hx : (i, x) ∈ found) :
    ∃ before x' after, found = before ++ (i, x) :: after ∧ found' = before ++ (i, x') :: after ∧
      x'.id = x.id ∧ x'.feature = x.feature ∧ ∀ e ∈ before ++ after, e.1 ≠ i := by
  obtain ⟨before, y, x', after, rfl, rfl, hsame⟩ := h
  have hother : ∀ e ∈ before ++ after, e.1 ≠ i := by
    intro e he heq
    have hfirst := (List.perm_middle.map Prod.fst).nodup_iff.mp hplaces
    exact (List.nodup_cons.mp hfirst).1 (List.mem_map.mpr ⟨e, he, heq⟩)
  obtain rfl : x = y := by
    rcases List.mem_cons.mp (List.perm_middle.subset hx) with hxy | hx
    · exact congrArg Prod.snd hxy
    · exact absurd rfl (hother _ hx)
  exact ⟨before, x', after, rfl, rfl, hsame.1, hsame.2, hother⟩

/-- The lists of members are the same up to order, but for the one that is changed. -/
theorem DifferAt.perm_membersOf (h : DifferAt i found found') (hplaces : (found.map (·.1)).Nodup)
    (hx : (i, x) ∈ found) (feature : Feature) :
    ((membersOf found' feature).filter (·.id ≠ x.id)).Perm
      ((membersOf found feature).filter (·.id ≠ x.id)) := by
  obtain ⟨before, x', after, rfl, rfl, hid, hfeature, -⟩ := h.exists_split hplaces hx
  have hothers : ((((before ++ (i, x') :: after).map (·.2)).filter (·.feature == feature)).filter
        (·.id ≠ x.id)) =
      (((before ++ (i, x) :: after).map (·.2)).filter (·.feature == feature)).filter
        (·.id ≠ x.id) := by
    by_cases hx : x.feature = feature <;> simp [hid, hfeature, hx]
  have hfound' := (Member.perm_inOrder
    (((before ++ (i, x') :: after).map (·.2)).filter (·.feature == feature))).filter (·.id ≠ x.id)
  rw [hothers] at hfound'
  exact hfound'.trans ((Member.perm_inOrder _).symm.filter _)

namespace Changes

variable {c : Class} (h : ch.Changes c i)
  (hids : HasDistinctIds
    ((ofClass .standard env c).associations ++ (ofClass .standard env c).actions))
  (hx : (i, x) ∈ (ofClass .standard env c).associations ++ (ofClass .standard env c).actions)
include h hids hx

/-- The members of each kind are the same up to order, but for the one that is changed. -/
theorem perm_others :
    ((membersOf (ofClass .standard env (ch.onClass c)).associations .property).filter
      (·.id ≠ x.id)).Perm
        ((membersOf (ofClass .standard env c).associations .property).filter (·.id ≠ x.id)) ∧
    ((membersOf (ofClass .standard env (ch.onClass c)).associations .collection).filter
      (·.id ≠ x.id)).Perm
        ((membersOf (ofClass .standard env c).associations .collection).filter (·.id ≠ x.id)) ∧
    ((membersOf (ofClass .standard env (ch.onClass c)).actions .action).filter (·.id ≠ x.id)).Perm
      ((membersOf (ofClass .standard env c).actions .action).filter (·.id ≠ x.id)) := by
  have hplaces := nodup_places .standard env c
  rw [List.map_append, List.nodup_append] at hplaces
  rcases List.mem_append.mp hx with hx | hx
  · obtain ⟨hdiffer, hactions⟩ := h.differ_of_association hids hx
    have hperm := hdiffer.perm_membersOf hplaces.1 hx
    rw [hactions]
    exact ⟨hperm .property, hperm .collection, .rfl⟩
  · obtain ⟨hdiffer, hassociations⟩ := h.differ_of_action hx
    have hperm := hdiffer.perm_membersOf hplaces.2.1 hx
    rw [hassociations]
    exact ⟨.rfl, .rfl, hperm .action⟩

/-- The member that is changed keeps its id and its kind, and no member comes or goes. -/
theorem exists_changed :
    ∃ x', x'.id = x.id ∧ x'.feature = x.feature ∧
      ((ofClass .standard env (ch.onClass c)).specification (ch.onClass c)).members.Perm
        (x' :: ((ofClass .standard env c).specification c).members.filter (·.id ≠ x.id)) := by
  obtain ⟨before, x', after, hfound, hfound', hid, hfeature, -⟩ :=
    (h.differ hids hx).exists_split (nodup_places .standard env c) hx
  have hmembers := Introspection.perm_members .standard env c
  have hmembers' := Introspection.perm_members .standard env (ch.onClass c)
  rw [hfound] at hmembers hids
  rw [hfound'] at hmembers'
  have hapart : ∀ y ∈ (before ++ after).map (·.2), y.id ≠ x.id := by
    intro y hy heq
    obtain ⟨e, he, rfl⟩ := List.mem_map.mp hy
    exact hids.around e he (congrArg Naming.capitalize heq)
  have hothers : (x :: (before ++ after).map (·.2)).filter (·.id ≠ x.id) =
      (before ++ after).map (·.2) := by
    rw [List.filter_cons_of_neg (by simp)]
    exact List.filter_eq_self.mpr fun y hy => decide_eq_true (hapart y hy)
  have hfiltered := (hmembers.trans (List.perm_middle.map Prod.snd)).filter (·.id ≠ x.id)
  rw [List.map_cons, hothers] at hfiltered
  refine ⟨x', hid, hfeature, hmembers'.trans ?_⟩
  exact (List.perm_middle.map Prod.snd).trans (hfiltered.symm.cons x')

/-- The failures with other elements are the same, in the same order. -/
theorem failures_others :
    (((ofClass .standard env (ch.onClass c)).specification (ch.onClass c)).failures.filter
        fun f => f.element.member ≠ some x.id) =
      ((ofClass .standard env c).specification c).failures.filter
        fun f => f.element.member ≠ some x.id := by
  obtain ⟨before, x', after, hfound, hfound', hid, -, hother⟩ :=
    (h.differ hids hx).exists_split (nodup_places .standard env c) hx
  have hclass : classProblems (ch.onClass c) = classProblems c := rfl
  have hname : (ch.onClass c).name = c.name := rfl
  -- what the member that is changed has recorded is under its id
  have hown (c : Class) (y : Member) (hy : y.id = x.id) :
      (failuresAt env c (i, y)).filter (fun f => f.element.member ≠ some x.id) = [] := by
    refine List.filter_eq_nil_iff.mpr fun f hf => ?_
    simp [member_of_mem_failuresAt hf, hy]
  have hsame : ∀ e ∈ before ++ after, failuresAt env (ch.onClass c) e = failuresAt env c e := by
    intro e he
    rw [failuresAt, h.onClass_eq, List.getElem?_set_ne (hother e he).symm, failuresAt]
  obtain ⟨hbefore, hafter⟩ := List.forall_mem_append.mp hsame
  rw [failures_ofClass, failures_ofClass, hfound, hfound', hclass, hname]
  simp only [List.filter_append, List.flatMap_append, List.flatMap_cons, hown _ _ hid, hown c x rfl,
    List.flatMap_congr hbefore, List.flatMap_congr hafter]

end Changes

end Reannotation

namespace Introspection

/-- An environment in which lists are the only collections. -/
def listEnvironment : Environment :=
  { plainEnvironment with isCollectionType := (· == "java.util.List") }

/-- The accessor of a list. -/
def getItems : Method := { Method.named "getItems" with returnType := .simple "java.util.List" }

/-- A class whose objects have items and a name, and can be shipped. -/
def basket : Class :=
  { Class.named "shop.Basket" with
    methods := [getItems,
      { Method.named "addToItems" with parameters := [⟨.simple "shop.Item", none, []⟩] },
      { Method.named "getName" with returnType := .simple "java.lang.String" },
      { Method.named "ship" with annotations := [.named "MemberOrder"] }] }

/-- The accessor declares that the list is one of something else than `addToItems` takes. -/
def getItemsAsVouchers : Method :=
  { getItems with annotations := [.withAttr (.named "TypeOf") "value" (.string "shop.Voucher")] }

end Introspection
end Facetry
