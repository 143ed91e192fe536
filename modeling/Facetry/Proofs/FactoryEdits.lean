/-
# Edits of a programming model

A programming model is put together edit by edit. The edits work in different ways: one overwrites an
entry where it stands, two take the entries of a name out first and then look for a place, one goes
through all standard entries. What they have in common is told by names. A name is never there twice
(`Registry.nodup_run`); and an edit leaves the entries that it does not name as they are and in their
order, which is what each operation does to every property of names that the name of its entry lacks
(`Registry.filter_put`, `Registry.filter_insertBefore`, `Registry.filter_drop`).

Where the entry of an edit comes to stand is `Registry.Edit.Places`. All of this holds for entries of
any kind, since a program can add its own factories, also under the name of a standard one. For the
factories themselves it follows that none has two turns at an element
(`ProgrammingModel.RunsEachOnce`).

Key definitions: `Registry.Edit`, `Registry.Edit.perform`, `Registry.run`, `Registry.Edit.Places`,
`ProgrammingModel.perform`, `ProgrammingModel.RunsEachOnce`.
Key theorems: `Registry.nodup_run`, `Registry.Edit.filter_perform`, `Registry.Edit.places_perform`,
`ProgrammingModel.edited_models`.
-/
import Mathlib.Data.List.Nodup
import Facetry.Proofs.Titles

namespace Facetry

namespace Registry

variable {α : Type} {name : α → String} {x y : α} {l before after : List α} {place called : String}

/-! ### One operation -/

/-- The entries split at the first of a name. -/
theorem exists_split (h : called ∈ l.map name) :
    ∃ before y after, l = before ++ y :: after ∧ name y = called ∧ called ∉ before.map name := by
  induction l with
  | nil => cases h
  | cons z rest ih =>
    by_cases hz : name z = called
    · exact ⟨[], z, rest, rfl, hz, List.not_mem_nil⟩
    · have hrest : called ∈ rest.map name :=
        (List.mem_cons.mp h).resolve_left fun heq => hz heq.symm
      obtain ⟨before, y, after, rfl, hy, hbefore⟩ := ih hrest
      refine ⟨z :: before, y, after, rfl, hy, ?_⟩
      rw [List.map_cons, List.mem_cons, not_or]
      exact ⟨fun heq => hz heq.symm, hbefore⟩

/-- What stands before the first of its name stays. -/
theorem put_append (h : name x ∉ before.map name) :
    put name x (before ++ after) = before ++ put name x after := by
  induction before with
  | nil => rfl
  | cons y rest ih =>
    obtain ⟨hy, hrest⟩ := not_or.mp fun hor => h (List.mem_cons.mpr hor)
    rw [List.cons_append, put, if_neg fun heq => hy heq.symm, ih hrest, List.cons_append]

/-- What stands before the place stays. -/
theorem insertBefore_append (h : place ∉ before.map name) :
    insertBefore name place x (before ++ after) = before ++ insertBefore name place x after := by
  induction before with
  | nil => rfl
  | cons y rest ih =>
    obtain ⟨hy, hrest⟩ := not_or.mp fun hor => h (List.mem_cons.mpr hor)
    rw [List.cons_append, insertBefore, if_neg fun heq => hy heq.symm, ih hrest, List.cons_append]

theorem put_of_not_mem (h : name x ∉ l.map name) : put name x l = l ++ [x] := by
  conv_lhs => rw [← List.append_nil l]
  exact put_append h

theorem insertBefore_of_not_mem (h : place ∉ l.map name) :
    insertBefore name place x l = l ++ [x] := by
  conv_lhs => rw [← List.append_nil l]
  exact insertBefore_append h

/-- An entry of its name is replaced where it stands. -/
theorem exists_put (h : name x ∈ l.map name) :
    ∃ before y after, l = before ++ y :: after ∧ name y = name x ∧
      put name x l = before ++ x :: after := by
  obtain ⟨before, y, after, rfl, hy, hbefore⟩ := exists_split h
  exact ⟨before, y, after, rfl, hy, by rw [put_append hbefore, put, if_pos hy]⟩

theorem exists_insertBefore (h : place ∈ l.map name) :
    ∃ before y after, l = before ++ y :: after ∧ name y = place ∧
      insertBefore name place x l = before ++ x :: y :: after := by
  obtain ⟨before, y, after, rfl, hy, hbefore⟩ := exists_split h
  exact ⟨before, y, after, rfl, hy, by rw [insertBefore_append hbefore, insertBefore, if_pos hy]⟩

theorem names_drop : (drop name called l).map name = (l.map name).filter (· != called) := by
  rw [drop, List.filter_map]
  rfl

theorem not_mem_names_drop : called ∉ (drop name called l).map name := by
  rw [names_drop, List.mem_filter]
  exact fun h => absurd rfl (bne_iff_ne.mp h.2)

/-- The names after one entry was put in its place. -/
theorem names_put (x : α) (l : List α) : (put name x l).map name =
    if name x ∈ l.map name then l.map name else l.map name ++ [name x] := by
  split
  · rename_i h
    obtain ⟨before, y, after, rfl, hy, hput⟩ := exists_put h
    rw [hput, List.map_append, List.map_append, List.map_cons, List.map_cons, hy]
  · rename_i h
    rw [put_of_not_mem h, List.map_append, List.map_singleton]

theorem insertBefore_perm (place : String) (x : α) (l : List α) :
    (insertBefore name place x l).Perm (x :: l) := by
  induction l with
  | nil => exact .refl _
  | cons y rest ih =>
    rw [insertBefore]
    split
    · exact .refl _
    · exact (ih.cons y).trans (.swap x y rest)

/-- Keys that tell the same entries apart serve alike. -/
theorem put_congr {κ : Type} [DecidableEq κ] {key : α → κ}
    (h : ∀ y, key y = key x ↔ name y = name x) (l : List α) : put key x l = put name x l := by
  induction l with
  | nil => rfl
  | cons y rest ih =>
    rw [put, put, ih]
    exact if_congr (h y) rfl rfl

theorem drop_congr {κ : Type} [DecidableEq κ] {key : α → κ}
    (h : ∀ y, key y = key x ↔ name y = name x) (l : List α) :
    drop key (key x) l = drop name (name x) l := by
  refine List.filter_congr fun y _ => Bool.eq_iff_iff.mpr ?_
  rw [bne_iff_ne, bne_iff_ne]
  exact not_congr (h y)

/-! ### What the operations leave alone -/

section Frame

variable {p : String → Bool}

/-- Entries are put in the place of others only under their own name. -/
theorem filter_put (h : p (name x) = false) :
    (put name x l).filter (fun y => p (name y)) = l.filter fun y => p (name y) := by
  by_cases hmem : name x ∈ l.map name
  · obtain ⟨before, y, after, rfl, hy, hput⟩ := exists_put hmem
    rw [hput, List.filter_append, List.filter_append, List.filter_cons_of_neg (by simp [h]),
      List.filter_cons_of_neg (by simp [hy, h])]
  · rw [put_of_not_mem hmem, List.filter_append, List.filter_cons_of_neg (by simp [h]),
      List.filter_nil, List.append_nil]

theorem filter_insertBefore (h : p (name x) = false) :
    (insertBefore name place x l).filter (fun y => p (name y)) = l.filter fun y => p (name y) := by
  by_cases hmem : place ∈ l.map name
  · obtain ⟨before, y, after, rfl, -, hinsert⟩ := exists_insertBefore (x := x) hmem
    rw [hinsert, List.filter_append, List.filter_append, List.filter_cons_of_neg (by simp [h])]
  · rw [insertBefore_of_not_mem hmem, List.filter_append, List.filter_cons_of_neg (by simp [h]),
      List.filter_nil, List.append_nil]

theorem filter_drop (h : p called = false) :
    (drop name called l).filter (fun y => p (name y)) = l.filter fun y => p (name y) := by
  rw [drop, List.filter_filter]
  refine List.filter_congr fun y _ => ?_
  by_cases hy : name y = called
  · rw [hy, h, Bool.false_and]
  · rw [bne_iff_ne.mpr hy, Bool.and_true]

end Frame

/-! ### Names that are there once -/

theorem nodup_put (h : (l.map name).Nodup) (x : α) : ((put name x l).map name).Nodup := by
  rw [names_put]
  split
  · exact h
  · rename_i hnew
    rw [← List.concat_eq_append]
    exact h.concat hnew

theorem nodup_drop (h : (l.map name).Nodup) (called : String) :
    ((drop name called l).map name).Nodup := by
  rw [names_drop]
  exact h.filter _

/-- An entry can be inserted among others that are not called so. -/
theorem nodup_insertBefore (h : (l.map name).Nodup) (hnew : name x ∉ l.map name) (place : String) :
    ((insertBefore name place x l).map name).Nodup :=
  ((insertBefore_perm place x l).map name).nodup_iff.mpr (List.nodup_cons.mpr ⟨hnew, h⟩)

/-! ### All standard entries -/

section Standard

variable (name)

/-- The entries with each of the others in the place of the first of its name, or at the end. -/
def putAll (xs l : List α) : List α := xs.foldl (fun l x => put name x l) l

variable {name} {xs : List α}

theorem nodup_putAll (h : (l.map name).Nodup) (xs : List α) : ((putAll name xs l).map name).Nodup := by
  induction xs generalizing l with
  | nil => exact h
  | cons x xs ih => exact ih (nodup_put h x)

theorem filter_putAll {p : String → Bool} (h : ∀ x ∈ xs, p (name x) = false) :
    (putAll name xs l).filter (fun y => p (name y)) = l.filter fun y => p (name y) := by
  induction xs generalizing l with
  | nil => rfl
  | cons x xs ih =>
    obtain ⟨hx, hxs⟩ := List.forall_mem_cons.mp h
    calc (putAll name (x :: xs) l).filter (fun y => p (name y))
      _ = (put name x l).filter (fun y => p (name y)) := ih hxs
      _ = l.filter (fun y => p (name y)) := filter_put hx

/-- The names that are there keep their places, and the others follow in their order. -/
theorem exists_names_putAll (name : α → String) (xs l : List α) :
    ∃ added, (putAll name xs l).map name = l.map name ++ added ∧ added.Sublist (xs.map name) := by
  induction xs generalizing l with
  | nil => exact ⟨[], (List.append_nil _).symm, .refl _⟩
  | cons x xs ih =>
    obtain ⟨added, hadded, hsub⟩ := ih (put name x l)
    rw [names_put] at hadded
    split at hadded
    · exact ⟨added, hadded, hsub.cons _⟩
    · exact ⟨name x :: added, hadded.trans (List.append_assoc ..), hsub.cons_cons _⟩

theorem mem_names_putAll_of_mem (h : called ∈ l.map name) (xs : List α) :
    called ∈ (putAll name xs l).map name := by
  obtain ⟨added, hadded, -⟩ := exists_names_putAll name xs l
  rw [hadded]
  exact List.mem_append_left _ h

theorem mem_names_put (x : α) (l : List α) : name x ∈ (put name x l).map name := by
  rw [names_put]
  split
  · assumption
  · exact List.mem_append_right _ List.mem_cons_self

theorem mem_names_putAll (h : x ∈ xs) (l : List α) : name x ∈ (putAll name xs l).map name := by
  induction xs generalizing l with
  | nil => cases h
  | cons z xs ih =>
    rcases List.mem_cons.mp h with rfl | h
    · exact mem_names_putAll_of_mem (mem_names_put x l) xs
    · exact ih h (put name z l)

/-- Only entries of other names are left beside the one that was put in its place. -/
theorem eq_or_mem_of_mem_put (hnodup : (l.map name).Nodup) (h : y ∈ put name x l) :
    y = x ∨ y ∈ l ∧ name y ≠ name x := by
  by_cases hmem : name x ∈ l.map name
  · obtain ⟨before, z, after, rfl, hz, hput⟩ := exists_put hmem
    rw [hput, List.mem_append, List.mem_cons] at h
    rw [List.map_append, List.map_cons, List.nodup_middle, List.nodup_cons, ← List.map_append]
      at hnodup
    have hother (hy : y ∈ before ++ after) : name y ≠ name x :=
      fun heq => hnodup.1 (List.mem_map.mpr ⟨y, hy, heq.trans hz.symm⟩)
    rcases h with h | rfl | h
    · exact .inr ⟨List.mem_append_left _ h, hother (List.mem_append_left _ h)⟩
    · exact .inl rfl
    · exact .inr ⟨List.mem_append_right _ (List.mem_cons_of_mem _ h),
        hother (List.mem_append_right _ h)⟩
  · rw [put_of_not_mem hmem, List.mem_append, List.mem_singleton] at h
    exact h.symm.imp_right fun h => ⟨h, fun heq => hmem (List.mem_map.mpr ⟨y, h, heq⟩)⟩

theorem mem_or_mem_of_mem_putAll (hnodup : (l.map name).Nodup) (h : y ∈ putAll name xs l) :
    y ∈ xs ∨ y ∈ l ∧ name y ∉ xs.map name := by
  induction xs generalizing l with
  | nil => exact .inr ⟨h, List.not_mem_nil⟩
  | cons x xs ih =>
    rcases ih (nodup_put hnodup x) h with hxs | ⟨hput, hother⟩
    · exact .inl (List.mem_cons_of_mem _ hxs)
    · rcases eq_or_mem_of_mem_put hnodup hput with rfl | ⟨hl, hne⟩
      · exact .inl List.mem_cons_self
      · refine .inr ⟨hl, ?_⟩
        rw [List.map_cons, List.mem_cons, not_or]
        exact ⟨hne, hother⟩

end Standard

/-! ### Edits -/

/-- One step of putting a registry together: an entry is added in the place of one of its name, or
before another; all standard entries are added; entries of a name are taken out; an entry is added at
the end. -/
inductive Edit (α : Type)
  | add (x : α)
  | addBefore (place : String) (x : α)
  | addStandard
  | remove (called : String)
  | register (x : α)

namespace Edit

variable (name) (standard : List α)

/-- The names of what the edit adds or takes out. -/
def named : Edit α → List String
  | add x | addBefore _ x | register x => [name x]
  | addStandard => standard.map name
  | remove called => [called]

/-- The entries after the edit. -/
def perform : Edit α → List α → List α
  | add x, l => put name x l
  | addBefore place x, l => putBefore name name place x l
  | addStandard, l => putAll name standard l
  | remove called, l => drop name called l
  | register x, l => putLast name x l

/-- Where the edit puts what it adds, and what it takes out: -/
def Places (l l' : List α) : Edit α → Prop
  -- in the place of the entry of its name, or at the end;
  | add x =>
    (name x ∈ l.map name → ∃ before y after, l = before ++ y :: after ∧ name y = name x ∧
      l' = before ++ x :: after) ∧
      (name x ∉ l.map name → l' = l ++ [x])
  -- right before the place, if there is one and it is not the entry's own, or at the end;
  | addBefore place x =>
    let others := l.filter (name · != name x)
    (place ∈ l.map name ∧ place ≠ name x → ∃ before y after, others = before ++ y :: after ∧
      name y = place ∧ l' = before ++ x :: y :: after) ∧
      (¬ (place ∈ l.map name ∧ place ≠ name x) → l' = others ++ [x])
  -- each in the place of the entry of its name, and those that are missing at the end in their order;
  | addStandard =>
    (∃ added, l'.map name = l.map name ++ added ∧ added.Sublist (standard.map name)) ∧
      (∀ x ∈ standard, name x ∈ l'.map name) ∧
      ∀ y ∈ l', y ∈ standard ∨ y ∈ l ∧ name y ∉ standard.map name
  -- nothing but the entry of the name;
  | remove called => l' = l.filter (name · != called)
  -- at the end, wherever it was before.
  | register x => l' = l.filter (name · != name x) ++ [x]

variable {name standard}

/-- No name is there twice after an edit. -/
theorem nodup_perform (h : (l.map name).Nodup) (e : Edit α) :
    ((e.perform name standard l).map name).Nodup := by
  cases e with
  | add x => exact nodup_put h x
  | addBefore place x => exact nodup_insertBefore (nodup_drop h _) not_mem_names_drop place
  | addStandard => exact nodup_putAll h standard
  | remove called => exact nodup_drop h called
  | register x =>
    have hlast : (putLast name x l).map name = (drop name (name x) l).map name ++ [name x] := by
      rw [putLast, List.map_append, List.map_singleton]
    rw [perform, hlast, ← List.concat_eq_append]
    exact (nodup_drop h _).concat not_mem_names_drop

/-- **An edit leaves alone what it does not name.** -/
theorem filter_perform {p : String → Bool} {e : Edit α}
    (h : ∀ n ∈ e.named name standard, p n = false) (l : List α) :
    (e.perform name standard l).filter (fun y => p (name y)) = l.filter fun y => p (name y) := by
  cases e with
  | add x => exact filter_put (h _ List.mem_cons_self)
  | addBefore place x =>
    have hx : p (name x) = false := h _ List.mem_cons_self
    calc (putBefore name name place x l).filter (fun y => p (name y))
      _ = (drop name (name x) l).filter (fun y => p (name y)) := filter_insertBefore hx
      _ = l.filter (fun y => p (name y)) := filter_drop hx
  | addStandard => exact filter_putAll fun x hx => h _ (List.mem_map_of_mem hx)
  | remove called => exact filter_drop (h _ List.mem_cons_self)
  | register x =>
    have hx : p (name x) = false := h _ List.mem_cons_self
    rw [perform, putLast, List.filter_append, filter_drop hx,
      List.filter_cons_of_neg (by simp [hx]), List.filter_nil, List.append_nil]

/-- **Where an edit puts what it names.** -/
theorem places_perform (h : (l.map name).Nodup) (e : Edit α) :
    e.Places name standard l (e.perform name standard l) := by
  cases e with
  | add x => exact ⟨exists_put, put_of_not_mem⟩
  | addBefore place x =>
    have hplace : place ∈ (drop name (name x) l).map name ↔
        place ∈ l.map name ∧ place ≠ name x := by
      rw [names_drop, List.mem_filter, bne_iff_ne]
    exact ⟨fun hthere => exists_insertBefore (hplace.mpr hthere),
      fun hthere => insertBefore_of_not_mem fun hmem => hthere (hplace.mp hmem)⟩
  | addStandard =>
    exact ⟨exists_names_putAll name standard l, fun x hx => mem_names_putAll hx l,
      fun y hy => mem_or_mem_of_mem_putAll h hy⟩
  | remove called => rfl
  | register x => rfl

end Edit

/-- The entries after a sequence of edits, from none. -/
def run {α : Type} (name : α → String) (standard : List α) (edits : List (Edit α)) : List α :=
  edits.foldl (fun l e => e.perform name standard l) []

/-- **No name is there twice**, whatever the edits. -/
theorem nodup_run (name : α → String) (standard : List α) (edits : List (Edit α)) :
    ((run name standard edits).map name).Nodup := by
  have hrun : ∀ l : List α, (l.map name).Nodup →
      ((edits.foldl (fun l e => e.perform name standard l) l).map name).Nodup := by
    induction edits with
    | nil => exact fun l h => h
    | cons e edits ih => exact fun l h => ih _ (Edit.nodup_perform h e)
  exact hrun [] List.nodup_nil

end Registry

/-! ### Programming models -/

namespace ProgrammingModel

open Registry (Edit run)

/-- The model after an edit. -/
def perform (m : ProgrammingModel) : Edit Factory → ProgrammingModel
  | .add f => m.withFactory f
  | .addBefore place f => m.before place f
  | .addStandard => m.withStandard
  | .remove name => m.without name
  | .register f => m.register f

/-- A factory is known by its name. -/
theorem name_eq_iff {f g : Factory} : id g = id f ↔ g.name = f.name := by
  have hnodup : (Factory.standard.map Factory.name).Nodup := by decide +kernel
  refine ⟨congrArg Factory.name, fun h => ?_⟩
  exact List.inj_on_of_nodup_map hnodup g.mem_standard f.mem_standard h

theorem factories_withFactory (m : ProgrammingModel) (f : Factory) :
    (m.withFactory f).factories = Registry.put Factory.name f m.factories :=
  Registry.put_congr (fun _ => name_eq_iff) m.factories

theorem factories_withStandard (m : ProgrammingModel) :
    m.withStandard.factories = Registry.putAll Factory.name Factory.standard m.factories := by
  have hall : ∀ (fs : List Factory) (m : ProgrammingModel),
      (fs.foldl withFactory m).factories = Registry.putAll Factory.name fs m.factories := by
    intro fs
    induction fs with
    | nil => exact fun m => rfl
    | cons f fs ih =>
      intro m
      rw [List.foldl_cons, ih, factories_withFactory]
      rfl
  exact hall Factory.standard m

/-- The edits of a model are those of its registry. -/
theorem factories_perform (m : ProgrammingModel) (e : Edit Factory) :
    (m.perform e).factories = e.perform Factory.name Factory.standard m.factories := by
  have hdrop (f : Factory) :
      Registry.drop id f m.factories = Registry.drop Factory.name f.name m.factories :=
    Registry.drop_congr (fun _ => name_eq_iff) m.factories
  cases e with
  | add f => exact m.factories_withFactory f
  | addBefore place f => exact congrArg (Registry.insertBefore Factory.name place f) (hdrop f)
  | addStandard => exact m.factories_withStandard
  | remove called => rfl
  | register f => exact congrArg (· ++ [f]) (hdrop f)

theorem factories_foldl_perform (edits : List (Edit Factory)) (m : ProgrammingModel) :
    (edits.foldl perform m).factories =
      edits.foldl (fun l e => e.perform Factory.name Factory.standard l) m.factories := by
  induction edits generalizing m with
  | nil => rfl
  | cons e edits ih => rw [List.foldl_cons, ih, factories_perform, List.foldl_cons]

/-- The turns are those of the factories that look at the feature, in the order of the model, and no
factory has two. -/
def TurnsOnce (m : ProgrammingModel) (feature : Feature) (turns : List Factory) : Prop :=
  turns.Sublist m.factories ∧ (∀ f, f ∈ turns ↔ f ∈ m.factories ∧ f.appliesTo feature) ∧
    (turns.map Factory.name).Nodup

/-- Each analysis of an element is a sequence of turns of which no two are of one factory. -/
structure RunsEachOnce (m : ProgrammingModel) : Prop where
  onClass : ∀ env c a, ∃ turns, m.TurnsOnce .object turns ∧
    m.analyseClass env c a = turns.foldl (fun a f => f.onClass env c a) a
  onMember : ∀ env (member : MemberContext) a, ∃ turns, m.TurnsOnce member.feature turns ∧
    m.analyseMember env member a = turns.foldl (fun a f => f.onMember env member a) a
  onParameter : ∀ env p a, ∃ turns, m.TurnsOnce .parameter turns ∧
    m.analyseParameter env p a = turns.foldl (fun a f => f.onParameter env p a) a

theorem turnsOnce_factoriesFor {m : ProgrammingModel} (h : (m.factories.map Factory.name).Nodup)
    (feature : Feature) : m.TurnsOnce feature (m.factoriesFor feature) :=
  ⟨List.filter_sublist, fun _ => List.mem_filter, h.sublist (List.filter_sublist.map _)⟩

theorem runsEachOnce_of_nodup {m : ProgrammingModel} (h : (m.factories.map Factory.name).Nodup) :
    m.RunsEachOnce where
  onClass _ _ _ := ⟨_, turnsOnce_factoriesFor h .object, rfl⟩
  onMember _ member _ := ⟨_, turnsOnce_factoriesFor h member.feature, rfl⟩
  onParameter _ _ _ := ⟨_, turnsOnce_factoriesFor h .parameter, rfl⟩

/-- The model of a configuration is the standard model after an edit for each name left out. -/
theorem ofConfiguration_eq_foldl_perform (config : Configuration) :
    ofConfiguration config =
      (.addStandard :: config.excludedFactories.map .remove).foldl perform .empty := by
  rw [List.foldl_cons, List.foldl_map]
  rfl

/-- **Edited models.** Whatever the edits, no name is there twice, and each edit moves only what it
names. So no factory of an edited model has two turns at an element; and the model of a configuration
consists of the standard factories in their order, without those whose names are left out. -/
theorem edited_models :
    (∀ {α : Type} (name : α → String) (standard : List α) (edits : List (Edit α)),
      let l := run name standard edits
      (l.map name).Nodup ∧ ∀ e : Edit α,
        let l' := e.perform name standard l
        l'.filter (name · ∉ e.named name standard) = l.filter (name · ∉ e.named name standard) ∧
          e.Places name standard l l') ∧
      (∀ edits : List (Edit Factory),
        let m := edits.foldl perform .empty
        m.factories = run Factory.name Factory.standard edits ∧ m.RunsEachOnce) ∧
      ∀ config : Configuration,
        (ofConfiguration config).factories =
            Factory.standard.filter (fun f => !config.excludedFactories.contains f.name) ∧
          (ofConfiguration config).RunsEachOnce := by
  have hruns (edits : List (Edit Factory)) : (edits.foldl perform .empty).factories =
      run Factory.name Factory.standard edits := factories_foldl_perform edits .empty
  have honce (edits : List (Edit Factory)) : (edits.foldl perform .empty).RunsEachOnce :=
    runsEachOnce_of_nodup (hruns edits ▸ Registry.nodup_run _ _ edits)
  refine ⟨fun name standard edits => ?_, fun edits => ⟨hruns edits, honce edits⟩,
    fun config => ⟨factories_ofConfiguration config, ?_⟩⟩
  · have hnodup := Registry.nodup_run name standard edits
    refine ⟨hnodup, fun e => ⟨?_, Edit.places_perform hnodup e⟩⟩
    exact Edit.filter_perform (p := fun n => n ∉ e.named name standard)
      (fun n hn => decide_eq_false (not_not_intro hn)) _
  · rw [ofConfiguration_eq_foldl_perform]
    exact honce _

/-- A factory is no place for itself: it goes to the end. -/
example : (standard.before "value" .value).factories.getLast? = some .value := by decide +kernel

end ProgrammingModel
end Facetry
