/-
# The order of numbered members

Members are sorted by their sequences, and a member without one comes after all others. The
comparison is an order on them unless three of the sequences are torn; so without such sequences the
members are listed in order (`Member.pairwise_inOrder`).

Sequences whose components all are numbers of 64 bits are never torn (`Member.noneTorn_of_numbered`).
Such a sequence stands for the list of its numbers, and is compared like the list: number by number,
and a list comes before its continuations. So members that are numbered have places in a linear order
(`Member.place`), where that of a member without a sequence is above all lists, and the sort is stable:
members at one place stand as they stood before (`Member.filter_mergeSort_key`). The place goes back to
the declaration, since only one factory attaches a sequence to a member, and it takes the sequence from
the member's own method (`Introspection.sequence?_member`).

Key definitions: `Sequence.numbers?`, `Method.sequence?`, `Member.NoneTorn`, `Member.place`,
`Member.Arranged`, `Introspection.discovered`.
Key theorems: `Sequence.isLE_compare_iff`, `Member.pairwise_inOrder`, `Member.arranged_inOrder`,
`Introspection.sequence?_member`, `Introspection.numbered_members_arranged`.
-/
import Facetry.Proofs.HiddenActions
import Facetry.Proofs.SequenceOrder
import Mathlib.Data.List.Lex
import Mathlib.Order.WithBot

namespace Facetry

/-! ### Sequences of numbers -/

namespace Sequence

/-- The numbers of a sequence, if all its components are numbers of 64 bits. -/
def numbers? (s : String) : Option (List Nat) := (components s).mapM number?

/-- The components are the numbers, one by one. -/
def Spell (components : List (List Char)) (numbers : List Nat) : Prop :=
  List.Forall₂ (fun component n => number? component = some n) components numbers

theorem Spell.isSome {components : List (List Char)} {numbers : List Nat}
    (h : Spell components numbers) : ∀ component ∈ components, (number? component).isSome := by
  induction h with
  | nil => exact fun _ hcomponent => absurd hcomponent List.not_mem_nil
  | cons hn _ ih => exact List.forall_mem_cons.mpr ⟨hn ▸ rfl, ih⟩

theorem mapM_number?_eq_some_iff {components : List (List Char)} {numbers : List Nat} :
    components.mapM number? = some numbers ↔ Spell components numbers := by
  induction components generalizing numbers with
  | nil => simp [Spell, eq_comm]
  | cons component components ih =>
    rw [List.mapM_cons, Spell, List.forall₂_cons_left_iff]
    constructor
    · intro h
      obtain ⟨n, hn, h⟩ := Option.bind_eq_some_iff.mp h
      obtain ⟨rest, hrest, h⟩ := Option.bind_eq_some_iff.mp h
      exact ⟨n, rest, hn, ih.mp hrest, (Option.some.inj h).symm⟩
    · rintro ⟨n, rest, hn, hrest, rfl⟩
      rw [hn, ih.mpr hrest]
      rfl

theorem cons_le_cons_iff {m n : Nat} {ms ns : List Nat} :
    m :: ms ≤ n :: ns ↔ m < n ∨ m = n ∧ ms ≤ ns := by
  rw [← not_lt, ← not_lt, List.cons_lt_cons_iff]
  grind

/-- **Sequences of numbers are compared like lists of numbers.** -/
theorem isLE_compareComponents_iff {as bs : List (List Char)} {ms ns : List Nat}
    (ha : Spell as ms) (hb : Spell bs ns) : (compareComponents as bs).isLE ↔ ms ≤ ns := by
  induction ha generalizing bs ns with
  | nil =>
    have hle : [] ≤ ns := by
      rw [← not_lt]
      exact List.not_lt_nil ns
    refine iff_of_true ?_ hle
    cases hb <;> rfl
  | @cons a m as ms hm _ ih =>
    cases hb with
    | nil =>
      refine iff_of_false Bool.false_ne_true ?_
      rw [not_le]
      exact List.nil_lt_cons m ms
    | @cons b n bs ns hn hb =>
      rw [compareComponents, compareComponent_numbers hm hn, cons_le_cons_iff]
      rcases Nat.lt_trichotomy m n with hlt | rfl | hgt
      · rw [Nat.compare_eq_lt.mpr hlt]
        exact iff_of_true rfl (.inl hlt)
      · rw [Nat.compare_eq_eq.mpr rfl, Ordering.eq_then, ih hb]
        simp
      · rw [Nat.compare_eq_gt.mpr hgt]
        refine iff_of_false Bool.false_ne_true ?_
        omega

theorem isLE_compare_iff {s t : String} {ms ns : List Nat} (hs : numbers? s = some ms)
    (ht : numbers? t = some ns) : (compare s t).isLE ↔ ms ≤ ns :=
  isLE_compareComponents_iff (mapM_number?_eq_some_iff.mp hs) (mapM_number?_eq_some_iff.mp ht)

/-- Nine comes before ten, and a sequence before its continuations. -/
example : numbers? "1. 9" = some [1, 9] ∧ [1, 9] ≤ [1, 10] ∧ [1, 10] ≤ [1, 10, 0] := by
  decide +kernel

end Sequence

namespace Member

/-! ### Sorting by a key -/

section Keys

variable {α β : Type} [LinearOrder β] (key : α → β)

/-- Smaller keys come first. -/
def keyLE (a b : α) : Bool := decide (key a ≤ key b)

theorem keyLE_iff {a b : α} : keyLE key a b ↔ key a ≤ key b := decide_eq_true_iff

theorem keyLE_trans (a b c : α) (hab : keyLE key a b) (hbc : keyLE key b c) : keyLE key a c := by
  rw [keyLE_iff] at hab hbc ⊢
  exact hab.trans hbc

theorem keyLE_total (a b : α) : keyLE key a b || keyLE key b a := by
  rw [Bool.or_eq_true, keyLE_iff, keyLE_iff]
  exact le_total (key a) (key b)

/-- **The sort by a key is stable**: elements with one key stand as they stood before. -/
theorem filter_mergeSort_key [DecidableEq β] (xs : List α) (k : β) :
    (xs.mergeSort (keyLE key)).filter (key · = k) = xs.filter (key · = k) := by
  have hkey : ∀ a ∈ xs.filter (key · = k), key a = k := fun a ha =>
    of_decide_eq_true (List.mem_filter.mp ha).2
  -- the elements with the key are sorted already, so the sort keeps them in their order
  have hsorted : (xs.filter (key · = k)).Pairwise fun a b => keyLE key a b := by
    refine List.pairwise_of_forall_mem_list fun a ha b hb => ?_
    rw [keyLE_iff, hkey a ha, hkey b hb]
  have hsub : (xs.filter (key · = k)).Sublist (xs.mergeSort (keyLE key)) :=
    List.sublist_mergeSort (keyLE_trans key) (keyLE_total key) hsorted List.filter_sublist
  have hsub' : (xs.filter (key · = k)).Sublist ((xs.mergeSort (keyLE key)).filter (key · = k)) := by
    have hself : (xs.filter (key · = k)).filter (key · = k) = xs.filter (key · = k) :=
      List.filter_eq_self.mpr fun a ha => (List.mem_filter.mp ha).2
    rw [← hself]
    exact hsub.filter _
  have hlength := ((List.mergeSort_perm xs (keyLE key)).filter (key · = k)).length_eq
  exact (hsub'.eq_of_length hlength.symm).symm

end Keys

/-! ### Sorting by sequences -/

/-- A sort puts a list in order if the comparison is transitive on the list. -/
theorem pairwise_mergeSort_of_mem {α : Type} {le : α → α → Bool} {xs : List α}
    (htrans : ∀ a ∈ xs, ∀ b ∈ xs, ∀ c ∈ xs, le a b → le b c → le a c)
    (htotal : ∀ a b, le a b || le b a) : (xs.mergeSort le).Pairwise fun a b => le a b := by
  have hmap : (xs.attach.mergeSort fun a b => le a.1 b.1).map Subtype.val =
      (xs.attach.map Subtype.val).mergeSort le :=
    List.map_mergeSort fun _ _ _ _ => rfl
  rw [List.attach_map_subtype_val] at hmap
  rw [← hmap, List.pairwise_map]
  exact List.pairwise_mergeSort (fun a b c => htrans a.1 a.2 b.1 b.2 c.1 c.2)
    (fun a b => htotal a.1 b.1) xs.attach

variable {x y : Member} {xs : List Member}

/-- No three of the members have sequences that are torn. -/
def NoneTorn (xs : List Member) : Prop :=
  ∀ x ∈ xs, ∀ y ∈ xs, ∀ z ∈ xs, ∀ a b c,
    x.sequence? = some a → y.sequence? = some b → z.sequence? = some c →
      ¬ Sequence.Torn (Sequence.components a) (Sequence.components b) (Sequence.components c)

theorem compareSequence_total (a b : Option String) :
    (compareSequence a b).isLE || (compareSequence b a).isLE := by
  cases a with
  | none => cases b <;> rfl
  | some a =>
    cases b with
    | none => rfl
    | some b =>
      show (Sequence.compare a b).isLE || (Sequence.compare b a).isLE
      rw [show Sequence.compare b a = (Sequence.compare a b).swap from
        Sequence.compareComponents_swap _ _]
      cases Sequence.compare a b <;> rfl

/-- Where none are torn, the comparison is transitive. -/
theorem NoneTorn.trans (h : NoneTorn xs) {x y z : Member} (hx : x ∈ xs) (hy : y ∈ xs) (hz : z ∈ xs)
    (hxy : (compareSequence x.sequence? y.sequence?).isLE)
    (hyz : (compareSequence y.sequence? z.sequence?).isLE) :
    (compareSequence x.sequence? z.sequence?).isLE := by
  cases hc : z.sequence? with
  | none => cases x.sequence? <;> rfl
  | some c =>
    cases hb : y.sequence? with
    | none => rw [hb, hc] at hyz; cases hyz
    | some b =>
      cases ha : x.sequence? with
      | none => rw [ha, hb] at hxy; cases hxy
      | some a =>
        rw [ha, hb] at hxy
        rw [hb, hc] at hyz
        refine Ordering.isLE_iff_ne_gt.mpr fun hac => ?_
        rcases Sequence.torn_of_circle (Ordering.isLE_iff_ne_gt.mp hxy)
          (Ordering.isLE_iff_ne_gt.mp hyz) hac with htorn | htorn | htorn
        · exact h x hx y hy z hz a b c ha hb hc htorn
        · exact h y hy z hz x hx b c a hb hc ha htorn
        · exact h z hz x hx y hy c a b hc ha hb htorn

/-- **Members are listed by their sequences where none are torn.** -/
theorem pairwise_inOrder (h : NoneTorn xs) : (inOrder xs).Pairwise fun x y =>
    (compareSequence x.sequence? y.sequence?).isLE :=
  pairwise_mergeSort_of_mem (fun _ hx _ hy _ hz => h.trans hx hy hz)
    fun x y => compareSequence_total x.sequence? y.sequence?

/-! ### Places -/

/-- The numbers of the member's sequence, if it has one and its components are numbers. -/
def numbers? (x : Member) : Option (List Nat) := x.sequence?.bind Sequence.numbers?

/-- If the member has a sequence, its components are numbers. -/
def IsNumbered (x : Member) : Prop := ∀ s, x.sequence? = some s → (Sequence.numbers? s).isSome

/-- The place of a numbered member: the numbers of its sequence, or above all of them. -/
def place (x : Member) : WithTop (List Nat) :=
  match x.numbers? with
  | some numbers => (numbers : WithTop (List Nat))
  | none => ⊤

theorem place_eq_coe_iff {numbers : List Nat} :
    x.place = (numbers : WithTop (List Nat)) ↔ x.numbers? = some numbers := by
  unfold place
  split
  · rename_i own hown
    rw [hown, WithTop.coe_inj, Option.some_inj]
  · rename_i hnone
    rw [hnone]
    exact iff_of_false WithTop.top_ne_coe (Option.some_ne_none _).symm

theorem IsNumbered.place_eq_top_iff (h : x.IsNumbered) : x.place = ⊤ ↔ x.sequence? = none := by
  unfold place
  cases hs : x.sequence? with
  | none => simp [numbers?, hs]
  | some s =>
    obtain ⟨numbers, hnumbers⟩ := Option.isSome_iff_exists.mp (h s hs)
    simp [numbers?, hs, hnumbers]

/-- Numbered members are compared by their places. -/
theorem IsNumbered.isLE_compareSequence_iff (hx : x.IsNumbered) (hy : y.IsNumbered) :
    (compareSequence x.sequence? y.sequence?).isLE ↔ x.place ≤ y.place := by
  cases ht : y.sequence? with
  | none =>
    rw [hy.place_eq_top_iff.mpr ht]
    refine iff_of_true ?_ le_top
    cases x.sequence? <;> rfl
  | some t =>
    obtain ⟨ns, hns⟩ := Option.isSome_iff_exists.mp (hy t ht)
    have hplace : y.place = (ns : WithTop (List Nat)) := by
      rw [place_eq_coe_iff, numbers?, ht]
      exact hns
    cases hs : x.sequence? with
    | none =>
      rw [hx.place_eq_top_iff.mpr hs, hplace, top_le_iff]
      exact iff_of_false Bool.false_ne_true WithTop.coe_ne_top
    | some s =>
      obtain ⟨ms, hms⟩ := Option.isSome_iff_exists.mp (hx s hs)
      have hplace' : x.place = (ms : WithTop (List Nat)) := by
        rw [place_eq_coe_iff, numbers?, hs]
        exact hms
      rw [hplace, hplace', WithTop.coe_le_coe]
      exact Sequence.isLE_compare_iff hms hns

/-- The sequences of numbered members are not torn. -/
theorem noneTorn_of_numbered (h : ∀ x ∈ xs, x.IsNumbered) : NoneTorn xs := by
  intro x _ y hy z _ a b c _ hb _
  obtain ⟨numbers, hnumbers⟩ := Option.isSome_iff_exists.mp (h y hy b hb)
  exact Sequence.not_torn_of_numbers (Sequence.mapM_number?_eq_some_iff.mp hnumbers).isSome

theorem inOrder_eq_mergeSort_place (h : ∀ x ∈ xs, x.IsNumbered) :
    inOrder xs = xs.mergeSort (keyLE place) := by
  have hsame : ∀ x ∈ xs, ∀ y ∈ xs,
      (compareSequence x.sequence? y.sequence?).isLE = keyLE place x y := by
    intro x hx y hy
    rw [Bool.eq_iff_iff, keyLE_iff]
    exact (h x hx).isLE_compareSequence_iff (h y hy)
  have hmap := List.map_mergeSort (f := fun x => x) hsame
  rwa [List.map_id', List.map_id'] at hmap

/-- The members are listed in the order of their places. -/
structure Arranged (found listed : List Member) : Prop where
  numbered : ∀ x ∈ found, x.IsNumbered
  perm : listed.Perm found
  given_first : listed.Pairwise fun x y => y.sequence?.isSome → x.sequence?.isSome
  ascending : listed.Pairwise fun x y =>
    ∀ ms ns, x.numbers? = some ms → y.numbers? = some ns → ms ≤ ns
  equal_as_found : ∀ numbers,
    listed.filter (·.numbers? = some numbers) = found.filter (·.numbers? = some numbers)
  others_as_found : listed.filter (·.sequence? = none) = found.filter (·.sequence? = none)

/-- **Numbered members are listed in the order of their places.** -/
theorem arranged_inOrder (h : ∀ x ∈ xs, x.IsNumbered) : Arranged xs (inOrder xs) := by
  have hperm : (inOrder xs).Perm xs := perm_inOrder xs
  have hnumbered : ∀ x ∈ inOrder xs, x.IsNumbered := fun x hx => h x (hperm.subset hx)
  have hsorted : (inOrder xs).Pairwise fun x y => x.place ≤ y.place :=
    (pairwise_inOrder (noneTorn_of_numbered h)).imp_of_mem fun hx hy =>
      ((hnumbered _ hx).isLE_compareSequence_iff (hnumbered _ hy)).mp
  have hstable : ∀ p, (inOrder xs).filter (place · = p) = xs.filter (place · = p) := by
    intro p
    rw [inOrder_eq_mergeSort_place h]
    exact filter_mergeSort_key place xs p
  refine ⟨h, hperm, ?_, ?_, fun numbers => ?_, ?_⟩
  · refine hsorted.imp_of_mem fun {x y} hx hy hle hgiven => ?_
    rw [Option.isSome_iff_ne_none] at hgiven ⊢
    intro hnone
    have htop : x.place = ⊤ := (hnumbered x hx).place_eq_top_iff.mpr hnone
    rw [htop, top_le_iff] at hle
    exact hgiven ((hnumbered y hy).place_eq_top_iff.mp hle)
  · refine hsorted.imp fun {x y} hle ms ns hms hns => ?_
    rwa [place_eq_coe_iff.mpr hms, place_eq_coe_iff.mpr hns, WithTop.coe_le_coe] at hle
  · have hplace := hstable (numbers : WithTop (List Nat))
    simp only [place_eq_coe_iff] at hplace
    exact hplace
  · have hplace := hstable ⊤
    have htop : ∀ ys : List Member, (∀ y ∈ ys, y.IsNumbered) →
        ys.filter (place · = ⊤) = ys.filter (·.sequence? = none) := fun ys hys =>
      List.filter_congr fun y hy => decide_eq_decide.mpr (hys y hy).place_eq_top_iff
    rwa [htop _ hnumbered, htop _ h] at hplace

end Member

/-! ### Where a sequence comes from -/

/-- The sequence that a method gives to the member that it becomes. -/
def Method.sequence? (m : Method) : Option String :=
  (m.annotation? "MemberOrder").bind Analysis.sequence?

/-- The sequence among the facets of a member. -/
def FacetHolder.sequence? (h : FacetHolder) : Option String :=
  match h.data? .memberOrder with
  | some (.memberOrder sequence _) => some sequence
  | _ => none

/-- The factory for the order of members attaches the sequence that the method gives, if any. -/
theorem Analysis.sequence?_memberOrder (m : MemberContext) (a : Analysis) :
    (a.memberOrder m).facets.sequence? = m.method.sequence?.or a.facets.sequence? := by
  unfold memberOrder Method.sequence?
  cases hmark : m.method.annotation? "MemberOrder" with
  | none => rfl
  | some mark =>
    cases hsequence : Analysis.sequence? mark with
    | none => simp [hsequence, report]
    | some s =>
      simp [hsequence, FacetHolder.sequence?, FacetHolder.data?, attach, FacetHolder.attach,
        FacetHolder.put, Facet.kind]

namespace Factory

/-- No other factory attaches a sequence. -/
theorem sequence?_onMember {f : Factory} (hf : f ≠ .memberOrder) (env : Environment)
    (m : MemberContext) (a : Analysis) :
    (f.onMember env m a).facets.sequence? = a.facets.sequence? := by
  have hkind : .memberOrder ∉ f.kinds := by
    cases f <;> simp [kinds] at hf ⊢
  have hkeep := (f.progress_onMember env m a).facets .memberOrder hkind
  rw [FacetHolder.sequence?, FacetHolder.data?, hkeep]
  rfl

theorem sequence?_foldl_onMember (env : Environment) (m : MemberContext) (factories : List Factory)
    (a : Analysis) :
    (factories.foldl (fun a f => f.onMember env m a) a).facets.sequence? =
      if .memberOrder ∈ factories then m.method.sequence?.or a.facets.sequence?
      else a.facets.sequence? := by
  induction factories generalizing a with
  | nil => rfl
  | cons f factories ih =>
    rw [List.foldl_cons, ih]
    by_cases hf : f = .memberOrder
    · subst hf
      have hturn : (Factory.memberOrder.onMember env m a).facets.sequence? =
          m.method.sequence?.or a.facets.sequence? := a.sequence?_memberOrder m
      rw [hturn, if_pos List.mem_cons_self]
      split
      · cases m.method.sequence? <;> rfl
      · rfl
    · have hmem : .memberOrder ∈ f :: factories ↔ .memberOrder ∈ factories := by
        simp [Ne.symm hf]
      simp only [hmem, sequence?_onMember hf]

end Factory

namespace Introspection

variable (model : ProgrammingModel) (env : Environment)

/-- **A member has the sequence that its method gives**, unless the factory is left out. -/
theorem sequence?_member {m : MemberContext} (hm : m.feature ∈ Feature.members) (a : Analysis) :
    (member model env m a).1.sequence? =
      if .memberOrder ∈ model.factories then m.method.sequence? else none := by
  have hmem : .memberOrder ∈ model.factoriesFor m.feature ↔ .memberOrder ∈ model.factories := by
    have happlies : Factory.memberOrder.appliesTo m.feature := by
      simpa [Factory.appliesTo, Factory.features] using hm
    rw [ProgrammingModel.factoriesFor, List.mem_filter, and_iff_left happlies]
  have hrun := Factory.sequence?_foldl_onMember env m (model.factoriesFor m.feature)
    (a.turnTo (.ofMember m.owner.name m.id))
  have hempty : (a.turnTo (.ofMember m.owner.name m.id)).facets.sequence? = none := rfl
  rw [hempty, Option.or_none] at hrun
  simp only [hmem] at hrun
  exact hrun

/-! ### What is discovered -/

/-- The members of a kind as they are discovered, with the places of their methods. -/
def discovered (i : Introspection) (feature : Feature) : List (Nat × Member) :=
  (i.associations ++ i.actions).filter (·.2.feature == feature)

variable (c : Class)

theorem feature_of_mem_associations {found : Nat × Member}
    (h : found ∈ (ofClass model env c).associations) :
    found.2.feature = .property ∨ found.2.feature = .collection := by
  obtain ⟨m, -, -, -, -, hfeature⟩ := isRead_of_mem_associations model env c h
  rw [hfeature, featureOf]
  split
  · exact .inr rfl
  · exact .inl rfl

theorem feature_of_mem_actions {found : Nat × Member} (h : found ∈ (ofClass model env c).actions) :
    found.2.feature = .action := by
  obtain ⟨m, -, -, -, -, hfeature⟩ := isAction_of_mem_actions model env c h
  exact hfeature

theorem filter_actions_eq_self : (ofClass model env c).actions.filter (·.2.feature == .action) =
    (ofClass model env c).actions := by
  refine List.filter_eq_self.mpr fun found hfound => ?_
  simp [feature_of_mem_actions model env c hfound]

/-- Actions are discovered apart from properties and collections. -/
theorem discovered_eq (feature : Feature) :
    discovered (ofClass model env c) feature =
      if feature = .action then (ofClass model env c).actions
      else (ofClass model env c).associations.filter (·.2.feature == feature) := by
  rw [discovered, List.filter_append]
  split
  · subst feature
    have hnone : (ofClass model env c).associations.filter (·.2.feature == .action) = [] := by
      refine List.filter_eq_nil_iff.mpr fun found hfound => ?_
      rcases feature_of_mem_associations model env c hfound with h | h <;> simp [h]
    rw [hnone, filter_actions_eq_self, List.nil_append]
  · rename_i hne
    have hnone : (ofClass model env c).actions.filter (·.2.feature == feature) = [] := by
      refine List.filter_eq_nil_iff.mpr fun found hfound => ?_
      simp [feature_of_mem_actions model env c hfound, Ne.symm hne]
    rw [hnone, List.append_nil]

/-- Whatever becomes of the candidates, those that become actions keep their order. -/
theorem sublist_places_actionsOf (classFacets : FacetHolder) (entries : List (Nat × Method))
    (a : Analysis) :
    ((actionsOf model env c classFacets entries a).1.map (·.1)).Sublist (entries.map (·.1)) := by
  induction entries generalizing a with
  | nil => exact List.Sublist.refl _
  | cons e entries ih =>
    obtain ⟨index, method⟩ := e
    unfold actionsOf
    split
    · exact (ih _).cons_cons index
    · exact (ih a).cons index

/-- **Members are discovered in the order of the declaration.** -/
theorem pairwise_discovered (feature : Feature) :
    (discovered (ofClass model env c) feature).Pairwise (·.1 < ·.1) := by
  have hassociations : (ofClass model env c).associations.Pairwise (·.1 < ·.1) := by
    have haccessors : (accessors model env c).Pairwise (·.1 < ·.1) :=
      ascending_of_sublist (pool_accessors model env c)
    rw [← List.pairwise_map] at haccessors ⊢
    rw [places_associations]
    exact haccessors
  have hactions : (ofClass model env c).actions.Pairwise (·.1 < ·.1) := by
    have hcandidates : (candidates model env c).Pairwise (·.1 < ·.1) :=
      ascending_of_sublist (pool_candidates model env c)
    rw [← List.pairwise_map] at hcandidates ⊢
    exact hcandidates.sublist (sublist_places_actionsOf model env c _ _ _)
  rw [discovered_eq]
  split
  · exact hactions
  · exact hassociations.filter _

/-- A discovered member is made of a method of the class, and has the sequence that it gives. -/
theorem exists_method_of_mem_discovered {feature : Feature} {place : Nat} {x : Member}
    (h : (place, x) ∈ discovered (ofClass model env c) feature) :
    ∃ m, c.methods[place]? = some m ∧ x.method = m.name ∧
      x.sequence? = if .memberOrder ∈ model.factories then m.sequence? else none := by
  have hfound := (List.mem_filter.mp h).1
  have hfeature : x.feature ∈ Feature.members := by
    rcases List.mem_append.mp hfound with hfound | hfound
    · rcases feature_of_mem_associations model env c hfound with hx | hx
      · exact hx ▸ by decide
      · exact hx ▸ by decide
    · have hx := feature_of_mem_actions model env c hfound
      exact hx ▸ by decide
  obtain ⟨m, hm, -, a, hx⟩ := madeOf_members model env c _ hfound
  obtain rfl : x = (member model env m a).1 := hx
  exact ⟨m.method, MethodPool.getElem?_of_mem_ofClass hm, rfl,
    sequence?_member model env hfeature a⟩

/-- Each list of a specification holds the members of a kind in their order. -/
theorem listed_eq {feature : Feature} {listed : List Member}
    (h : (feature, listed) ∈
      [(Feature.property, ((ofClass model env c).specification c).properties),
        (.collection, ((ofClass model env c).specification c).collections),
        (.action, ((ofClass model env c).specification c).actions)]) :
    listed = Member.inOrder ((discovered (ofClass model env c) feature).map (·.2)) := by
  have hmembers : ∀ (members : List (Nat × Member)) (feature : Feature),
      membersOf members feature =
        Member.inOrder ((members.filter (·.2.feature == feature)).map (·.2)) := by
    intro members feature
    rw [membersOf, List.filter_map]
    rfl
  rw [discovered_eq]
  simp only [List.mem_cons, Prod.mk.injEq, List.not_mem_nil, or_false] at h
  rcases h with ⟨rfl, rfl⟩ | ⟨rfl, rfl⟩ | ⟨rfl, rfl⟩
  · exact hmembers _ _
  · exact hmembers _ _
  · rw [if_pos rfl, ← filter_actions_eq_self]
    exact hmembers _ _

/-- **Members are listed by their sequences.** In a class whose methods give sequences of numbers
only, each list of the specification holds the members of its kind that were discovered: those with a
sequence first, with smaller sequences before greater ones, and those with equal sequences, like those
without one, as they were discovered, which is in the order of the declaration. Each member has the
sequence that its own method gives. -/
theorem numbered_members_arranged (model : ProgrammingModel) (env : Environment) (c : Class)
    (hnumbers : ∀ m ∈ c.methods, ∀ s, m.sequence? = some s → (Sequence.numbers? s).isSome)
    (feature : Feature) (listed : List Member)
    (hlisted : (feature, listed) ∈
      [(Feature.property, ((ofClass model env c).specification c).properties),
        (.collection, ((ofClass model env c).specification c).collections),
        (.action, ((ofClass model env c).specification c).actions)]) :
    Member.Arranged ((discovered (ofClass model env c) feature).map (·.2)) listed ∧
      (discovered (ofClass model env c) feature).Pairwise (·.1 < ·.1) ∧
      ∀ place x, (place, x) ∈ discovered (ofClass model env c) feature →
        ∃ m, c.methods[place]? = some m ∧ x.method = m.name ∧
          x.sequence? = if .memberOrder ∈ model.factories then m.sequence? else none := by
  refine ⟨?_, pairwise_discovered model env c feature,
    fun place x => exists_method_of_mem_discovered model env c⟩
  rw [listed_eq model env c hlisted]
  refine Member.arranged_inOrder fun x hx s hs => ?_
  obtain ⟨⟨place, x⟩, hfound, rfl⟩ := List.mem_map.mp hx
  obtain ⟨m, hm, -, hsequence⟩ := exists_method_of_mem_discovered model env c hfound
  have hgiven : m.sequence? = some s := by
    rw [hsequence] at hs
    split at hs
    · exact hs
    · cases hs
  exact hnumbers m (List.mem_of_getElem? hm) s hgiven

/-- A getter with a sequence. -/
def placed (name : String) (sequence : Json) : Method :=
  { Method.named name with
    returnType := .simple "java.lang.String"
    annotations := [.withAttr (.named "MemberOrder") "sequence" sequence] }

/-- An invoice whose properties have sequences, one of them twice, and a property without one. -/
def invoice : Class :=
  { Class.named "shop.Invoice" with
    methods := [{ Method.named "getNote" with returnType := .simple "java.lang.String" },
      placed "getDue" (.string "1.10"), placed "getIssued" (.string "1.9"),
      placed "getBuyer" (.string "01. 9"), placed "getNumber" (.number (.natural 1))] }

theorem invoice_arranged :
    let i := ofClass .standard plainEnvironment invoice
    (∀ m ∈ invoice.methods, ∀ s, m.sequence? = some s → (Sequence.numbers? s).isSome) ∧
      (discovered i .property).map (fun found => (found.2.id, found.2.sequence?)) =
        [("note", none), ("due", some "1.10"), ("issued", some "1.9"), ("buyer", some "01. 9"),
          ("number", some "1")] ∧
      Member.Arranged ((discovered i .property).map (·.2))
        (i.specification invoice).properties := by
  have hnumbers : ∀ m ∈ invoice.methods, ∀ s, m.sequence? = some s →
      (Sequence.numbers? s).isSome := by
    have hall : ∀ m ∈ invoice.methods, m.sequence?.all fun s => (Sequence.numbers? s).isSome := by
      decide +kernel
    intro m hm s hs
    have hm := hall m hm
    rwa [hs] at hm
  refine ⟨hnumbers, by decide +kernel, ?_⟩
  exact (numbered_members_arranged .standard plainEnvironment invoice hnumbers .property _
    List.mem_cons_self).1

end Introspection
end Facetry
