/-
# The class behind a proxy

A class gives way to its superclass if it is a proxy, or the body of a constant of an enumeration.
From a class that gives way a walk goes on to the superclass, and stops at the first class that does
not. A substitution follows this walk: from an array it first takes the `[]` off, one in each step,
then it walks, and in the end it puts the `[]` back. If its steps suffice, it finds the class where
the walk stops, unless a name that it comes past is skipped.

The names that it comes past are those of the arrays, from the outermost to the innermost, and those
of the classes of the walk.

Key definitions: `Substitutor.GivesWay`, `Substitutor.Walk`, `Substitutor.skipsOnWay`.
Key theorems: `Substitutor.Walk.resolve_eq`, `Substitutor.resolve_arrayName`,
`Substitutor.substitute_finds_class`.
-/
import Facetry.Proofs.Substitution

namespace Facetry
namespace Substitutor

open TypeRef (componentName?)
open Loader (arrayName)

variable {s : Substitutor} {r : Repository} {base name last : String} {above : List String}

/-! ### Walks -/

/-- Whether the class is known and gives way to its superclass: as a proxy, or because it is no
enumeration itself and stands directly below one. -/
def GivesWay (s : Substitutor) (r : Repository) (name superclass : String) : Prop :=
  ∃ c, r.get? name = some c ∧ c.superclass = some superclass ∧
    (s.isProxy c ∨ (c.kind ≠ .enum ∧ r.isEnum superclass))

/-- The walk from a class: the superclasses that it comes to, and where it stops. -/
inductive Walk (s : Substitutor) (r : Repository) : String → List String → String → Prop
  | stop {name : String} (stays : ∀ superclass, ¬ s.GivesWay r name superclass) :
    Walk s r name [] name
  | climb {name superclass last : String} {above : List String}
    (givesWay : s.GivesWay r name superclass) (rest : Walk s r superclass above last) :
    Walk s r name (superclass :: above) last

/-- From a name that is not of an array, a substitution goes on to what the class gives way to. -/
theorem givesWay_iff (hname : componentName? name = none) {superclass : String} :
    s.GivesWay r name superclass ↔ s.next? r name = some superclass := by
  simp only [next?, hname, Option.none_or, Option.bind_eq_some_iff, Option.filter_eq_some_iff,
    GivesWay, standsForSuperclass, Bool.or_eq_true, Bool.and_eq_true, bne_iff_ne]
  exact exists_congr fun c => and_congr_right fun _ => and_congr_right fun _ => or_comm

theorem next?_eq_none (hname : componentName? name = none)
    (hstays : ∀ superclass, ¬ s.GivesWay r name superclass) : s.next? r name = none :=
  Option.eq_none_iff_forall_ne_some.mpr fun superclass hnext =>
    hstays superclass ((givesWay_iff hname).mpr hnext)

/-- Where a walk stops, the class gives way to nothing. -/
theorem Walk.stays (h : s.Walk r base above last) (superclass : String) :
    ¬ s.GivesWay r last superclass := by
  induction h with
  | stop hstays => exact hstays superclass
  | climb _ _ ih => exact ih

/-- **A substitution with steps enough for the walk finds where it stops**, unless a class on the
walk is skipped. -/
theorem Walk.resolve_eq (h : s.Walk r base above last)
    (hplain : ∀ name ∈ base :: above, componentName? name = none) {steps : Nat}
    (hsteps : above.length ≤ steps) :
    s.resolve r steps base = if (base :: above).any s.isSkipped then none else some last := by
  induction h generalizing steps with
  | @stop name hstays =>
    have hname := hplain name List.mem_cons_self
    cases hskipped : s.isSkipped name with
    | true => simp [resolve_of_isSkipped hskipped, hskipped]
    | false =>
      rw [resolve_of_next?_eq_none hskipped (next?_eq_none hname hstays)]
      simp [hskipped]
  | @climb name superclass last above hway _ ih =>
    obtain ⟨hname, habove⟩ := List.forall_mem_cons.mp hplain
    obtain ⟨steps, rfl⟩ : ∃ k, steps = k + 1 :=
      ⟨steps - 1, by rw [List.length_cons] at hsteps; omega⟩
    cases hskipped : s.isSkipped name with
    | true => simp [resolve_of_isSkipped hskipped, hskipped]
    | false =>
      rw [resolve_of_next? hskipped hname ((givesWay_iff hname).mp hway),
        ih habove (Nat.le_of_succ_le_succ hsteps), List.any_cons (a := name), hskipped,
        Bool.false_or]

/-! ### Array suffixes -/

/-- **A substitution takes the `[]` off and puts it back**, as often as it stands there, unless an
array is skipped. -/
theorem resolve_arrayName (s : Substitutor) (r : Repository) (base : String) (steps depth : Nat) :
    s.resolve r (steps + depth) (arrayName base depth) =
      if (List.range depth).any fun d => s.isSkipped (arrayName base (d + 1)) then none
      else (s.resolve r steps base).map (arrayName · depth) := by
  induction depth with
  | zero =>
    rw [List.range_zero, List.any_nil, if_neg Bool.false_ne_true]
    exact Option.map_id'.symm
  | succ depth ih =>
    rw [List.range_succ, List.any_append, List.any_cons, List.any_nil, Bool.or_false]
    cases hskipped : s.isSkipped (arrayName base (depth + 1)) with
    | true => rw [resolve_of_isSkipped hskipped, Bool.or_true, if_pos rfl]
    | false =>
      rw [arrayName, ← Nat.add_assoc, resolve_append hskipped, ih, Bool.or_false]
      split
      · rfl
      · rw [Option.map_map]
        rfl

/-- Whether an array or a class is skipped that a substitution comes past: the array itself, what is
left of it when `[]` is taken off, down to the class, or a class on the walk. -/
def skipsOnWay (s : Substitutor) (base : String) (depth : Nat) (above : List String) : Bool :=
  (List.range (depth + 1)).any (fun d => s.isSkipped (arrayName base d)) || above.any s.isSkipped

theorem skipsOnWay_iff {depth : Nat} :
    s.skipsOnWay base depth above ↔
      (∃ d ≤ depth, s.isSkipped (arrayName base d)) ∨ ∃ name ∈ above, s.isSkipped name := by
  simp only [skipsOnWay, Bool.or_eq_true, List.any_eq_true, List.mem_range, Nat.lt_succ_iff]

/-- What a substitution finds that has steps enough for the array suffixes and the walk. -/
theorem Walk.substitute_eq (h : s.Walk r base above last)
    (hplain : ∀ name ∈ base :: above, componentName? name = none) (depth : Nat)
    (hsteps : depth + above.length ≤ maxSteps) :
    s.substitute r (arrayName base depth) =
      if s.skipsOnWay base depth above then none else some (arrayName last depth) := by
  have hsplit : maxSteps = (maxSteps - depth) + depth := by omega
  have hskips : s.skipsOnWay base depth above =
      (((List.range depth).any fun d => s.isSkipped (arrayName base (d + 1))) ||
        (base :: above).any s.isSkipped) := by
    rw [skipsOnWay, List.range_succ_eq_map, List.any_cons, List.any_map, List.any_cons,
      Bool.or_right_comm, Bool.or_comm]
    rfl
  rw [substitute, hsplit, resolve_arrayName, h.resolve_eq hplain (by omega), hskips]
  cases (List.range depth).any fun d => s.isSkipped (arrayName base (d + 1)) with
  | true => rfl
  | false =>
    rw [if_neg Bool.false_ne_true, Bool.false_or]
    split <;> rfl

/-! ### What is found -/

/-- **A substitution finds the class behind a proxy.** Take a class that is not of arrays, from
which a walk comes past no array, and an array of it, such that fewer than 32 steps lead past the
array suffixes and along the walk. Nothing is found exactly if the array is skipped, or what is left
of it when some of its suffixes are taken off, or a class on the walk; otherwise the array is found,
with as many suffixes, of the class where the walk stops. A class that is found, with no suffix,
gives way to nothing. A name that the repository does not know stands for itself, unless it is
skipped. -/
theorem substitute_finds_class (s : Substitutor) (r : Repository) :
    (∀ (base last : String) (above : List String) (depth : Nat), componentName? base = none →
      s.Walk r base above last → (∀ name ∈ above, componentName? name = none) →
      depth + above.length < maxSteps →
      (s.substitute r (arrayName base depth) = none ↔
        (∃ d ≤ depth, s.isSkipped (arrayName base d)) ∨ ∃ name ∈ above, s.isSkipped name) ∧
      (∀ found, s.substitute r (arrayName base depth) = some found →
        found = arrayName last depth) ∧
      ∀ found superclass, s.substitute r base = some found → ¬ s.GivesWay r found superclass) ∧
    ∀ name, r.get? name = none →
      s.substitute r name = if s.isSkipped name then none else some name := by
  refine ⟨fun base last above depth hbase hwalk habove hsteps => ?_, fun name hname => ?_⟩
  · have hplain : ∀ name ∈ base :: above, componentName? name = none :=
      List.forall_mem_cons.mpr ⟨hbase, habove⟩
    have heq := hwalk.substitute_eq hplain depth (Nat.le_of_lt hsteps)
    have hclass := hwalk.substitute_eq hplain 0 (by omega)
    refine ⟨?_, fun found hfound => ?_, fun found superclass hfound => ?_⟩
    · rw [heq, ← skipsOnWay_iff]
      cases s.skipsOnWay base depth above <;> simp
    · rw [heq] at hfound
      split at hfound
      · cases hfound
      · exact (Option.some.inj hfound).symm
    · have hfound : s.substitute r (arrayName base 0) = some found := hfound
      rw [hclass] at hfound
      split at hfound
      · cases hfound
      · obtain rfl : last = found := Option.some.inj hfound
        exact hwalk.stays superclass
  · have hcomponent : componentName? name = none := by
      rw [Repository.get?] at hname
      split at hname
      · cases hname
      · exact Option.map_eq_none_iff.mp hname
    have hstays : ∀ superclass, ¬ s.GivesWay r name superclass := by
      rintro superclass ⟨c, hc, -⟩
      rw [hname] at hc
      cases hc
    have hwalk := (Walk.stop hstays).resolve_eq (by simpa using hcomponent)
      (Nat.zero_le maxSteps)
    simpa [substitute] using hwalk

/-- An enumeration, the body of one of its constants, and a proxy of that. -/
def statuses : Repository :=
  .ofModel
    ⟨[{ Class.named "shop.Status" with kind := .enum, superclass := some "java.lang.Enum" },
      { Class.named "shop.Status$1" with superclass := some "shop.Status" },
      { Class.named "shop.Status$1$HibernateProxy$7" with
        superclass := some "shop.Status$1" }], none⟩

/-- Arrays of arrays of the proxy stand for arrays of arrays of the enumeration, and an unknown name
stands for itself. -/
theorem substitute_finds_enumeration :
    componentName? "shop.Status$1$HibernateProxy$7" = none ∧
      standard.Walk statuses "shop.Status$1$HibernateProxy$7" ["shop.Status$1", "shop.Status"]
        "shop.Status" ∧
      (∀ name ∈ ["shop.Status$1", "shop.Status"], componentName? name = none) ∧
      standard.substitute statuses "shop.Status$1$HibernateProxy$7[][]" = some "shop.Status[][]" ∧
      standard.substitute statuses "shop.Status$1$HibernateProxy$7" = some "shop.Status" ∧
      (∀ superclass, ¬ standard.GivesWay statuses "shop.Status" superclass) ∧
      statuses.get? "shop.Order" = none ∧
      standard.substitute statuses "shop.Order" = some "shop.Order" := by
  have hproxy : componentName? "shop.Status$1$HibernateProxy$7" = none := by decide +kernel
  have habove : ∀ name ∈ ["shop.Status$1", "shop.Status"], componentName? name = none := by
    decide +kernel
  have hlast : ∀ superclass, ¬ standard.GivesWay statuses "shop.Status" superclass := by
    intro superclass hway
    have hnone : standard.next? statuses "shop.Status" = none := by decide +kernel
    rw [(givesWay_iff (habove _ (by simp))).mp hway] at hnone
    cases hnone
  have hwalk : standard.Walk statuses "shop.Status$1$HibernateProxy$7"
      ["shop.Status$1", "shop.Status"] "shop.Status" :=
    .climb ((givesWay_iff hproxy).mpr (by decide +kernel))
      (.climb ((givesWay_iff (habove _ (by simp))).mpr (by decide +kernel)) (.stop hlast))
  have hunknown : statuses.get? "shop.Order" = none := by decide +kernel
  obtain ⟨hbehind, hself⟩ := substitute_finds_class standard statuses
  obtain ⟨hnone, hfound, hstays⟩ := hbehind _ _ _ 2 hproxy hwalk habove (by decide)
  have hfree : ¬ ((∃ d ≤ 2, standard.isSkipped (arrayName "shop.Status$1$HibernateProxy$7" d)) ∨
      ∃ name ∈ ["shop.Status$1", "shop.Status"], standard.isSkipped name) := by decide +kernel
  obtain ⟨found, harray⟩ := Option.ne_none_iff_exists'.mp ((not_congr hnone).mpr hfree)
  obtain rfl := hfound found harray
  have hclass : standard.substitute statuses "shop.Status$1$HibernateProxy$7" =
      some "shop.Status" := by decide +kernel
  refine ⟨hproxy, hwalk, habove, harray, hclass, fun superclass => hstays _ superclass hclass,
    hunknown, ?_⟩
  rw [hself _ hunknown]
  decide +kernel

end Substitutor
end Facetry
