/-
# What a class stands for stands for itself

The walk of a substitution goes from an array to its component, and from a class that
stands for its superclass to that superclass. A walk that ends by itself has come to a
class that stands for itself. A second walk, from what the first has found, takes the
array suffixes off again and comes to the same class; it needs no more steps than the
first. So a substitution changes nothing the second time, with two exceptions.

An array is looked up among the skipped classes before its component is replaced. The
array that comes out is looked up for the first time when it is substituted itself,
and if it is skipped, nothing is found then. And a walk that is cut off, in a circle or
in a chain of proxies that is too long, stops at a class that stands for another one,
so that a second walk goes on from there.

Key definitions: `Substitutor.next?`, `Substitutor.endsWithin`, `Substitutor.skipsPart`,
`Substitutor.Idempotent`.
Key theorems: `Substitutor.resolve_of_endsWithin`, `Substitutor.idempotent_of_classes`,
`Substitutor.substitute_substitute`.
-/
import Facetry.Proofs.LoadingScope

namespace Facetry

theorem Loader.arrayDepth_of_componentName? {name : String}
    (h : TypeRef.componentName? name = none) : arrayDepth name = 0 := by
  unfold arrayDepth splitArray
  split
  · rename_i rest hreverse
    simp [TypeRef.componentName?, hreverse] at h
  · rfl

namespace Substitutor

open TypeRef (componentName?)
open Loader (arrayDepth arrayName)

/-- The name to which a walk goes on from `name`: the component of an array, or the superclass
that the class stands for. -/
def next? (s : Substitutor) (r : Repository) (name : String) : Option String :=
  (componentName? name).or
    ((r.get? name).bind fun c => c.superclass.filter (s.standsForSuperclass r c))

/-- Whether the walk from `name` ends by itself within `steps` steps. -/
def endsWithin (s : Substitutor) (r : Repository) : Nat → String → Bool
  | 0, name => (s.next? r name).isNone
  | steps + 1, name =>
    match s.next? r name with
    | none => true
    | some next => s.endsWithin r steps next

/-- Whether the class, or a class that it is the array of, is skipped. -/
def skipsPart (s : Substitutor) (name : String) : Bool :=
  (List.range (arrayDepth name + 1)).any fun depth =>
    s.isSkipped (arrayName (Loader.baseName name) depth)

variable {s : Substitutor} {r : Repository} {name found : String}

/-! ### Skipped parts -/

theorem baseName_of_componentName? (h : componentName? name = none) :
    Loader.baseName name = name := by
  have hname := Loader.arrayName_baseName name
  rwa [Loader.arrayDepth_of_componentName? h, arrayName] at hname

theorem skipsPart_append (s : Substitutor) (component : String) :
    s.skipsPart (component ++ "[]") =
      (s.skipsPart component || s.isSkipped (component ++ "[]")) := by
  have hlast : arrayName (Loader.baseName component) (arrayDepth component + 1) =
      component ++ "[]" := by
    rw [arrayName, Loader.arrayName_baseName]
  simp only [skipsPart, Loader.arrayDepth_append, Loader.baseName_append]
  rw [List.range_succ, List.any_append, List.any_cons, List.any_nil, Bool.or_false, hlast]

theorem skipsPart_of_componentName? (s : Substitutor) (h : componentName? name = none) :
    s.skipsPart name = s.isSkipped name := by
  rw [skipsPart, Loader.arrayDepth_of_componentName? h, baseName_of_componentName? h]
  simp [arrayName]

/-! ### The steps of a walk -/

theorem next?_append (s : Substitutor) (r : Repository) (component : String) :
    s.next? r (component ++ "[]") = some component := by
  rw [next?, TypeRef.componentName?_eq_some_iff.mpr rfl, Option.some_or]

theorem next?_eq_none_iff :
    s.next? r name = none ↔ componentName? name = none ∧
      ∀ c superclass, r.get? name = some c → c.superclass = some superclass →
        s.standsForSuperclass r c superclass = false := by
  simp only [next?, Option.or_eq_none_iff, Option.bind_eq_none_iff, Option.filter_eq_none_iff,
    Bool.not_eq_true]
  exact and_congr_right fun _ =>
    ⟨fun h c superclass hc => h c hc superclass, fun h c hc superclass => h c superclass hc⟩

theorem resolve_of_isSkipped (h : s.isSkipped name) (steps : Nat) :
    s.resolve r steps name = none := by
  cases steps <;> simp [resolve, h]

/-- From an array a walk goes on from its component, and puts the `[]` back. -/
theorem resolve_append {component : String} (h : s.isSkipped (component ++ "[]") = false)
    (steps : Nat) :
    s.resolve r (steps + 1) (component ++ "[]") =
      (s.resolve r steps component).map (· ++ "[]") := by
  have hcomponent : componentName? (component ++ "[]") = some component :=
    TypeRef.componentName?_eq_some_iff.mpr rfl
  simp [resolve, h, hcomponent]

/-- From a class that stands for its superclass a walk goes on from there. -/
theorem resolve_of_next? {next : String} (h : s.isSkipped name = false)
    (hname : componentName? name = none) (hnext : s.next? r name = some next) (steps : Nat) :
    s.resolve r (steps + 1) name = s.resolve r steps next := by
  rw [next?, hname, Option.none_or] at hnext
  obtain ⟨c, hc, hsuper⟩ := Option.bind_eq_some_iff.mp hnext
  obtain ⟨hsuper, hstands⟩ := Option.filter_eq_some_iff.mp hsuper
  simp [resolve, h, hname, hc, hsuper, hstands]

/-- Where a walk does not go on, it has found what it looks for. -/
theorem resolve_of_next?_eq_none (h : s.isSkipped name = false) (hnext : s.next? r name = none)
    (steps : Nat) : s.resolve r steps name = some name := by
  obtain ⟨hname, hself⟩ := next?_eq_none_iff.mp hnext
  cases steps with
  | zero => simp [resolve, h]
  | succ steps =>
    cases hc : r.get? name with
    | none => simp [resolve, h, hname, hc]
    | some c =>
      cases hsuper : c.superclass with
      | none => simp [resolve, h, hname, hc, hsuper]
      | some superclass => simp [resolve, h, hname, hc, hsuper, hself c superclass hc hsuper]

/-- A class that a walk comes past is not skipped. -/
theorem isSkipped_of_resolve {steps : Nat} (h : s.resolve r steps name = some found) :
    s.isSkipped name = false := by
  refine Bool.eq_false_iff.mpr fun hskipped => ?_
  rw [resolve_of_isSkipped hskipped] at h
  cases h

/-! ### The second walk -/

/-- **A walk from what an ended walk has found ends there again**, unless that is skipped or an
array of what is skipped. -/
theorem resolve_of_endsWithin {steps : Nat} (hends : s.endsWithin r steps name)
    (h : s.resolve r steps name = some found) {more : Nat} (hmore : steps ≤ more) :
    s.resolve r more found = if s.skipsPart found then none else some found := by
  have hfree := isSkipped_of_resolve h
  -- the walk is followed by its steps: each goes on from a component or a superclass, or ends
  induction steps generalizing name found more with
  | zero =>
    have hnext : s.next? r name = none := by simpa [endsWithin] using hends
    rw [resolve_of_next?_eq_none hfree hnext] at h
    cases h
    rw [skipsPart_of_componentName? s (next?_eq_none_iff.mp hnext).1, hfree,
      resolve_of_next?_eq_none hfree hnext]
    rfl
  | succ steps ih =>
    cases hnext : s.next? r name with
    | none =>
      rw [resolve_of_next?_eq_none hfree hnext] at h
      cases h
      rw [skipsPart_of_componentName? s (next?_eq_none_iff.mp hnext).1, hfree,
        resolve_of_next?_eq_none hfree hnext]
      rfl
    | some next =>
      have hends' : s.endsWithin r steps next := by simpa [endsWithin, hnext] using hends
      cases hname : componentName? name with
      | none =>
        rw [resolve_of_next? hfree hname hnext] at h
        exact ih hends' h (by omega) (isSkipped_of_resolve h)
      | some component =>
        obtain rfl := TypeRef.componentName?_eq_some_iff.mp hname
        obtain rfl : component = next := by
          rw [next?_append] at hnext
          exact Option.some.inj hnext
        rw [resolve_append hfree] at h
        obtain ⟨inner, hinner, rfl⟩ := Option.map_eq_some_iff.mp h
        obtain ⟨more, rfl⟩ : ∃ k, more = k + 1 := ⟨more - 1, by omega⟩
        have hagain := ih hends' hinner (by omega : steps ≤ more) (isSkipped_of_resolve hinner)
        rw [skipsPart_append]
        cases hskipped : s.isSkipped (inner ++ "[]") with
        | true => rw [resolve_of_isSkipped hskipped, Bool.or_true, if_pos rfl]
        | false =>
          rw [resolve_append hskipped, hagain, Bool.or_false]
          split <;> rfl

/-- A walk that only takes array suffixes off puts them all back: it is cut off before it has taken
them all, or what is left stands for itself. -/
theorem resolve_eq_self {steps : Nat}
    (hself : steps ≤ arrayDepth name ∨ s.next? r (Loader.baseName name) = none)
    (h : s.resolve r steps name = some found) : found = name := by
  have hfree := isSkipped_of_resolve h
  induction steps generalizing name found with
  | zero =>
    rw [resolve, hfree] at h
    exact (Option.some.inj h).symm
  | succ steps ih =>
    cases hname : componentName? name with
    | none =>
      rw [Loader.arrayDepth_of_componentName? hname, baseName_of_componentName? hname] at hself
      have hnext := hself.resolve_left (by omega)
      rw [resolve_of_next?_eq_none hfree hnext] at h
      exact (Option.some.inj h).symm
    | some component =>
      obtain rfl := TypeRef.componentName?_eq_some_iff.mp hname
      rw [resolve_append hfree] at h
      obtain ⟨inner, hinner, rfl⟩ := Option.map_eq_some_iff.mp h
      rw [Loader.arrayDepth_append, Loader.baseName_append] at hself
      rw [ih (hself.imp_left Nat.le_of_succ_le_succ) hinner (isSkipped_of_resolve hinner)]

theorem resolve_of_le_arrayDepth {steps : Nat} (hdepth : steps ≤ arrayDepth name)
    (h : s.resolve r steps name = some found) : found = name :=
  resolve_eq_self (.inl hdepth) h

/-! ### Idempotence -/

/-- Whatever a name stands for stands for itself. -/
def Idempotent (s : Substitutor) (r : Repository) : Prop :=
  ∀ name found, s.substitute r name = some found → s.substitute r found = some found

theorem componentName?_baseName (name : String) :
    componentName? (Loader.baseName name) = none := by
  cases h : componentName? (Loader.baseName name) with
  | none => rfl
  | some component =>
    have hdepth := Loader.arrayDepth_baseName name
    rw [TypeRef.componentName?_eq_some_iff.mp h, Loader.arrayDepth_append] at hdepth
    omega

/-- **Where no registered class stands for its superclass, a substitution is idempotent**: a name is
skipped or stands for itself. -/
theorem idempotent_of_classes
    (h : ∀ c ∈ r.classes.values, ∀ superclass ∈ c.superclass,
      s.standsForSuperclass r c superclass = false) : s.Idempotent r := by
  intro name found hfound
  have hnext : s.next? r (Loader.baseName name) = none := by
    refine next?_eq_none_iff.mpr ⟨componentName?_baseName name, fun c superclass hc hsuper => ?_⟩
    have hregistered := Repository.registered_of_get? hc (componentName?_baseName name)
    have hmem : c ∈ r.classes.values :=
      List.mem_map.mpr ⟨_, (r.classes.mem_entries_iff _ c).mpr hregistered, rfl⟩
    exact h c hmem superclass hsuper
  obtain rfl := resolve_eq_self (.inr hnext) hfound
  exact hfound

/-! ### Substituting twice -/

/-- **Substituting a second time changes nothing**, if the walk ends by itself and neither what is
found nor a class that it is the array of is skipped. Where one of them is skipped, nothing is found
the second time. Of an array with so many suffixes that the walk does not get past them, the
substitution is the array itself. -/
theorem substitute_substitute (s : Substitutor) (r : Repository) (name found : String)
    (h : s.substitute r name = some found) :
    (s.endsWithin r maxSteps name →
      s.substitute r found = if s.skipsPart found then none else some found) ∧
    (maxSteps ≤ arrayDepth name → s.substitute r found = some found) := by
  refine ⟨fun hends => resolve_of_endsWithin hends h (Nat.le_refl _), fun hdepth => ?_⟩
  obtain rfl := resolve_of_le_arrayDepth hdepth h
  exact h

/-- The class of baskets below two proxies. -/
def proxiedBaskets : Repository :=
  .ofModel
    ⟨[.named "shop.Basket",
      { Class.named "shop.Basket_$$_javassist_1" with superclass := some "shop.Basket" },
      { Class.named "shop.LazyBasket" with
        superclass := some "shop.Basket_$$_javassist_1"
        interfaces := ["net.sf.cglib.proxy.Factory"] }], none⟩

/-- Arrays of arrays of a proxy of a proxy are arrays of arrays of baskets, and these stay. -/
theorem substitute_substitute_proxied_baskets :
    standard.substitute proxiedBaskets "shop.LazyBasket[][]" = some "shop.Basket[][]" ∧
      standard.endsWithin proxiedBaskets maxSteps "shop.LazyBasket[][]" ∧
      standard.skipsPart "shop.Basket[][]" = false ∧
      standard.substitute proxiedBaskets "shop.Basket[][]" = some "shop.Basket[][]" := by
  have hfound : standard.substitute proxiedBaskets "shop.LazyBasket[][]" =
      some "shop.Basket[][]" := by decide +kernel
  have hends : standard.endsWithin proxiedBaskets maxSteps "shop.LazyBasket[][]" := by
    decide +kernel
  have hfree : standard.skipsPart "shop.Basket[][]" = false := by decide +kernel
  have hagain := (substitute_substitute standard proxiedBaskets _ _ hfound).1 hends
  rw [hfree] at hagain
  exact ⟨hfound, hends, hfree, hagain⟩

/-- **An array that is skipped can be found as a substitution.** The arrays of baskets are skipped.
The arrays of their proxies are not, and stand for them. -/
theorem skipped_array_substituted_for_array_of_proxies :
    (standard.withSkipped "shop.Basket[]").substitute proxiedBaskets "shop.LazyBasket[]" =
        some "shop.Basket[]" ∧
      (standard.withSkipped "shop.Basket[]").substitute proxiedBaskets "shop.Basket[]" =
        none := by
  decide +kernel

/-- Three proxies in a circle: the walk is cut off after 32 steps at the third of them, and a
second walk goes on from there. -/
example :
    let proxy (name superclass : String) : Class :=
      { Class.named name with
        superclass := some superclass, interfaces := ["net.sf.cglib.proxy.Factory"] }
    let circle : Repository :=
      .ofModel ⟨[proxy "a.A" "a.B", proxy "a.B" "a.C", proxy "a.C" "a.A"], none⟩
    standard.substitute circle "a.A" = some "a.C" ∧
      standard.substitute circle "a.C" = some "a.B" := by
  decide +kernel

end Substitutor
end Facetry
