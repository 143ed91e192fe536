/-
# Loading stays in its scope

The scope of a requested name is closed under the two ways in which loading
goes from name to name: to what a name stands for, and to what a specification
refers to. A name in the scope is one that is mentioned, but for the number of
`[]` at its end. A substitution changes that number only by the `[]` it puts
back, at most one for each of its steps; a reference to the component of an array
lowers it. So the bound on the number holds for every name that is met.

Key theorems: `Loader.mem_scope_iff`, `Loader.substitute_mem_scope`,
`Loader.referencedTypes_mem_scope`.
-/
import Facetry.Proofs.References

namespace Facetry
namespace Loader

/-! ### Array suffixes -/

theorem reverse_append_suffix (name : String) :
    (name ++ "[]").toList.reverse = ']' :: '[' :: name.toList.reverse := by
  simp

@[simp] theorem arrayDepth_append (name : String) :
    arrayDepth (name ++ "[]") = arrayDepth name + 1 := by
  rw [arrayDepth, reverse_append_suffix, splitArray, arrayDepth]

@[simp] theorem baseName_append (name : String) : baseName (name ++ "[]") = baseName name := by
  rw [baseName, reverse_append_suffix, splitArray, baseName]

theorem splitArray_splitArray (cs : List Char) :
    splitArray (splitArray cs).2 = (0, (splitArray cs).2) := by
  fun_induction splitArray cs with
  | case1 rest depth base hsplit ih => simpa [hsplit] using ih
  | case2 cs hcs => exact splitArray.eq_2 cs hcs

theorem arrayDepth_baseName (name : String) : arrayDepth (baseName name) = 0 := by
  rw [arrayDepth, baseName, String.toList_ofList, List.reverse_reverse, splitArray_splitArray]

theorem baseName_baseName (name : String) : baseName (baseName name) = baseName name := by
  conv => lhs; rw [baseName]
  rw [baseName, String.toList_ofList, List.reverse_reverse, splitArray_splitArray]

theorem baseName_arrayName (base : String) (depth : Nat) :
    baseName (arrayName base depth) = baseName base := by
  induction depth with
  | zero => rfl
  | succ depth ih => rw [arrayName, baseName_append, ih]

theorem arrayDepth_arrayName (base : String) (depth : Nat) :
    arrayDepth (arrayName base depth) = arrayDepth base + depth := by
  induction depth with
  | zero => rfl
  | succ depth ih => rw [arrayName, arrayDepth_append, ih, Nat.add_assoc]

theorem arrayName_splitArray (cs : List Char) :
    arrayName (String.ofList (splitArray cs).2.reverse) (splitArray cs).1 =
      String.ofList cs.reverse := by
  fun_induction splitArray cs with
  | case1 rest depth base hsplit ih =>
    rw [hsplit] at ih
    rw [arrayName, ih]
    simp [String.ofList_append]
  | case2 cs hcs => rfl

/-- A name is its base followed by its array suffixes. -/
theorem arrayName_baseName (name : String) :
    arrayName (baseName name) (arrayDepth name) = name := by
  rw [baseName, arrayDepth, arrayName_splitArray]
  simp

/-! ### The names of the scope -/

theorem arrayDepth_add_le_maxDepth {names : List String} {name : String} (h : name ∈ names) :
    arrayDepth name + Substitutor.maxSteps ≤ maxDepth names := by
  have hmax : arrayDepth name ≤ (names.map arrayDepth).max?.getD 0 :=
    List.le_max?_getD_of_mem (List.mem_map_of_mem h)
  rw [maxDepth, List.foldl_max]
  omega

/-- A name is in the scope if it differs from a mentioned one in its array suffixes only, and has
not too many of them. -/
theorem mem_scope_iff {r : Repository} {requested name : String} :
    name ∈ scope r requested ↔
      (∃ n ∈ mentioned r requested, baseName n = baseName name) ∧
        arrayDepth name ≤ maxDepth (mentioned r requested) := by
  simp only [scope, List.mem_flatMap, List.mem_map, List.mem_range]
  constructor
  · rintro ⟨n, hn, depth, hdepth, rfl⟩
    rw [baseName_arrayName, baseName_baseName, arrayDepth_arrayName, arrayDepth_baseName]
    exact ⟨⟨n, hn, rfl⟩, by omega⟩
  · rintro ⟨⟨n, hn, hbase⟩, hdepth⟩
    exact ⟨n, hn, arrayDepth name, by omega, by rw [hbase, arrayName_baseName]⟩

theorem mem_scope_of_mentioned {r : Repository} {requested name : String}
    (h : name ∈ mentioned r requested) : name ∈ scope r requested := by
  have := arrayDepth_add_le_maxDepth h
  exact mem_scope_iff.mpr ⟨⟨name, h, rfl⟩, by omega⟩

theorem requested_mem_mentioned (r : Repository) (requested : String) :
    requested ∈ mentioned r requested :=
  List.mem_cons_self

theorem requested_mem_scope (r : Repository) (requested : String) :
    requested ∈ scope r requested :=
  mem_scope_of_mentioned (requested_mem_mentioned r requested)

/-- The component of an array in the scope is in the scope. -/
theorem component_mem_scope {r : Repository} {requested array component : String}
    (h : array ∈ scope r requested) (hcomponent : TypeRef.componentName? array = some component) :
    component ∈ scope r requested := by
  obtain rfl := TypeRef.componentName?_eq_some_iff.mp hcomponent
  rw [mem_scope_iff, baseName_append, arrayDepth_append] at h
  exact mem_scope_iff.mpr ⟨h.1, by omega⟩

/-- What a registered class mentions is mentioned. -/
theorem mem_mentioned_of_registered {r : Repository} {requested name n : String} {c : Class}
    (hc : r.classes.get? name = some c) (hn : n ∈ c.mentioned) : n ∈ mentioned r requested := by
  have hmem : c ∈ r.classes.values :=
    List.mem_map.mpr ⟨(name, c), (r.classes.mem_entries_iff name c).mpr hc, rfl⟩
  exact List.mem_cons_of_mem _ (List.mem_cons_of_mem _ (List.mem_flatMap.mpr ⟨c, hmem, hn⟩))

/-! ### Substitution -/

/-- A step of a walk ends it at the name, puts back the `[]` of an array after walking from the
component, or goes on from a class to its superclass. -/
theorem resolve_succ_cases {s : Substitutor} {r : Repository} {steps : Nat}
    {name resolved : String} (h : s.resolve r (steps + 1) name = some resolved) :
    resolved = name ∨
      (∃ component inner, TypeRef.componentName? name = some component ∧
        s.resolve r steps component = some inner ∧ resolved = inner ++ "[]") ∨
      ∃ c superclass, TypeRef.componentName? name = none ∧ r.get? name = some c ∧
        c.superclass = some superclass ∧ s.resolve r steps superclass = some resolved := by
  unfold Substitutor.resolve at h
  split at h
  · cases h
  split at h
  · rename_i component hcomponent
    obtain ⟨inner, hinner, rfl⟩ := Option.map_eq_some_iff.mp h
    exact .inr (.inl ⟨component, inner, hcomponent, hinner, rfl⟩)
  · rename_i hnone
    split at h
    · cases h
      exact .inl rfl
    · rename_i c hc
      split at h
      · cases h
        exact .inl rfl
      · rename_i superclass hsuper
        split at h
        · exact .inr (.inr ⟨c, superclass, hnone, hc, hsuper, h⟩)
        · cases h
          exact .inl rfl

/-- A walk that begins at a name with the base of a mentioned one ends at such a name, and adds at
most one array suffix a step to those of the name or of a mentioned one. -/
theorem resolve_bounds {s : Substitutor} {r : Repository} {requested : String} {deepest : Nat}
    (hdeepest : ∀ n ∈ mentioned r requested, arrayDepth n ≤ deepest) {steps : Nat}
    {name resolved : String} (h : s.resolve r steps name = some resolved)
    (hname : ∃ n ∈ mentioned r requested, baseName n = baseName name) :
    (∃ n ∈ mentioned r requested, baseName n = baseName resolved) ∧
      arrayDepth resolved ≤ max (arrayDepth name) (deepest + steps) := by
  induction steps generalizing name resolved with
  | zero =>
    unfold Substitutor.resolve at h
    split at h <;> cases h
    exact ⟨hname, by omega⟩
  | succ steps ih =>
    rcases resolve_succ_cases h with rfl | ⟨component, inner, hcomponent, hinner, rfl⟩ |
      ⟨c, superclass, hnone, hc, hsuper, hrest⟩
    · exact ⟨hname, by omega⟩
    · obtain rfl := TypeRef.componentName?_eq_some_iff.mp hcomponent
      rw [baseName_append] at hname
      obtain ⟨hbase, hdepth⟩ := ih hinner hname
      rw [baseName_append, arrayDepth_append, arrayDepth_append]
      exact ⟨hbase, by omega⟩
    · have hregistered := Repository.registered_of_get? hc hnone
      have hmem : superclass ∈ mentioned r requested :=
        mem_mentioned_of_registered hregistered (by simp [Class.mentioned, hsuper])
      obtain ⟨hbase, hdepth⟩ := ih hrest ⟨superclass, hmem, rfl⟩
      have := hdeepest superclass hmem
      exact ⟨hbase, by omega⟩

/-- **What a name of the scope stands for is in the scope.** -/
theorem substitute_mem_scope {s : Substitutor} {r : Repository} {requested name resolved : String}
    (hname : name ∈ scope r requested) (h : s.substitute r name = some resolved) :
    resolved ∈ scope r requested := by
  obtain ⟨hbase, hdepth⟩ := mem_scope_iff.mp hname
  have hdeepest : ∀ n ∈ mentioned r requested,
      arrayDepth n ≤ maxDepth (mentioned r requested) - Substitutor.maxSteps := fun n hn => by
    have := arrayDepth_add_le_maxDepth hn
    omega
  obtain ⟨hbase', hdepth'⟩ := resolve_bounds hdeepest h hbase
  have := arrayDepth_add_le_maxDepth (requested_mem_mentioned r requested)
  exact mem_scope_iff.mpr ⟨hbase', by omega⟩

/-! ### References -/

/-- What a class of the scope mentions is in the scope, also if the class is made on demand. -/
theorem mentioned_mem_scope {r : Repository} {requested name n : String} {c : Class}
    (hname : name ∈ scope r requested) (hc : r.get? name = some c) (hn : n ∈ c.mentioned) :
    n ∈ scope r requested := by
  unfold Repository.get? at hc
  split at hc
  · rename_i c' hregistered
    cases hc
    exact mem_scope_of_mentioned (mem_mentioned_of_registered hregistered hn)
  · obtain ⟨component, hcomponent, rfl⟩ := Option.map_eq_some_iff.mp hc
    obtain rfl := TypeRef.componentName?_eq_some_iff.mp hcomponent
    have hn : n = component ++ "[]" ∨ n = "java.lang.Object" ∨ n = component := by
      simpa [Class.mentioned, Class.arrayOf, Class.named, TypeRef.simple] using hn
    rcases hn with rfl | rfl | rfl
    · exact hname
    · exact mem_scope_of_mentioned (by simp [mentioned])
    · exact component_mem_scope hname hcomponent

/-- **What the specification of a class of the scope refers to is in the scope.** -/
theorem referencedTypes_mem_scope {s : Settings} {r : Repository} {requested name type : String}
    {c : Class} (hname : name ∈ scope r requested) (hc : r.get? name = some c)
    (htype : type ∈ (s.describe r c).referencedTypes) : type ∈ scope r requested := by
  rcases Settings.isPartOf_referencedTypes htype with h | ⟨array, harray, hcomponent⟩
  · exact mentioned_mem_scope hname hc h
  · exact component_mem_scope (mentioned_mem_scope hname hc harray) hcomponent

end Loader
end Facetry
