/-
# Values in canonical form

A value in canonical form is its own canonical form, and a readable value stays readable. So
whatever was read as a value is read again as the same value. It is the maps that make this
work: a map lists its entries in increasing order, so binding them one after the other only
ever adds an entry at the end.

Key theorems: `NameMap.ofList_entries`, `Json.canonical_canonical`, `Json.isReadable_canonical`,
`Json.readAny_of_readAny`.
-/
import Facetry.Json.Record

namespace Facetry

/-! ### Maps from their entries -/

namespace NameMap

variable {α : Type}

/-- A name after all others is bound at the end. -/
theorem insertEntry_append {name : String} (value : α) {entries : List (String × α)}
    (h : ∀ e ∈ entries, e.1 < name) : insertEntry name value entries = entries ++ [(name, value)] := by
  induction entries with
  | nil => rfl
  | cons e entries ih =>
    obtain ⟨hlt, hrest⟩ := List.forall_mem_cons.mp h
    have hne : name ≠ e.1 := fun heq => String.lt_irrefl _ (heq ▸ hlt)
    rw [insertEntry, if_neg (String.lt_asymm hlt), if_neg hne, ih hrest, List.cons_append]

/-- Binding further entries in increasing order adds them at the end. -/
theorem entries_foldl_insert (m : NameMap α) {entries : List (String × α)}
    (h : (m.entries ++ entries).Pairwise (·.1 < ·.1)) :
    (entries.foldl (fun m e => m.insert e.1 e.2) m).entries = m.entries ++ entries := by
  induction entries generalizing m with
  | nil => simp
  | cons e entries ih =>
    have hbefore : ∀ x ∈ m.entries, x.1 < e.1 := fun x hx =>
      (List.pairwise_append.mp h).2.2 x hx e List.mem_cons_self
    have hinsert : (m.insert e.1 e.2).entries = m.entries ++ [e] :=
      insertEntry_append e.2 hbefore
    rw [List.foldl_cons, ih, hinsert, List.append_assoc, List.singleton_append]
    rwa [hinsert, List.append_assoc, List.singleton_append]

theorem ext_entries {a b : NameMap α} (h : a.entries = b.entries) : a = b := by
  cases a
  cases b
  cases h
  rfl

/-- **A map is made of its entries.** -/
theorem ofList_entries (m : NameMap α) : ofList m.entries = m :=
  ext_entries (entries_foldl_insert empty m.ascending)

/-- A map made of a list has entries of the list only. -/
theorem mem_of_mem_ofList {entries : List (String × α)} {e : String × α}
    (h : e ∈ (ofList entries).entries) : e ∈ entries := by
  have hfoldl : ∀ (entries : List (String × α)) (m : NameMap α),
      e ∈ (entries.foldl (fun m e => m.insert e.1 e.2) m).entries → e ∈ m.entries ∨ e ∈ entries := by
    intro entries
    induction entries with
    | nil => exact fun m h => .inl h
    | cons x entries ih =>
      intro m h
      rcases ih _ h with h | h
      · rcases mem_insertEntry h with rfl | h
        · exact .inr List.mem_cons_self
        · exact .inl h
      · exact .inr (List.mem_cons_of_mem _ h)
  exact (hfoldl entries empty h).resolve_left (by simp [empty])

end NameMap

/-! ### Canonical values -/

namespace Json

theorem canonicalFields_eq_self {fields : List (String × Json)}
    (h : ∀ f ∈ fields, f.2.canonical = f.2) : canonicalFields fields = fields := by
  induction fields with
  | nil => rfl
  | cons f fields ih =>
    obtain ⟨hf, hrest⟩ := List.forall_mem_cons.mp h
    rw [canonicalFields, hf, ih hrest]

theorem areReadableFields_iff {fields : List (String × Json)} :
    areReadableFields fields ↔ ∀ f ∈ fields, f.2.isReadable := by
  induction fields with
  | nil => simp [areReadableFields]
  | cons f fields ih => rw [areReadableFields, Bool.and_eq_true, ih, List.forall_mem_cons]

mutual

/-- **A value in canonical form is its own canonical form.** -/
theorem canonical_canonical (j : Json) : j.canonical.canonical = j.canonical := by
  match j with
  | array items => simp only [canonical, canonicalItems_canonicalItems items]
  | object fields =>
    have hself : canonicalFields (NameMap.ofList (canonicalFields fields)).entries =
        (NameMap.ofList (canonicalFields fields)).entries :=
      canonicalFields_eq_self fun f hf =>
        canonical_of_mem_canonicalFields fields f (NameMap.mem_of_mem_ofList hf)
    simp only [canonical, hself, NameMap.ofList_entries]
  | unreadable | null | bool _ | number _ | string _ => rfl

theorem canonicalItems_canonicalItems (items : List Json) :
    canonicalItems (canonicalItems items) = canonicalItems items := by
  match items with
  | [] => rfl
  | x :: xs =>
    simp only [canonicalItems, canonical_canonical x, canonicalItems_canonicalItems xs]

theorem canonical_of_mem_canonicalFields (fields : List (String × Json)) :
    ∀ f ∈ canonicalFields fields, f.2.canonical = f.2 := by
  match fields with
  | [] => exact fun _ h => nomatch h
  | (n, x) :: xs =>
    rw [canonicalFields, List.forall_mem_cons]
    exact ⟨canonical_canonical x, canonical_of_mem_canonicalFields xs⟩

end

mutual

/-- The canonical form of a readable value is readable. -/
theorem isReadable_canonical {j : Json} (h : j.isReadable) : j.canonical.isReadable := by
  match j with
  | array items =>
    rw [isReadable] at h
    rw [canonical, isReadable]
    exact areReadableItems_canonicalItems h
  | object fields =>
    rw [isReadable] at h
    rw [canonical, isReadable, areReadableFields_iff]
    intro f hf
    exact isReadable_of_mem_canonicalFields h f (NameMap.mem_of_mem_ofList hf)
  | unreadable => cases h
  | null | bool _ | number _ | string _ => rfl

theorem areReadableItems_canonicalItems {items : List Json} (h : areReadableItems items) :
    areReadableItems (canonicalItems items) := by
  match items with
  | [] => rfl
  | x :: xs =>
    rw [areReadableItems, Bool.and_eq_true] at h
    rw [canonicalItems, areReadableItems, Bool.and_eq_true]
    exact ⟨isReadable_canonical h.1, areReadableItems_canonicalItems h.2⟩

theorem isReadable_of_mem_canonicalFields {fields : List (String × Json)}
    (h : areReadableFields fields) : ∀ f ∈ canonicalFields fields, f.2.isReadable := by
  match fields with
  | [] => exact fun _ h => nomatch h
  | (n, x) :: xs =>
    rw [areReadableFields, Bool.and_eq_true] at h
    rw [canonicalFields, List.forall_mem_cons]
    exact ⟨isReadable_canonical h.1, isReadable_of_mem_canonicalFields h.2⟩

end

/-- What was read as a value is read again as it is. -/
theorem readAny_of_readAny {j value : Json} (h : readAny j = .ok value) :
    readAny value = .ok value := by
  unfold readAny at h
  split at h <;> cases h
  rename_i hreadable
  rw [readAny, if_pos (isReadable_canonical hreadable), canonical_canonical]

end Json
end Facetry
