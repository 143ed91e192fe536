/-
# Finite maps from names

A `NameMap` lists its entries in increasing order of name, each name once, so
a map is determined by what it answers (`ext_get?`): two maps with the same
answers are the same list. Registers, caches and configurations are such maps,
and whatever they list is listed in this order.

Key definitions: `NameMap`, `get?`, `insert`, `erase`, `filter`, `ofList`.
Key theorems: `get?_insert`, `get?_erase`, `get?_filter`, `ext_get?`, `insert_insert`.
-/
namespace Facetry

/-- The entries with `name` bound to `value`; the other entries stay, in order. -/
def NameMap.insertEntry {α : Type} (name : String) (value : α) :
    List (String × α) → List (String × α)
  | [] => [(name, value)]
  | entry :: rest =>
    if name < entry.1 then (name, value) :: entry :: rest
    else if name = entry.1 then (name, value) :: rest
    else entry :: insertEntry name value rest

/-- Inserting binds one name and keeps the other entries. -/
theorem NameMap.mem_insertEntry {α : Type} {name : String} {value : α} {e : String × α} :
    ∀ {entries : List (String × α)},
      e ∈ insertEntry name value entries → e = (name, value) ∨ e ∈ entries
  | [], h => by simpa [insertEntry] using h
  | x :: rest, h => by
    unfold insertEntry at h
    split at h
    · rcases List.mem_cons.mp h with h | h
      · exact .inl h
      · exact .inr h
    · split at h
      · rcases List.mem_cons.mp h with h | h
        · exact .inl h
        · exact .inr (List.mem_cons_of_mem _ h)
      · rcases List.mem_cons.mp h with h | h
        · exact .inr (h ▸ List.mem_cons_self)
        · rcases mem_insertEntry h with h | h
          · exact .inl h
          · exact .inr (List.mem_cons_of_mem _ h)

theorem NameMap.pairwise_insertEntry {α : Type} (name : String) (value : α) :
    ∀ {entries : List (String × α)}, entries.Pairwise (·.1 < ·.1) →
      (insertEntry name value entries).Pairwise (·.1 < ·.1)
  | [], _ => by simp [insertEntry]
  | x :: rest, h => by
    obtain ⟨hx, hrest⟩ := List.pairwise_cons.mp h
    unfold insertEntry
    split
    · rename_i hlt
      refine List.pairwise_cons.mpr ⟨fun e he => ?_, h⟩
      rcases List.mem_cons.mp he with rfl | he
      · exact hlt
      · exact String.lt_trans hlt (hx e he)
    · rename_i hnot
      split
      · rename_i heq
        refine List.pairwise_cons.mpr ⟨fun e he => ?_, hrest⟩
        exact heq ▸ hx e he
      · rename_i hne
        have hlt : x.1 < name := Std.lt_of_le_of_ne hnot (Ne.symm hne)
        refine List.pairwise_cons.mpr ⟨fun e he => ?_, pairwise_insertEntry name value hrest⟩
        rcases mem_insertEntry he with rfl | he
        · exact hlt
        · exact hx e he

/-- A finite map from names, listed in increasing order of name. -/
structure NameMap (α : Type) where
  entries : List (String × α)
  ascending : entries.Pairwise (·.1 < ·.1)

namespace NameMap

variable {α β : Type}

/-- The map with no names. -/
def empty : NameMap α := ⟨[], .nil⟩

instance : Inhabited (NameMap α) := ⟨empty⟩

/-- What the name is bound to, if it is bound. -/
def get? (m : NameMap α) (name : String) : Option α := m.entries.lookup name

/-- Whether the name is bound. -/
def contains (m : NameMap α) (name : String) : Bool := (m.get? name).isSome

/-- The map with `name` bound to `value`. -/
def insert (m : NameMap α) (name : String) (value : α) : NameMap α :=
  ⟨insertEntry name value m.entries, pairwise_insertEntry name value m.ascending⟩

/-- The map restricted to the entries that pass `keep`. -/
def filter (m : NameMap α) (keep : String → α → Bool) : NameMap α :=
  ⟨m.entries.filter fun e => keep e.1 e.2, m.ascending.filter _⟩

/-- The map without `name`. -/
def erase (m : NameMap α) (name : String) : NameMap α := m.filter fun n _ => n != name

/-- The bound names, in increasing order. -/
def keys (m : NameMap α) : List String := m.entries.map (·.1)

/-- The bound values, in increasing order of their names. -/
def values (m : NameMap α) : List α := m.entries.map (·.2)

/-- The number of bound names. -/
def size (m : NameMap α) : Nat := m.entries.length

/-- Whether no name is bound. -/
def isEmpty (m : NameMap α) : Bool := m.entries.isEmpty

/-- The map that binds each name of the list to the last value listed for it. -/
def ofList (entries : List (String × α)) : NameMap α :=
  entries.foldl (fun m e => m.insert e.1 e.2) empty

instance [DecidableEq α] : DecidableEq (NameMap α) := fun a b =>
  if h : a.entries = b.entries then
    .isTrue (by cases a; cases b; cases h; rfl)
  else .isFalse (fun h' => h (h' ▸ rfl))

theorem lookup_cons_eq (x : String × α) (rest : List (String × α)) (name : String) :
    (x :: rest).lookup name = if name = x.1 then some x.2 else rest.lookup name := by
  obtain ⟨n, v⟩ := x
  by_cases h : name = n
  · simp [h]
  · have : (name == n) = false := by simpa using h
    simp [List.lookup_cons, h, this]

theorem lookup_eq_none {entries : List (String × α)} {name : String}
    (h : ∀ e ∈ entries, name ≠ e.1) : entries.lookup name = none := by
  induction entries with
  | nil => rfl
  | cons x rest ih =>
    rw [lookup_cons_eq, if_neg (h x List.mem_cons_self)]
    exact ih fun e he => h e (List.mem_cons_of_mem _ he)

theorem lookup_insertEntry (name : String) (value : α) (other : String) :
    ∀ entries : List (String × α),
      (insertEntry name value entries).lookup other =
        if other = name then some value else entries.lookup other
  | [] => by simp [insertEntry, lookup_cons_eq]
  | x :: rest => by
    unfold insertEntry
    split
    · rw [lookup_cons_eq]
    · split
      · rename_i heq
        rw [lookup_cons_eq, lookup_cons_eq, ← heq]
        split <;> simp_all
      · rename_i hne
        rw [lookup_cons_eq, lookup_cons_eq, lookup_insertEntry name value other rest]
        by_cases h : other = name
        · subst h
          simp [hne]
        · simp [h]

@[simp] theorem get?_empty (name : String) : (empty : NameMap α).get? name = none := rfl

theorem get?_insert (m : NameMap α) (name : String) (value : α) (other : String) :
    (m.insert name value).get? other = if other = name then some value else m.get? other :=
  lookup_insertEntry name value other m.entries

@[simp] theorem get?_insert_self (m : NameMap α) (name : String) (value : α) :
    (m.insert name value).get? name = some value := by simp [get?_insert]

/-- The entries are exactly the bound names with their values. -/
theorem mem_entries_iff (m : NameMap α) (name : String) (value : α) :
    (name, value) ∈ m.entries ↔ m.get? name = some value := by
  obtain ⟨entries, hs⟩ := m
  show _ ↔ entries.lookup name = some value
  induction entries with
  | nil => simp
  | cons x rest ih =>
    obtain ⟨hx, hrest⟩ := List.pairwise_cons.mp hs
    rw [lookup_cons_eq, List.mem_cons, ih hrest]
    split
    · rename_i h
      have hno : rest.lookup name = none :=
        lookup_eq_none fun e he h' => String.lt_irrefl x.1 (by
          have := hx e he
          rwa [← h', h] at this)
      simp only [hno, Option.some.injEq]
      constructor
      · rintro (h' | h')
        · rw [← h']
        · simp at h'
      · rintro rfl
        exact .inl (by cases x; simp_all)
    · rename_i h
      constructor
      · rintro (h' | h')
        · exact absurd (by rw [← h']) h
        · exact h'
      · exact .inr

theorem mem_keys_iff (m : NameMap α) (name : String) : name ∈ m.keys ↔ m.contains name := by
  simp only [keys, contains, List.mem_map]
  constructor
  · rintro ⟨⟨n, v⟩, h, rfl⟩
    rw [(m.mem_entries_iff n v).mp h]
    rfl
  · intro h
    obtain ⟨v, hv⟩ := Option.isSome_iff_exists.mp h
    exact ⟨(name, v), (m.mem_entries_iff name v).mpr hv, rfl⟩

theorem get?_filter (m : NameMap α) (keep : String → α → Bool) (name : String) :
    (m.filter keep).get? name = (m.get? name).filter (keep name) := by
  apply Option.ext
  intro v
  rw [Option.filter_eq_some_iff, ← mem_entries_iff, ← mem_entries_iff]
  simp [filter]

theorem get?_erase (m : NameMap α) (name other : String) :
    (m.erase name).get? other = if other = name then none else m.get? other := by
  rw [erase, get?_filter]
  by_cases h : other = name
  · subst h
    cases m.get? other <;> simp
  · cases m.get? other <;> simp [h]

/-- **A map is determined by its answers.** -/
theorem ext_get? {a b : NameMap α} (h : ∀ name, a.get? name = b.get? name) : a = b := by
  have hmem : ∀ e, e ∈ a.entries ↔ e ∈ b.entries := by
    rintro ⟨n, v⟩
    rw [mem_entries_iff, mem_entries_iff, h]
  obtain ⟨as, ha⟩ := a
  obtain ⟨bs, hb⟩ := b
  congr
  simp only at hmem
  clear h
  induction as generalizing bs with
  | nil =>
    cases bs with
    | nil => rfl
    | cons y bs => exact absurd ((hmem y).mpr List.mem_cons_self) (by simp)
  | cons x as ih =>
    cases bs with
    | nil => exact absurd ((hmem x).mp List.mem_cons_self) (by simp)
    | cons y bs =>
      obtain ⟨hx, has⟩ := List.pairwise_cons.mp ha
      obtain ⟨hy, hbs⟩ := List.pairwise_cons.mp hb
      have hxy : x = y := by
        rcases List.mem_cons.mp ((hmem x).mp List.mem_cons_self) with h | h
        · exact h
        · rcases List.mem_cons.mp ((hmem y).mpr List.mem_cons_self) with h' | h'
          · exact h'.symm
          · exact absurd (String.lt_trans (hx y h') (hy x h)) (String.lt_irrefl _)
      subst hxy
      have hrest : as = bs := by
        refine ih has bs hbs fun e => ⟨fun he => ?_, fun he => ?_⟩
        · rcases List.mem_cons.mp ((hmem e).mp (List.mem_cons_of_mem _ he)) with h | h
          · exact absurd (h ▸ hx e he) (String.lt_irrefl _)
          · exact h
        · rcases List.mem_cons.mp ((hmem e).mpr (List.mem_cons_of_mem _ he)) with h | h
          · exact absurd (h ▸ hy e he) (String.lt_irrefl _)
          · exact h
      rw [hrest]

/-- Only the last value bound to a name counts. -/
theorem insert_insert (m : NameMap α) (name : String) (first last : α) :
    (m.insert name first).insert name last = m.insert name last := by
  apply ext_get?
  intro other
  rw [get?_insert, get?_insert, get?_insert]
  split <;> rfl

end NameMap
end Facetry
