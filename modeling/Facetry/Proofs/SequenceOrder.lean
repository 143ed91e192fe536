/-
# Where sequences are in order

Two components are compared as numbers if both are, and as texts otherwise. Either way of
comparing is an order, and so is the comparison of sequences whose components all are
numbers, or all are texts. The two ways together are none: as a text, `1a` comes after `10`
and before `9`, which as numbers stand the other way round.

This is the only thing that can go wrong. Three sequences that go round in a circle have, at
the first place where they differ, two numbers and a text between them (`Torn`). So on a set
of sequences the comparison is consistent exactly if no three of them are torn like that.

Key definitions: `Sequence.Between`, `Sequence.Torn`.
Key theorems: `Sequence.compareComponents_swap`, `Sequence.torn_of_circle`,
`Sequence.not_torn_of_numbers`, `Sequence.consistent_iff_not_torn`.
-/
import Facetry.Sequence
import Mathlib.Data.Set.Defs

namespace Facetry

/-- Three values in a circle are all equal. -/
theorem compare_eq_of_circle {α : Type} [Ord α] [Std.TransOrd α] {a b c : α}
    (hab : Ord.compare a b ≠ .gt) (hbc : Ord.compare b c ≠ .gt) (hac : Ord.compare a c ≠ .lt) :
    Ord.compare a b = .eq ∧ Ord.compare b c = .eq ∧ Ord.compare a c = .eq := by
  have hab' : (Ord.compare a b).isLE := Ordering.isLE_iff_ne_gt.mpr hab
  have hbc' : (Ord.compare b c).isLE := Ordering.isLE_iff_ne_gt.mpr hbc
  have hca : (Ord.compare c a).isLE :=
    Std.OrientedCmp.isGE_iff_isLE.mp (Ordering.isGE_iff_ne_lt.mpr hac)
  have heq := Std.OrientedCmp.isLE_antisymm hab' (Std.TransCmp.isLE_trans hbc' hca)
  have heq' := Std.OrientedCmp.isLE_antisymm (Std.TransCmp.isLE_trans hab' hbc') hca
  exact ⟨heq, (Std.TransCmp.congr_left heq).symm.trans heq', heq'⟩

namespace Sequence

/-! ### Components -/

variable {a b c : List Char}

theorem compareComponent_numbers {m n : Nat} (ha : number? a = some m) (hb : number? b = some n) :
    compareComponent a b = Ord.compare m n := by
  rw [compareComponent, ha, hb]

/-- Where one of two components is no number, they are compared as texts. -/
theorem compareComponent_texts (h : number? a = none ∨ number? b = none) :
    compareComponent a b = Ord.compare (String.ofList a) (String.ofList b) := by
  unfold compareComponent
  split
  · simp_all
  · rfl

theorem compareComponent_self (a : List Char) : compareComponent a a = .eq := by
  unfold compareComponent
  split
  · simp_all
  · exact Std.ReflCmp.compare_self

theorem compareComponent_swap (a b : List Char) :
    compareComponent b a = (compareComponent a b).swap := by
  cases ha : number? a with
  | none =>
    rw [compareComponent_texts (.inl ha), compareComponent_texts (.inr ha)]
    exact Std.OrientedCmp.eq_swap
  | some m =>
    cases hb : number? b with
    | none =>
      rw [compareComponent_texts (.inl hb), compareComponent_texts (.inr hb)]
      exact Std.OrientedCmp.eq_swap
    | some n =>
      rw [compareComponent_numbers ha hb, compareComponent_numbers hb ha]
      exact Std.OrientedCmp.eq_swap

/-- A number never equals a text. -/
theorem compareComponent_ne_eq {m : Nat} (ha : number? a = some m) (hb : number? b = none) :
    compareComponent a b ≠ .eq := by
  rw [compareComponent_texts (.inr hb)]
  intro h
  obtain rfl : a = b := String.ofList_injective (Std.LawfulEqCmp.eq_of_compare h)
  rw [ha] at hb
  cases hb

/-- The text stands between two numbers: compared as texts, it comes after the one and before the
other. -/
structure Between (low text high : List Char) : Prop where
  isNumber_low : (number? low).isSome
  isText : number? text = none
  isNumber_high : (number? high).isSome
  after : compareComponent low text = .lt
  before : compareComponent text high = .lt

/-- **Components in a circle are all equal, or one is a text between two numbers.** -/
theorem between_of_circle (hab : compareComponent a b ≠ .gt) (hbc : compareComponent b c ≠ .gt)
    (hac : compareComponent a c ≠ .lt) :
    (compareComponent a b = .eq ∧ compareComponent b c = .eq ∧ compareComponent a c = .eq) ∨
      Between a b c ∨ Between b c a ∨ Between c a b := by
  have hca : compareComponent c a ≠ .gt := by
    rw [compareComponent_swap a c]
    exact fun h => hac (Ordering.swap_eq_gt.mp h)
  have hlt {x y : List Char} {n : Nat} (hx : number? x = some n) (hy : number? y = none)
      (hle : compareComponent x y ≠ .gt) : compareComponent x y = .lt := by
    have := compareComponent_ne_eq hx hy
    cases h : compareComponent x y <;> simp_all
  have hlt' {x y : List Char} {n : Nat} (hx : number? x = none) (hy : number? y = some n)
      (hle : compareComponent x y ≠ .gt) : compareComponent x y = .lt := by
    have := compareComponent_ne_eq hy hx
    rw [compareComponent_swap x y] at this
    cases h : compareComponent x y <;> simp_all
  -- with one number at most all are compared as texts
  have htexts (h : (number? a = none ∨ number? b = none) ∧ (number? b = none ∨ number? c = none) ∧
      (number? a = none ∨ number? c = none)) :
      compareComponent a b = .eq ∧ compareComponent b c = .eq ∧ compareComponent a c = .eq := by
    rw [compareComponent_texts h.1] at hab ⊢
    rw [compareComponent_texts h.2.1] at hbc ⊢
    rw [compareComponent_texts h.2.2] at hac ⊢
    exact compare_eq_of_circle hab hbc hac
  cases ha : number? a with
  | none =>
    cases hb : number? b with
    | none => exact .inl (htexts ⟨.inl ha, .inl hb, .inl ha⟩)
    | some n =>
      cases hc : number? c with
      | none => exact .inl (htexts ⟨.inl ha, .inr hc, .inl ha⟩)
      | some k =>
        exact .inr (.inr (.inr ⟨by simp [hc], ha, by simp [hb], hlt hc ha hca, hlt' ha hb hab⟩))
  | some m =>
    cases hb : number? b with
    | none =>
      cases hc : number? c with
      | none => exact .inl (htexts ⟨.inr hb, .inl hb, .inr hc⟩)
      | some k =>
        exact .inr (.inl ⟨by simp [ha], hb, by simp [hc], hlt ha hb hab, hlt' hb hc hbc⟩)
    | some n =>
      cases hc : number? c with
      | none =>
        exact .inr (.inr (.inl ⟨by simp [hb], hc, by simp [ha], hlt hb hc hbc, hlt' hc ha hca⟩))
      | some k =>
        rw [compareComponent_numbers ha hb] at hab ⊢
        rw [compareComponent_numbers hb hc] at hbc ⊢
        rw [compareComponent_numbers ha hc] at hac ⊢
        exact .inl (compare_eq_of_circle hab hbc hac)

/-! ### Sequences -/

variable {as bs cs : List (List Char)}

theorem compareComponents_self (as : List (List Char)) : compareComponents as as = .eq := by
  induction as with
  | nil => rfl
  | cons a as ih => rw [compareComponents, compareComponent_self, ih]; rfl

theorem compareComponents_swap (as bs : List (List Char)) :
    compareComponents bs as = (compareComponents as bs).swap := by
  induction as generalizing bs with
  | nil => cases bs <;> rfl
  | cons a as ih =>
    cases bs with
    | nil => rfl
    | cons b bs =>
      rw [compareComponents, compareComponents, Ordering.swap_then, ← compareComponent_swap, ← ih]

/-- The sequences are equal up to a place where the second one has a text between the numbers of the
others, although the last one is not greater than the first. -/
def Torn : List (List Char) → List (List Char) → List (List Char) → Prop
  | low :: lows, text :: texts, high :: highs =>
    (Between low text high ∧ compareComponents (high :: highs) (low :: lows) ≠ .gt) ∨
      (compareComponent low text = .eq ∧ compareComponent text high = .eq ∧
        compareComponent high low = .eq ∧ Torn lows texts highs)
  | _, _, _ => False

theorem ne_gt_of_then_ne_gt {o o' : Ordering} (h : o.then o' ≠ .gt) : o ≠ .gt := by
  rintro rfl
  exact h rfl

theorem compareComponents_cons_of_eq (h : compareComponent a b = .eq) :
    compareComponents (a :: as) (b :: bs) = compareComponents as bs := by
  rw [compareComponents, h, Ordering.eq_then]

/-- **Sequences in a circle are torn**, by one of the three. -/
theorem torn_of_circle (hab : compareComponents as bs ≠ .gt) (hbc : compareComponents bs cs ≠ .gt)
    (hac : compareComponents as cs = .gt) : Torn as bs cs ∨ Torn bs cs as ∨ Torn cs as bs := by
  induction as generalizing bs cs with
  | nil => cases cs <;> cases hac
  | cons a as ih =>
    cases bs with
    | nil => exact absurd rfl hab
    | cons b bs =>
      cases cs with
      | nil => exact absurd rfl hbc
      | cons c cs =>
        have hca : compareComponents (c :: cs) (a :: as) = .lt := by
          rw [compareComponents_swap, hac]
          rfl
        have hac' : compareComponent a c ≠ .lt := fun h => by
          rw [compareComponents, h] at hac
          cases hac
        rcases between_of_circle (ne_gt_of_then_ne_gt hab) (ne_gt_of_then_ne_gt hbc) hac' with
          ⟨hab', hbc', hac'⟩ | h | h | h
        · have hca' : compareComponent c a = .eq := by
            rw [compareComponent_swap a c, hac']
            rfl
          rw [compareComponents_cons_of_eq hab'] at hab
          rw [compareComponents_cons_of_eq hbc'] at hbc
          rw [compareComponents_cons_of_eq hac'] at hac
          rcases ih hab hbc hac with h | h | h
          · exact .inl (.inr ⟨hab', hbc', hca', h⟩)
          · exact .inr (.inl (.inr ⟨hbc', hca', hab', h⟩))
          · exact .inr (.inr (.inr ⟨hca', hab', hbc', h⟩))
        · exact .inl (.inl ⟨h, hca ▸ nofun⟩)
        · exact .inr (.inl (.inl ⟨h, hab⟩))
        · exact .inr (.inr (.inl ⟨h, hbc⟩))

/-- **Torn sequences go round in a circle.** -/
theorem Torn.circle (h : Torn as bs cs) :
    compareComponents as bs = .lt ∧ compareComponents bs cs = .lt ∧
      compareComponents cs as ≠ .gt := by
  induction as generalizing bs cs with
  | nil => cases h
  | cons a as ih =>
    cases bs with
    | nil => cases h
    | cons b bs =>
      cases cs with
      | nil => cases h
      | cons c cs =>
        rcases h with ⟨h, hca⟩ | ⟨hab, hbc, hca, h⟩
        · refine ⟨?_, ?_, hca⟩
          · rw [compareComponents, h.after, Ordering.lt_then]
          · rw [compareComponents, h.before, Ordering.lt_then]
        · rw [compareComponents_cons_of_eq hab, compareComponents_cons_of_eq hbc,
            compareComponents_cons_of_eq hca]
          exact ih h

/-- A sequence of numbers stands between no others. -/
theorem not_torn_of_numbers (h : ∀ b ∈ bs, (number? b).isSome) : ¬ Torn as bs cs := by
  induction bs generalizing as cs with
  | nil => cases as <;> exact id
  | cons b bs ih =>
    obtain ⟨hb, hbs⟩ := List.forall_mem_cons.mp h
    cases as with
    | nil => exact id
    | cons a as =>
      cases cs with
      | nil => exact id
      | cons c cs =>
        rintro (⟨htorn, -⟩ | ⟨-, -, -, htorn⟩)
        · rw [htorn.isText] at hb
          cases hb
        · exact ih hbs htorn

theorem eq_of_same_sides {o o' : Ordering} (hle : o ≠ .gt ↔ o' ≠ .gt) (hge : o ≠ .lt ↔ o' ≠ .lt) :
    o = o' := by
  cases o <;> cases o' <;> simp_all

/-- **Where the comparison of sequences is consistent.** Every sequence equals itself, and turning a
comparison round turns its result round. Among the sequences of a set, the comparison is transitive
and equal ones compare alike exactly if no three of them are torn. -/
theorem consistent_iff_not_torn (S : Set String) :
    (∀ a, compare a a = .eq) ∧ (∀ a b, compare b a = (compare a b).swap) ∧
      ((∀ a ∈ S, ∀ b ∈ S, ∀ c ∈ S,
          (compare a b ≠ .gt → compare b c ≠ .gt → compare a c ≠ .gt) ∧
            (compare a b = .eq → compare a c = compare b c)) ↔
        ∀ a ∈ S, ∀ b ∈ S, ∀ c ∈ S, ¬ Torn (components a) (components b) (components c)) := by
  have hswap (a b : String) : compare b a = (compare a b).swap := compareComponents_swap _ _
  refine ⟨fun a => compareComponents_self _, hswap, fun h a ha b hb c hc htorn => ?_, fun h => ?_⟩
  · -- the last one is before the first, and the first before the text
    obtain ⟨hab, hbc, hca⟩ := htorn.circle
    have hcb : compare c b = .gt := by
      rw [hswap b c, show compare b c = .lt from hbc]
      rfl
    exact (h c hc a ha b hb).1 hca (fun hgt => by cases hab.symm.trans hgt) hcb
  · have htrans : ∀ a ∈ S, ∀ b ∈ S, ∀ c ∈ S,
        compare a b ≠ .gt → compare b c ≠ .gt → compare a c ≠ .gt := by
      intro a ha b hb c hc hab hbc hac
      rcases torn_of_circle hab hbc hac with htorn | htorn | htorn
      · exact h a ha b hb c hc htorn
      · exact h b hb c hc a ha htorn
      · exact h c hc a ha b hb htorn
    refine fun a ha b hb c hc => ⟨htrans a ha b hb c hc, fun hab => ?_⟩
    have hle : compare a b ≠ .gt := hab ▸ nofun
    have hle' : compare b a ≠ .gt := by
      rw [hswap a b, hab]
      exact nofun
    have hlt (x y : String) : compare x y ≠ .lt ↔ compare y x ≠ .gt := by
      rw [hswap x y, Ne, Ne, Ordering.swap_eq_gt]
    -- neither is greater than the other, so the same ones come before both and after both
    refine eq_of_same_sides ⟨htrans b hb a ha c hc hle', htrans a ha b hb c hc hle⟩ ?_
    rw [hlt a c, hlt b c]
    exact ⟨fun h => htrans c hc a ha b hb h hle, fun h => htrans c hc b hb a ha h hle'⟩

/-- Nine comes before ten and ten before `1a`, but nine after `1a`; and `0a` stands between two
spellings of one. -/
theorem nine_ten_in_circle :
    compare "9" "10" = .lt ∧ compare "10" "1a" = .lt ∧ compare "9" "1a" = .gt ∧
      compare "01" "1" = .eq ∧ compare "01" "0a" = .lt ∧ compare "1" "0a" = .gt := by
  decide +kernel

end Sequence
end Facetry
