/-
# Capital letters of capitalized names

A supporting method is called a word and then the capitalized name of its member. Its name is
reserved if a new word starts there, that is, if the capitalized name of a property starts with a
capital letter or a digit. The name of the property starts with the lower case of such a character,
or with the character itself. A capital letter is its own upper case, since no run of capital letters
has a letter in common with those that have an upper case. So the question is whether the upper case
of the lower case of a capital letter starts with a capital letter again. It is the same letter but for
six (`Text.lostCapitals`): they share their lower case with another letter, or it is two letters, or
its upper case is. For these the answer is looked up.

The tables of cases hold some thousand characters in a few hundred runs. They are compared run by
run: the table of upper cases moves most runs back as a whole that the table of lower cases moved, and
the rest is small.

Key definitions: `Text.Run.Holds`, `Text.Ascending`, `Text.runsApart`, `Text.lostCapitals`,
`Text.Shift.isUndone`.
Key theorems: `Text.upperChar_of_isUppercase`, `Text.exists_lowerChar_of_not_lost`,
`Text.exists_upperChar_lowerChar`, `Naming.startsWith_append_capitalize`.
-/
import Facetry.Proofs.SupportNames

namespace Facetry

namespace Text

/-! ### Runs -/

namespace Run

/-- Whether a number lies on the run. -/
def Holds (r : Run) (n : Nat) : Prop := r.first ≤ n ∧ n ≤ r.last ∧ (n - r.first) % r.stride = 0

/-! The tests are written with the comparisons that are evaluated fastest. -/

/-- Whether the run is a part of another, with the same stride or a multiple of it. -/
def isWithin (r s : Run) : Bool :=
  Nat.ble s.first r.first && Nat.ble r.last s.last && Nat.beq ((r.first - s.first) % s.stride) 0 &&
    Nat.beq (r.stride % s.stride) 0

/-- Whether all numbers on the run are even, or all of them odd. -/
def isOfOneParity (r : Run) : Bool := Nat.beq (r.stride % 2) 0 || Nat.beq r.first r.last

/-- Whether one run ends before the other begins, or the numbers of one are even and those of the
other odd. -/
def isApart (r s : Run) : Bool :=
  Nat.ble (r.last + 1) s.first || Nat.ble (s.last + 1) r.first ||
    (r.isOfOneParity && s.isOfOneParity && !Nat.beq (r.first % 2) (s.first % 2))

/-- Whether all numbers on the run are those of characters. -/
def isOfChars (r : Run) : Bool := r.last < 0xD800 || (0xDFFF < r.first && r.last < 0x110000)

variable {r s : Run} {n : Nat}

theorem Holds.of_isWithin (hn : r.Holds n) (h : r.isWithin s) : s.Holds n := by
  simp only [isWithin, Bool.and_eq_true, Nat.ble_eq, Nat.beq_eq] at h
  obtain ⟨⟨⟨hfirst, hlast⟩, hstart⟩, hstride⟩ := h
  obtain ⟨hlow, hhigh, hmod⟩ := hn
  refine ⟨by omega, by omega, ?_⟩
  have hsum : n - s.first = (r.first - s.first) + (n - r.first) := by omega
  have hsteps : s.stride ∣ n - r.first :=
    Nat.dvd_trans (Nat.dvd_of_mod_eq_zero hstride) (Nat.dvd_of_mod_eq_zero hmod)
  rw [hsum]
  exact Nat.mod_eq_zero_of_dvd (Nat.dvd_add (Nat.dvd_of_mod_eq_zero hstart) hsteps)

theorem Holds.mod_two (hn : r.Holds n) (h : r.isOfOneParity) : n % 2 = r.first % 2 := by
  obtain ⟨hlow, hhigh, hmod⟩ := hn
  simp only [isOfOneParity, Bool.or_eq_true, Nat.beq_eq] at h
  rcases h with heven | hone
  · have hstride : 2 ∣ n - r.first :=
      Nat.dvd_trans (Nat.dvd_of_mod_eq_zero heven) (Nat.dvd_of_mod_eq_zero hmod)
    omega
  · omega

theorem Holds.not_holds_of_isApart (hn : r.Holds n) (h : r.isApart s) : ¬ s.Holds n := by
  intro hn'
  simp only [isApart, Bool.or_eq_true, Bool.and_eq_true, Nat.ble_eq, Bool.not_eq_true'] at h
  rcases h with (hbefore | hafter) | ⟨⟨hr, hs⟩, hdiffer⟩
  · have := hn.2.1
    have := hn'.1
    omega
  · have := hn.1
    have := hn'.2.1
    omega
  · have hsame : r.first % 2 = s.first % 2 := (hn.mod_two hr).symm.trans (hn'.mod_two hs)
    rw [hsame, Nat.beq_refl] at hdiffer
    cases hdiffer

theorem Holds.toNat_ofNat (hn : r.Holds n) (h : r.isOfChars) : (Char.ofNat n).toNat = n := by
  have hvalid : n.isValidChar := by
    obtain ⟨hlow, hhigh, -⟩ := hn
    simp only [isOfChars, Bool.or_eq_true, Bool.and_eq_true, decide_eq_true_eq] at h
    unfold Nat.isValidChar
    omega
  rw [Char.ofNat, dif_pos hvalid]
  rfl

end Run

/-- The run ends before another begins. -/
def Run.Precedes (r s : Run) : Prop := r.first ≤ r.last ∧ r.last < s.first

instance : DecidableRel Run.Precedes := fun r s =>
  inferInstanceAs (Decidable (r.first ≤ r.last ∧ r.last < s.first))

instance : Trans Run.Precedes Run.Precedes Run.Precedes where
  trans h h' := ⟨h.1, by have := h.2; have := h'.1; have := h'.2; omega⟩

/-- The runs stand in increasing order. -/
def Ascending (runs : List Run) : Prop := runs.Pairwise Run.Precedes

/-- It suffices to compare neighbours. -/
theorem ascending_of_isChain {runs : List Run} (h : runs.IsChain Run.Precedes) : Ascending runs :=
  List.isChain_iff_pairwise.mp h

/-- Whether no number lies on one of the runs and on one of the others, where both stand in increasing
order. The others are gone through once: what ends before a run ends before all that follow. -/
def runsApart : List Run → List Run → Bool
  | [], _ => true
  | r :: rs, ss =>
    let rest := ss.dropWhile fun s => Nat.ble (s.last + 1) r.first
    (rest.takeWhile fun s => Nat.ble s.first r.last).all r.isApart && runsApart rs rest

theorem Ascending.lt_first_of_mem_dropWhile {runs : List Run} (h : Ascending runs) {s : Run}
    {bound : Nat} (hs : s ∈ runs.dropWhile fun s => Nat.ble s.first bound) : bound < s.first := by
  cases hrest : runs.dropWhile fun s => Nat.ble s.first bound with
  | nil =>
    rw [hrest] at hs
    cases hs
  | cons t ts =>
    have hfirst : bound < t.first := by
      have hstop := List.head?_dropWhile_not (fun s : Run => Nat.ble s.first bound) runs
      rw [hrest] at hstop
      exact Nat.lt_of_not_le fun hle => Bool.eq_false_iff.mp hstop (Nat.ble_eq.mpr hle)
    have hasc : Ascending (t :: ts) := hrest ▸ h.sublist (List.dropWhile_sublist _)
    rw [hrest] at hs
    rcases List.mem_cons.mp hs with rfl | hs
    · exact hfirst
    · have hafter : t.Precedes s := (List.pairwise_cons.mp hasc).1 s hs
      exact Nat.lt_of_lt_of_le hfirst (Nat.le_trans hafter.1 (Nat.le_of_lt hafter.2))

theorem not_holds_of_runsApart {rs ss : List Run} (hrs : Ascending rs) (hss : Ascending ss)
    (h : runsApart rs ss) {r s : Run} (hr : r ∈ rs) (hs : s ∈ ss) {n : Nat} (hn : r.Holds n) :
    ¬ s.Holds n := by
  induction rs generalizing ss with
  | nil => cases hr
  | cons first rest ih =>
    obtain ⟨hfirst, hrest⟩ := List.pairwise_cons.mp hrs
    obtain ⟨hnow, hlater⟩ := Bool.and_eq_true_iff.mp h
    have hkept : Ascending (ss.dropWhile fun s => Nat.ble (s.last + 1) first.first) :=
      hss.sublist (List.dropWhile_sublist _)
    rw [← List.takeWhile_append_dropWhile (p := fun s => Nat.ble (s.last + 1) first.first)
      (l := ss)] at hs
    rcases List.mem_append.mp hs with hs | hs
    · -- the other run ends before the first one begins, and so before all of them
      have hbefore : s.last < first.first := Nat.ble_eq.mp (List.all_eq_true.mp List.all_takeWhile s hs)
      have hlow : first.first ≤ n := by
        rcases List.mem_cons.mp hr with rfl | hr
        · exact hn.1
        · have hafter := hfirst r hr
          exact Nat.le_trans hafter.1 (Nat.le_trans (Nat.le_of_lt hafter.2) hn.1)
      exact fun hn' => Nat.not_lt.mpr hlow (Nat.lt_of_le_of_lt hn'.2.1 hbefore)
    · rcases List.mem_cons.mp hr with rfl | hr
      · rw [← List.takeWhile_append_dropWhile (p := fun s => Nat.ble s.first r.last)
          (l := ss.dropWhile _)] at hs
        rcases List.mem_append.mp hs with hs | hs
        · exact hn.not_holds_of_isApart (List.all_eq_true.mp hnow s hs)
        · have hbeyond : r.last < s.first := hkept.lt_first_of_mem_dropWhile hs
          exact fun hn' => Nat.not_lt.mpr hn.2.1 (Nat.lt_of_lt_of_le hbeyond hn'.1)
      · exact ih hrest hkept hlater hr hs

/-- The run that is moved. -/
def Shift.domain (s : Shift) : Run := ⟨s.first, s.last, s.stride⟩

/-- Where the run is moved. -/
def Shift.image (s : Shift) : Run := ⟨s.target, s.target + (s.last - s.first), s.stride⟩

section Tables

variable {runs : List Run} {shifts : List Shift} {n : Nat}

theorem exists_holds_of_inRuns (h : inRuns n runs) : ∃ r ∈ runs, r.Holds n := by
  induction runs with
  | nil => cases h
  | cons first rest ih =>
    unfold inRuns at h
    split at h
    · cases h
    · split at h
      · exact ⟨first, List.mem_cons_self, by omega, ‹_›, beq_iff_eq.mp h⟩
      · obtain ⟨r, hr, hn⟩ := ih h
        exact ⟨r, List.mem_cons_of_mem _ hr, hn⟩

theorem shifted_of_holds (hasc : Ascending (shifts.map Shift.domain)) {s : Shift}
    (hs : s ∈ shifts) (hn : s.domain.Holds n) : shifted n shifts = s.target + (n - s.first) := by
  induction shifts with
  | nil => cases hs
  | cons first rest ih =>
    obtain ⟨hfirst, hrest⟩ := List.pairwise_cons.mp hasc
    unfold shifted
    rcases List.mem_cons.mp hs with rfl | hs
    · obtain ⟨hlow, hhigh, hmod⟩ := hn
      simp only [Shift.domain] at hlow hhigh hmod
      rw [if_neg (Nat.not_lt.mpr hlow), if_pos hhigh, if_pos (beq_iff_eq.mpr hmod)]
    · have hbefore := hfirst s.domain (List.mem_map_of_mem hs)
      have hlow := hn.1
      simp only [Run.Precedes, Shift.domain] at hbefore hlow
      rw [if_neg (by omega), if_neg (by omega)]
      exact ih hrest hs

theorem shifted_eq_or (n : Nat) (shifts : List Shift) :
    shifted n shifts = n ∨
      ∃ s ∈ shifts, s.domain.Holds n ∧ shifted n shifts = s.target + (n - s.first) := by
  induction shifts with
  | nil => exact .inl rfl
  | cons first rest ih =>
    unfold shifted
    split
    · exact .inl rfl
    · split
      · split
        · exact .inr ⟨first, List.mem_cons_self, ⟨by simp only [Shift.domain]; omega, ‹_›,
            beq_iff_eq.mp ‹_›⟩, rfl⟩
        · exact .inl rfl
      · rcases ih with h | ⟨s, hs, h⟩
        · exact .inl h
        · exact .inr ⟨s, List.mem_cons_of_mem _ hs, h⟩

theorem Shift.holds_image {s : Shift} (hn : s.domain.Holds n) :
    s.image.Holds (s.target + (n - s.first)) := by
  obtain ⟨hlow, hhigh, hmod⟩ := hn
  simp only [domain] at hlow hhigh hmod
  refine ⟨Nat.le_add_right _ _, ?_, ?_⟩
  · simp only [image]
    omega
  · rwa [image, Nat.add_sub_cancel_left]

end Tables

/-! ### Capital letters and their upper case -/

/-- The characters that have more than one character as their upper case, each a run of its own. -/
def expandedRuns : List Run := upperExpansions.map fun e => ⟨e.1, e.1, 1⟩

theorem ascending_tables : Ascending uppercaseRuns ∧ Ascending (upperShifts.map Shift.domain) ∧
    Ascending expandedRuns :=
  ⟨ascending_of_isChain (by decide +kernel), ascending_of_isChain (by decide +kernel),
    ascending_of_isChain (by decide +kernel)⟩

/-- What lies on a run apart from them has at most one character as its upper case. -/
theorem lookup_upperExpansions {runs : List Run} (hasc : Ascending runs)
    (h : runsApart runs expandedRuns) {r : Run} (hr : r ∈ runs) {n : Nat} (hn : r.Holds n) :
    upperExpansions.lookup n = none := by
  refine List.lookup_eq_none_iff.mpr fun e he => bne_iff_ne.mpr fun heq => ?_
  have hsingle : (⟨e.1, e.1, 1⟩ : Run).Holds n := by simp [Run.Holds, heq]
  exact not_holds_of_runsApart hasc ascending_tables.2.2 h hr (List.mem_map_of_mem he) hn hsingle

/-- No capital letter has an upper case other than itself. -/
theorem upperImage_of_upper {n : Nat} (h : inRuns n uppercaseRuns) :
    caseImage upperExpansions upperShifts n = [n] := by
  have hexpansions : runsApart uppercaseRuns expandedRuns := by decide +kernel
  have hshifts : runsApart uppercaseRuns (upperShifts.map Shift.domain) := by decide +kernel
  obtain ⟨huppercase, hascending, -⟩ := ascending_tables
  obtain ⟨r, hr, hn⟩ := exists_holds_of_inRuns h
  have hshifted : shifted n upperShifts = n := by
    refine (shifted_eq_or n upperShifts).resolve_right ?_
    rintro ⟨s, hs, hholds, -⟩
    exact not_holds_of_runsApart huppercase hascending hshifts hr (List.mem_map_of_mem hs) hn hholds
  rw [caseImage, lookup_upperExpansions huppercase hexpansions hr hn, hshifted]

/-- **A capital letter is its own upper case.** -/
theorem upperChar_of_isUppercase {c : Char} (h : isUppercase c) : upperChar c = [c] := by
  rw [upperChar, upperImage_of_upper h, List.map_singleton, Char.ofNat_toNat]

/-! ### Capital letters that come back from their lower case -/

/-- The capital letters that are not the upper case of their lower case: the dotted I, the theta
symbol, the sharp S, and the signs for ohm, kelvin and angstrom. -/
def lostCapitals : List Char := ['\u0130', '\u03F4', '\u1E9E', '\u2126', '\u212A', '\u212B']

/-- Whether another shift moves the image of the shift back to where it was. -/
def Shift.isUndoneBy (s t : Shift) : Bool :=
  s.image.isWithin t.domain && Nat.beq (t.target + (s.target - t.first)) s.first

/-- Whether the number that the shift moves by `k` places from its first is no capital letter, or one
that is lost, or comes back from its image. -/
def Shift.comesBack (s : Shift) (k : Nat) : Bool :=
  !inRuns (s.first + k) uppercaseRuns || lostCapitals.any (Nat.beq ·.toNat (s.first + k)) ||
    caseImage upperExpansions upperShifts (s.target + k) == [s.first + k]

/-- Whether every capital letter that the shift moves is lost or comes back from its image: all of
them by the first shift that reaches so far, or each for itself. -/
def Shift.isUndone (s : Shift) : Bool :=
  (upperShifts.find? fun t => Nat.ble s.target t.last).any s.isUndoneBy &&
      runsApart [s.image] expandedRuns ||
    (List.range (s.last + 1 - s.first)).all s.comesBack

theorem Shift.upperImage_of_isUndone {s : Shift} {n : Nat} (h : s.isUndone)
    (hn : s.domain.Holds n) (hupper : inRuns n uppercaseRuns)
    (hlost : ∀ c ∈ lostCapitals, c.toNat ≠ n) :
    caseImage upperExpansions upperShifts (s.target + (n - s.first)) = [n] := by
  have hlow : s.first ≤ n := hn.1
  have hhigh : n ≤ s.last := hn.2.1
  rcases Bool.or_eq_true_iff.mp h with h | h
  · obtain ⟨hshift, hexpansions⟩ := Bool.and_eq_true_iff.mp h
    obtain ⟨t, hfound, hback⟩ := (Option.any_eq_true ..).mp hshift
    have ht : t ∈ upperShifts := List.mem_of_find?_eq_some hfound
    obtain ⟨hwithin, htarget⟩ := Bool.and_eq_true_iff.mp hback
    have himage : t.domain.Holds (s.target + (n - s.first)) :=
      (holds_image hn).of_isWithin hwithin
    have hlookup : upperExpansions.lookup (s.target + (n - s.first)) = none :=
      lookup_upperExpansions (List.pairwise_singleton _ _) hexpansions List.mem_cons_self
        (holds_image hn)
    have hfirst : t.first ≤ s.target := by
      simp only [Run.isWithin, Bool.and_eq_true, Nat.ble_eq] at hwithin
      exact hwithin.1.1.1
    rw [Nat.beq_eq] at htarget
    rw [caseImage, hlookup, shifted_of_holds ascending_tables.2.1 ht himage, List.singleton_inj]
    omega
  · have hplace : s.first + (n - s.first) = n := Nat.add_sub_cancel' hlow
    have hrange : n - s.first ∈ List.range (s.last + 1 - s.first) :=
      List.mem_range.mpr (by omega)
    have hback := List.all_eq_true.mp h _ hrange
    rw [comesBack, hplace, hupper, Bool.not_true, Bool.false_or] at hback
    rcases Bool.or_eq_true_iff.mp hback with hlisted | hback
    · obtain ⟨c, hc, heq⟩ := List.any_eq_true.mp hlisted
      exact absurd (Nat.eq_of_beq_eq_true heq) (hlost c hc)
    · exact beq_iff_eq.mp hback

/-- A capital letter that is not lost has one letter as its lower case, and is its upper case. -/
theorem exists_lowerImage_of_not_lost {n : Nat} (h : inRuns n uppercaseRuns)
    (hlost : ∀ c ∈ lostCapitals, c.toNat ≠ n) :
    ∃ m, caseImage lowerExpansions lowerShifts n = [m] ∧ (Char.ofNat m).toNat = m ∧
      caseImage upperExpansions upperShifts m = [n] := by
  have hexpansions : ∀ e ∈ lowerExpansions, lostCapitals.any (·.toNat == e.1) := by decide +kernel
  have hundone : ∀ s ∈ lowerShifts, s.isUndone := by decide +kernel
  have hchars : ∀ r ∈ uppercaseRuns ++ lowerShifts.map Shift.image, r.isOfChars := by
    decide +kernel
  have hlookup : lowerExpansions.lookup n = none := by
    refine List.lookup_eq_none_iff.mpr fun e he => bne_iff_ne.mpr fun heq => ?_
    obtain ⟨c, hc, hnumber⟩ := List.any_eq_true.mp (hexpansions e he)
    exact hlost c hc ((beq_iff_eq.mp hnumber).trans heq.symm)
  rw [caseImage, hlookup]
  rcases shifted_eq_or n lowerShifts with hself | ⟨s, hs, hholds, hmoved⟩
  · obtain ⟨r, hr, hn⟩ := exists_holds_of_inRuns h
    have hchar : (Char.ofNat n).toNat = n :=
      hn.toNat_ofNat (hchars r (List.mem_append_left _ hr))
    exact ⟨n, by rw [hself], hchar, upperImage_of_upper h⟩
  · have himage : s.image ∈ uppercaseRuns ++ lowerShifts.map Shift.image :=
      List.mem_append_right _ (List.mem_map_of_mem hs)
    exact ⟨s.target + (n - s.first), by rw [hmoved],
      (Shift.holds_image hholds).toNat_ofNat (hchars _ himage),
      Shift.upperImage_of_isUndone (hundone s hs) hholds h hlost⟩

/-- **A capital letter that is not lost comes back from its lower case.** -/
theorem exists_lowerChar_of_not_lost {c : Char} (h : isUppercase c) (hlost : c ∉ lostCapitals) :
    ∃ d, lowerChar c = [d] ∧ upperChar d = [c] := by
  have hlost' : ∀ d ∈ lostCapitals, d.toNat ≠ c.toNat := by
    intro d hd heq
    exact hlost (Char.toNat_inj.mp heq ▸ hd)
  obtain ⟨m, hlower, hchar, hupper⟩ := exists_lowerImage_of_not_lost h hlost'
  refine ⟨Char.ofNat m, by rw [lowerChar, hlower, List.map_singleton], ?_⟩
  rw [upperChar, hchar, hupper, List.map_singleton, Char.ofNat_toNat]

/-- **The upper case of the lower case of a capital letter starts with a capital letter**, although
not with the same one if the letter is lost. -/
theorem exists_upperChar_lowerChar {c : Char} (h : isUppercase c) :
    ∃ d ds e es, lowerChar c = d :: ds ∧ upperChar d = e :: es ∧ isUppercase e := by
  by_cases hlost : c ∈ lostCapitals
  · have hall : lostCapitals.all fun c =>
        (lowerChar c).head?.any fun d => (upperChar d).head?.any isUppercase := by decide +kernel
    obtain ⟨d, hd, hback⟩ := (Option.any_eq_true ..).mp (List.all_eq_true.mp hall c hlost)
    obtain ⟨e, he, hupper⟩ := (Option.any_eq_true ..).mp hback
    obtain ⟨ds, hlower⟩ := List.head?_eq_some_iff.mp hd
    obtain ⟨es, hback⟩ := List.head?_eq_some_iff.mp he
    exact ⟨d, ds, e, es, hlower, hback, hupper⟩
  · obtain ⟨d, hlower, hback⟩ := exists_lowerChar_of_not_lost h hlost
    exact ⟨d, [], c, [], hlower, hback, h⟩

end Text

namespace Naming

open Text

/-- A capitalized name starts a new word if the name was made from one that did. -/
theorem exists_capitalizeChars {c : Char} (h : startsWord c) (cs : List Char) :
    ∃ d ds, capitalizeChars (decapitalizeChars (c :: cs)) = d :: ds ∧ startsWord d := by
  obtain ⟨hself, d, ds, e, es, hlower, hback, hword⟩ : upperChar c = [c] ∧
      ∃ d ds e es, lowerChar c = d :: ds ∧ upperChar d = e :: es ∧ startsWord e := by
    rcases Bool.or_eq_true_iff.mp h with hupper | hdigit
    · obtain ⟨d, ds, e, es, hd, he, hword⟩ := exists_upperChar_lowerChar hupper
      exact ⟨upperChar_of_isUppercase hupper, d, ds, e, es, hd, he, by simp [startsWord, hword]⟩
    · obtain ⟨hself, d, hd, hback⟩ := upperChar_of_plain (c := c) (by simp [hdigit])
      exact ⟨hself, d, [], c, [], hd, hback, h⟩
  cases cs with
  | nil =>
    exact ⟨e, es ++ ds, by rw [decapitalizeChars, hlower, capitalizeChars, hback]; rfl, hword⟩
  | cons c' cs =>
    rw [decapitalizeChars]
    split
    · exact ⟨c, c' :: cs, by rw [capitalizeChars, hself]; rfl, h⟩
    · exact ⟨e, es ++ (ds ++ c' :: cs), by
        rw [hlower, List.cons_append, capitalizeChars, hback]; rfl, hword⟩

/-- **What supports a property has a reserved name**: a new word starts after any word that is put
before the capitalized name of the property. -/
theorem startsWith_append_capitalize {name id : String} (h : propertyOf? name = some id)
    (word : String) : startsWith word (word ++ capitalize id) := by
  rw [propertyOf?_eq] at h
  obtain ⟨S, hS, rfl⟩ := Option.map_eq_some_iff.mp h
  obtain ⟨c, cs, rfl, hc⟩ := exists_of_suffix? hS
  obtain ⟨d, ds, hname, hd⟩ := exists_capitalizeChars hc cs
  rw [capitalize, decapitalize, String.toList_ofList, String.toList_ofList, hname]
  exact startsWith_of_startsWord hd word

end Naming
end Facetry
