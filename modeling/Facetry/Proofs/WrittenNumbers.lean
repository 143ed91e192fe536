/-
# Numbers are told apart by their texts

A number is written as a literal: a sign, digits before and after a point, and a power of ten.
The reader takes every literal apart again as it was put together. What the literal of a number
stands for, its sign and its magnitude, is the number's own, and a literal has a fraction or a
power exactly if the number is a decimal. So two numbers with one text are equal, if their
decimals are in lowest terms; only then has a decimal just one representation. Whatever is
read from a text is in lowest terms.

Key definitions: `Decimal.isReduced`, `Json.Number.Literal.chars`, `Json.Number.Literal.Denotes`.
Key theorems: `Decimal.isReduced_reduced`, `Json.Number.literal?_chars`,
`Json.Number.exists_literal`, `Json.Number.text_append_inj`.
-/
import Facetry.Json.Reader
import Facetry.Json.Writer
import Mathlib.Algebra.Order.Field.Rat
import Mathlib.Tactic.IntervalCases
import Mathlib.Tactic.Ring

namespace Facetry

/-! ### Digits -/

namespace Text

theorem ofDigits_digitsOf (n : Nat) : ofDigits (digitsOf n) = n := Nat.ofDigitChars_ten_toDigits

theorem ofDigits_append (as bs : List Char) :
    ofDigits (as ++ bs) = ofDigits as * 10 ^ bs.length + ofDigits bs := by
  have hfrom : ∀ (cs : List Char) (n : Nat),
      cs.foldl (fun n c => 10 * n + digitValue c) n = n * 10 ^ cs.length + ofDigits cs := by
    intro cs
    induction cs with
    | nil => simp [ofDigits]
    | cons c cs ih =>
      intro n
      rw [ofDigits, List.foldl_cons, List.foldl_cons, ih, ih (10 * 0 + _), List.length_cons]
      ring
  rw [ofDigits, List.foldl_append, hfrom]
  rfl

theorem ofDigits_zeros (count : Nat) : ofDigits (List.replicate count '0') = 0 := by
  induction count with
  | zero => rfl
  | succ count ih =>
    rw [List.replicate_succ', ofDigits_append, ih]
    rfl

theorem digitsOf_ne_nil (n : Nat) : digitsOf n ≠ [] := Nat.toDigits_ne_nil

theorem isDigit_of_mem_digitsOf {n : Nat} {c : Char} (h : c ∈ digitsOf n) : c.isDigit :=
  Nat.isDigit_of_mem_toDigits (by decide) (by decide) h

/-- The digits of a number other than zero start with no zero. -/
theorem head?_digitsOf {n : Nat} (h : n ≠ 0) : (digitsOf n).head? ≠ some '0' := by
  induction n using Nat.strongRecOn with
  | ind n ih =>
    rcases Nat.lt_or_ge n 10 with hlt | hge
    · rw [digitsOf, Nat.toDigits_of_lt_base hlt]
      interval_cases n <;> first | exact absurd rfl h | decide
    · have hrest := ih (n / 10) (Nat.div_lt_self (Nat.pos_of_ne_zero h) (by decide)) (by omega)
      obtain ⟨c, cs, hdigits⟩ := List.exists_cons_of_ne_nil (digitsOf_ne_nil (n / 10))
      rw [hdigits] at hrest
      rw [digitsOf, Nat.toDigits_of_base_le (by decide) hge, ← digitsOf, hdigits]
      exact hrest

end Text

open Text

/-! ### Lowest terms -/

namespace Decimal

/-- Whether the decimal is in lowest terms. -/
def isReduced (d : Decimal) : Bool :=
  if d.coefficient = 0 then d.exponent == 0 else d.coefficient % 10 != 0

theorem stripZeros_spec {fuel n : Nat} (hn : n ≠ 0) (hfuel : n ≤ fuel) :
    (stripZeros fuel n).1 % 10 ≠ 0 := by
  induction fuel generalizing n with
  | zero => exact absurd (Nat.le_zero.mp hfuel) hn
  | succ fuel ih =>
    rw [stripZeros]
    split
    · exact ih (by omega) (by omega)
    · rename_i h
      exact fun hzero => h ⟨hn, hzero⟩

theorem isReduced_reduced (negative : Bool) (coefficient : Nat) (exponent : Int) :
    (reduced negative coefficient exponent).isReduced := by
  unfold reduced
  split
  · rfl
  · rename_i h
    have hstrip := stripZeros_spec h (Nat.le_refl coefficient)
    show isReduced ⟨negative, (stripZeros coefficient coefficient).1, _⟩
    have hzero : (stripZeros coefficient coefficient).1 ≠ 0 := fun hzero =>
      hstrip (congrArg (· % 10) hzero)
    rw [isReduced, if_neg hzero]
    exact bne_iff_ne.mpr hstrip

/-- The absolute value. -/
def magnitude (d : Decimal) : ℚ := d.coefficient * 10 ^ d.exponent

/-- A whole number that does not end with a zero has the lower power of ten of two products only if
the powers are the same. -/
theorem eq_of_mul_pow_eq {m n : Nat} {i j : Int} (hm : m % 10 ≠ 0) (hij : i ≤ j)
    (h : (m : ℚ) * 10 ^ i = n * 10 ^ j) : m = n ∧ i = j := by
  obtain ⟨k, rfl⟩ := Int.le.dest hij
  have hpow : (10 : ℚ) ^ i ≠ 0 := zpow_ne_zero i (by norm_num)
  have hcancel : (m : ℚ) = n * 10 ^ k := by
    refine mul_right_cancel₀ hpow (h.trans ?_)
    rw [zpow_add₀ (by norm_num), zpow_natCast]
    ring
  have hnat : m = n * 10 ^ k := by exact_mod_cast hcancel
  cases k with
  | zero => simpa using hnat
  | succ k =>
    refine absurd ?_ hm
    rw [hnat, pow_succ, ← mul_assoc, Nat.mul_mod_left]

/-- **A decimal in lowest terms is given by its sign and its absolute value.** -/
theorem eq_of_magnitude_eq {a b : Decimal} (ha : a.isReduced) (hb : b.isReduced)
    (hsign : a.negative = b.negative) (h : a.magnitude = b.magnitude) : a = b := by
  obtain ⟨negative, m, i⟩ := a
  obtain ⟨negative', n, j⟩ := b
  obtain rfl : negative = negative' := hsign
  have hpow (k : Int) : (10 : ℚ) ^ k ≠ 0 := zpow_ne_zero k (by norm_num)
  have hvalue : (m : ℚ) * 10 ^ i = n * 10 ^ j := h
  simp only [isReduced] at ha hb
  by_cases hm : m = 0
  · have hn : n = 0 := by simpa [hm, hpow] using hvalue
    simp_all
  · have hn : n ≠ 0 := fun hn => hm (by simpa [hn, hpow] using hvalue)
    rw [if_neg hm, bne_iff_ne] at ha
    rw [if_neg hn, bne_iff_ne] at hb
    rcases Int.le_total i j with hij | hji
    · obtain ⟨rfl, rfl⟩ := eq_of_mul_pow_eq ha hij hvalue
      rfl
    · obtain ⟨rfl, rfl⟩ := eq_of_mul_pow_eq hb hji hvalue.symm
      rfl

end Decimal

/-! ### Literals -/

namespace Json.Number

namespace Literal

/-- The characters of a power of ten, after a mark for it. -/
def powerChars (power : Int) : List Char :=
  'e' :: (if 0 ≤ power then '+' else '-') :: digitsOf power.natAbs

/-- The characters of a literal. -/
def chars (l : Literal) : List Char :=
  (if l.negative then ['-'] else []) ++ l.whole ++ (l.fraction.elim [] ('.' :: ·)) ++
    l.power.elim [] powerChars

/-- A literal as the grammar of numbers wants it. -/
structure WellFormed (l : Literal) : Prop where
  whole : l.whole ≠ [] ∧ ∀ c ∈ l.whole, c.isDigit
  noLeadingZero : l.whole.head? = some '0' → l.whole.length = 1
  fraction : ∀ fraction ∈ l.fraction, fraction ≠ [] ∧ ∀ c ∈ fraction, c.isDigit

end Literal

/-- The digits at the start of a text. -/
theorem span_digits {digits rest : List Char} (hdigits : ∀ c ∈ digits, c.isDigit)
    (hrest : ∀ c ∈ rest.head?, ¬ c.isDigit) :
    (digits ++ rest).takeWhile Char.isDigit = digits ∧
      (digits ++ rest).dropWhile Char.isDigit = rest := by
  have hnone : rest.takeWhile Char.isDigit = [] ∧ rest.dropWhile Char.isDigit = rest := by
    cases rest with
    | nil => exact ⟨rfl, rfl⟩
    | cons c rest =>
      have hc : ¬ c.isDigit := hrest c rfl
      rw [List.takeWhile_cons, List.dropWhile_cons, if_neg hc, if_neg hc]
      exact ⟨rfl, rfl⟩
  rw [List.takeWhile_append_of_pos hdigits, List.dropWhile_append_of_pos hdigits, hnone.1, hnone.2,
    List.append_nil]
  exact ⟨rfl, rfl⟩

theorem powerOf?_digits (power : Int) :
    powerOf? ((if 0 ≤ power then '+' else '-') :: digitsOf power.natAbs) = some power := by
  have hall : (digitsOf power.natAbs).all Char.isDigit :=
    List.all_eq_true.mpr fun c hc => isDigit_of_mem_digitsOf hc
  have hne : (digitsOf power.natAbs).isEmpty = false :=
    List.isEmpty_eq_false_iff.mpr (digitsOf_ne_nil _)
  by_cases h : 0 ≤ power
  · rw [if_pos h]
    simp only [powerOf?, hall, hne, ofDigits_digitsOf]
    simp [Int.natAbs_of_nonneg h]
  · rw [if_neg h]
    simp only [powerOf?, hall, hne, ofDigits_digitsOf]
    simp [abs_of_neg (not_le.mp h)]

/-- **A literal is taken apart as it was put together.** -/
theorem literal?_chars {l : Literal} (h : l.WellFormed) : literal? l.chars = some l := by
  obtain ⟨negative, whole, fraction, power⟩ := l
  obtain ⟨⟨hne, hwhole⟩, hzero, hfraction⟩ := h
  dsimp only at hne hwhole hzero hfraction
  have hpower : ∀ c ∈ (power.elim [] Literal.powerChars).head?, ¬ c.isDigit := by
    cases power with
    | none => exact fun _ h => nomatch h
    | some power =>
      rintro _ ⟨⟩
      decide
  have hafter : ∀ c ∈ (fraction.elim [] ('.' :: ·) ++ power.elim [] Literal.powerChars).head?,
      ¬ c.isDigit := by
    cases fraction with
    | none => exact hpower
    | some fraction =>
      rintro _ ⟨⟩
      decide
  obtain ⟨hwhole', hrest'⟩ := span_digits hwhole hafter
  unfold literal?
  split
  rename_i minus cs hsign
  obtain ⟨rfl, rfl⟩ : minus = negative ∧
      cs = whole ++ (fraction.elim [] ('.' :: ·) ++ power.elim [] Literal.powerChars) := by
    obtain ⟨c, digits, rfl⟩ := List.exists_cons_of_ne_nil hne
    have hc : c ≠ '-' := by
      rintro rfl
      exact absurd (hwhole _ List.mem_cons_self) (by decide)
    cases negative with
    | true => simpa [Literal.chars, eq_comm] using hsign
    | false => simpa [Literal.chars, hc, eq_comm] using hsign
  have hstart : (whole.isEmpty || whole.head? == some '0' && whole.length != 1) = false := by
    rw [List.isEmpty_eq_false_iff.mpr hne, Bool.false_or]
    by_cases hhead : whole.head? = some '0'
    · simp [hzero hhead]
    · simp [hhead]
  rw [hwhole', hrest']
  cases fraction with
  | none =>
    cases power with
    | none => simp [hstart]
    | some power => simp [hstart, Literal.powerChars, powerOf?_digits]
  | some fraction =>
    obtain ⟨hfraction', hdigits⟩ := hfraction fraction rfl
    obtain ⟨hwhole'', hrest''⟩ := span_digits hdigits hpower
    cases power with
    | none =>
      rw [Option.elim_none, List.append_nil] at hwhole'' hrest''
      simp [hstart, hfraction', hwhole'', hrest'']
    | some power =>
      rw [Option.elim_some, Literal.powerChars] at hwhole'' hrest''
      simp [hstart, hfraction', hwhole'', hrest'', Literal.powerChars, powerOf?_digits]

/-! ### The literal of a number -/

namespace Literal

/-- The absolute value of what the literal stands for. -/
def magnitude (l : Literal) : ℚ :=
  ofDigits (l.whole ++ l.fraction.getD []) * 10 ^ (l.power.getD 0 - (l.fraction.getD []).length)

/-- Whether there are neither a fraction nor a power of ten. -/
def isWhole (l : Literal) : Bool := l.fraction.isNone && l.power.isNone

end Literal

/-- Whether the number is no decimal. -/
def isWhole : Number → Bool
  | decimal _ => false
  | _ => true

/-- Whether the number has a sign. -/
def isNegative : Number → Bool
  | natural _ => false
  | negative _ => true
  | decimal d => d.negative

/-- The absolute value of the number. -/
def magnitude : Number → ℚ
  | natural n => n
  | negative n => n
  | decimal d => d.magnitude

/-- The literal stands for the number. -/
structure Literal.Denotes (l : Literal) (n : Number) : Prop where
  negative : l.negative = n.isNegative
  whole : l.isWhole = n.isWhole
  magnitude : l.magnitude = n.magnitude

/-- Whether a number's decimal is in lowest terms. -/
def isReduced : Number → Bool
  | decimal d => d.isReduced
  | _ => true

/-- **A literal stands for one number only.** -/
theorem Literal.Denotes.unique {l : Literal} {a b : Number} (ha : l.Denotes a) (hb : l.Denotes b)
    (hra : a.isReduced) (hrb : b.isReduced) : a = b := by
  have hsign := ha.negative.symm.trans hb.negative
  have hwhole := ha.whole.symm.trans hb.whole
  have hmagnitude := ha.magnitude.symm.trans hb.magnitude
  cases a with
  | natural m =>
    cases b with
    | natural n => exact congrArg natural (Nat.cast_inj.mp hmagnitude)
    | negative n => cases hsign
    | decimal d => cases hwhole
  | negative m =>
    cases b with
    | natural n => cases hsign
    | negative n => exact congrArg Number.negative (Nat.cast_inj.mp hmagnitude)
    | decimal d => cases hwhole
  | decimal d =>
    cases b with
    | natural n => cases hwhole
    | negative n => cases hwhole
    | decimal d' => exact congrArg decimal (Decimal.eq_of_magnitude_eq hra hrb hsign hmagnitude)

/-- The literal of digits without a point. -/
theorem wellFormed_digits (negative : Bool) (n : Nat) :
    Literal.WellFormed ⟨negative, digitsOf n, none, none⟩ := by
  refine ⟨⟨digitsOf_ne_nil n, fun c hc => isDigit_of_mem_digitsOf hc⟩, fun hzero => ?_,
    fun _ h => nomatch h⟩
  by_cases h : n = 0
  · subst h
    rfl
  · exact absurd hzero (head?_digitsOf h)

theorem magnitude_digits (negative : Bool) (n : Nat) :
    Literal.magnitude ⟨negative, digitsOf n, none, none⟩ = n := by
  simp [Literal.magnitude, ofDigits_digitsOf]

/-- A text is a literal with a fraction or a power, without a sign, that stands for a value. -/
def IsMagnitude (cs : List Char) (value : ℚ) : Prop :=
  ∃ l : Literal, l.WellFormed ∧ l.negative = false ∧ l.isWhole = false ∧ cs = l.chars ∧
    l.magnitude = value

/-! An absolute value is written in one of four forms, by where its point stands among the digits. -/

section Forms

variable {digits : List Char}

theorem isDigit_of_mem_zeros {count : Nat} : ∀ c ∈ List.replicate count '0', c.isDigit := by
  intro c hc
  rw [(List.mem_replicate.mp hc).2]
  decide

/-- All digits are before the point, and zeros follow them. -/
theorem isMagnitude_zeros (hne : digits ≠ []) (hdigits : ∀ c ∈ digits, c.isDigit)
    (hzero : digits.head? ≠ some '0') (k : Nat) :
    IsMagnitude (digits ++ List.replicate k '0' ++ ".0".toList)
      (ofDigits digits * 10 ^ (k : Int)) := by
  refine ⟨⟨false, digits ++ List.replicate k '0', some ['0'], none⟩, ⟨⟨?_, ?_⟩, ?_, ?_⟩, rfl, rfl,
    ?_, ?_⟩
  · simp [hne]
  · exact List.forall_mem_append.mpr ⟨hdigits, isDigit_of_mem_zeros⟩
  · obtain ⟨c, cs, rfl⟩ := List.exists_cons_of_ne_nil hne
    exact fun h => absurd h hzero
  · rintro _ ⟨⟩
    exact ⟨List.cons_ne_nil _ _, List.forall_mem_singleton.mpr rfl⟩
  · simp [Literal.chars]
  · simp only [Literal.magnitude, Option.getD_some, Option.getD_none, ofDigits_append,
      ofDigits_zeros, List.length_replicate, List.length_singleton]
    have hten : (10 : ℚ) ≠ 0 := by norm_num
    rw [show ofDigits ['0'] = 0 from rfl, zpow_natCast]
    push_cast
    rw [zpow_neg_one, add_zero, add_zero, mul_inv_cancel_right₀ hten]

/-- The point is among the digits. -/
theorem isMagnitude_point (hdigits : ∀ c ∈ digits, c.isDigit) (hzero : digits.head? ≠ some '0')
    {k : Nat} (hbefore : 0 < k) (hafter : k < digits.length) :
    IsMagnitude (digits.take k ++ '.' :: digits.drop k)
      (ofDigits digits * 10 ^ ((k : Int) - digits.length)) := by
  have hne : digits ≠ [] := List.length_pos_iff.mp (Nat.zero_lt_of_lt hafter)
  refine ⟨⟨false, digits.take k, some (digits.drop k), none⟩, ⟨⟨?_, ?_⟩, ?_, ?_⟩, rfl, rfl, ?_, ?_⟩
  · simp [hne, hbefore.ne']
  · exact fun c hc => hdigits c (List.mem_of_mem_take hc)
  · obtain ⟨c, cs, rfl⟩ := List.exists_cons_of_ne_nil hne
    obtain ⟨k, rfl⟩ := Nat.exists_eq_succ_of_ne_zero hbefore.ne'
    exact fun h => absurd h hzero
  · rintro _ ⟨⟩
    exact ⟨by simpa using hafter, fun c hc => hdigits c (List.mem_of_mem_drop hc)⟩
  · simp [Literal.chars]
  · simp only [Literal.magnitude, Option.getD_some, Option.getD_none, List.take_append_drop,
      List.length_drop]
    congr 2
    omega

/-- Zeros stand between the point and the digits. -/
theorem isMagnitude_fraction (hne : digits ≠ []) (hdigits : ∀ c ∈ digits, c.isDigit) (k : Nat) :
    IsMagnitude ("0.".toList ++ List.replicate k '0' ++ digits)
      (ofDigits digits * 10 ^ (-(k + digits.length : Int))) := by
  refine ⟨⟨false, ['0'], some (List.replicate k '0' ++ digits), none⟩,
    ⟨⟨List.cons_ne_nil _ _, List.forall_mem_singleton.mpr rfl⟩, fun _ => rfl, ?_⟩, rfl, rfl, ?_, ?_⟩
  · rintro _ ⟨⟩
    exact ⟨by simp [hne], List.forall_mem_append.mpr ⟨isDigit_of_mem_zeros, hdigits⟩⟩
  · simp [Literal.chars]
  · simp only [Literal.magnitude, Option.getD_some, Option.getD_none, ofDigits_append,
      ofDigits_zeros, List.length_append, List.length_replicate]
    rw [show ofDigits ['0'] = 0 from rfl, Nat.zero_mul, Nat.zero_mul, Nat.zero_add, Nat.zero_add]
    congr 2
    omega

/-- One digit is before the point, and the power of ten moves it. -/
theorem isMagnitude_power {d : Char} {rest : List Char} (hdigits : ∀ c ∈ d :: rest, c.isDigit)
    (power : Int) :
    IsMagnitude ((if rest.isEmpty then [d] else d :: '.' :: rest) ++ Literal.powerChars power)
      (ofDigits (d :: rest) * 10 ^ (power - rest.length)) := by
  have hd : ∀ c ∈ [d], c.isDigit := List.forall_mem_singleton.mpr (hdigits d List.mem_cons_self)
  cases rest with
  | nil =>
    refine ⟨⟨false, [d], none, some power⟩,
      ⟨⟨List.cons_ne_nil _ _, hd⟩, fun _ => rfl, fun _ h => nomatch h⟩, rfl, rfl, ?_, rfl⟩
    simp [Literal.chars]
  | cons e rest =>
    refine ⟨⟨false, [d], some (e :: rest), some power⟩,
      ⟨⟨List.cons_ne_nil _ _, hd⟩, fun _ => rfl, ?_⟩, rfl, rfl, ?_, rfl⟩
    · rintro _ ⟨⟩
      exact ⟨List.cons_ne_nil _ _, fun c hc => hdigits c (List.mem_cons_of_mem _ hc)⟩
    · simp [Literal.chars]

/-- The text of an absolute value stands for it, whatever form it has. The digits start with no
zero. -/
theorem isMagnitude_magnitudeText (exponent : Int) (hne : digits ≠ [])
    (hdigits : ∀ c ∈ digits, c.isDigit) (hzero : digits.head? ≠ some '0') :
    IsMagnitude (Decimal.magnitudeText digits exponent) (ofDigits digits * 10 ^ exponent) := by
  unfold Decimal.magnitudeText
  dsimp only
  split
  · rename_i h
    obtain ⟨k, rfl⟩ := Int.eq_ofNat_of_zero_le h.1
    exact isMagnitude_zeros hne hdigits hzero k
  · split
    · rename_i hexponent h
      obtain ⟨k, hk⟩ := Int.eq_ofNat_of_zero_le h.1.le
      have hpoint := isMagnitude_point hdigits hzero (k := k) (by omega) (by omega)
      rw [← hk, add_sub_cancel_left] at hpoint
      rwa [hk]
    · split
      · rename_i h
        obtain ⟨k, hk⟩ := Int.eq_ofNat_of_zero_le (Int.neg_nonneg_of_nonpos h.2)
        have hfraction := isMagnitude_fraction hne hdigits k
        rw [show -(k + digits.length : Int) = exponent by omega] at hfraction
        rwa [hk]
      · obtain ⟨d, rest, rfl⟩ := List.exists_cons_of_ne_nil hne
        have hpower := isMagnitude_power hdigits (((d :: rest).length : Int) + exponent - 1)
        rw [show ((d :: rest).length : Int) + exponent - 1 - rest.length = exponent by
          rw [List.length_cons]
          omega] at hpower
        cases rest <;> exact hpower

end Forms

/-- A literal with a sign is one without it after the sign. -/
theorem chars_eq_append (l : Literal) (negative : Bool) (h : l.negative = false) :
    Literal.chars { l with negative := negative } =
      (if negative then ['-'] else []) ++ l.chars := by
  simp [Literal.chars, h]

/-- **The text of a number is a literal that stands for it.** -/
theorem exists_literal (n : Number) :
    ∃ l : Literal, l.WellFormed ∧ n.text = l.chars ∧ l.Denotes n := by
  cases n with
  | natural n =>
    exact ⟨_, wellFormed_digits false n, by simp [text, Literal.chars], rfl, rfl,
      magnitude_digits false n⟩
  | negative n =>
    exact ⟨_, wellFormed_digits true n, by simp [text, Literal.chars], rfl, rfl,
      magnitude_digits true n⟩
  | decimal d =>
    by_cases hzero : d.coefficient = 0
    · refine ⟨⟨d.negative, ['0'], some ['0'], none⟩,
        ⟨⟨List.cons_ne_nil _ _, ?_⟩, fun _ => rfl, ?_⟩, ?_, rfl, rfl, ?_⟩
      · exact List.forall_mem_singleton.mpr rfl
      · rintro _ ⟨⟩
        exact ⟨List.cons_ne_nil _ _, List.forall_mem_singleton.mpr rfl⟩
      · simp [text, Decimal.text, hzero, Literal.chars]
      · simp [Literal.magnitude, magnitude, Decimal.magnitude, hzero, ofDigits, digitValue]
    · obtain ⟨l, hwf, hsign, hwhole, hchars, hmagnitude⟩ :=
        isMagnitude_magnitudeText d.exponent (digitsOf_ne_nil d.coefficient)
          (fun c hc => isDigit_of_mem_digitsOf hc) (head?_digitsOf hzero)
      refine ⟨{ l with negative := d.negative }, ⟨hwf.whole, hwf.noLeadingZero, hwf.fraction⟩, ?_, rfl,
        hwhole, ?_⟩
      · rw [chars_eq_append l d.negative hsign, ← hchars, text, Decimal.text, if_neg hzero,
          String.toList_ofList]
      · rw [ofDigits_digitsOf] at hmagnitude
        exact hmagnitude

/-! ### Texts of numbers -/

theorem isNumberChar_of_isDigit {c : Char} (h : c.isDigit) : isNumberChar c := by
  simp [isNumberChar, h]

theorem isNumberChar_of_mem_chars {l : Literal} (h : l.WellFormed) :
    ∀ c ∈ l.chars, isNumberChar c := by
  obtain ⟨negative, whole, fraction, power⟩ := l
  obtain ⟨⟨-, hwhole⟩, -, hfraction⟩ := h
  have hsign : ∀ c ∈ if negative then ['-'] else [], isNumberChar c := by
    cases negative
    · exact fun _ h => nomatch h
    · exact List.forall_mem_singleton.mpr rfl
  have hpoint : ∀ c ∈ fraction.elim [] ('.' :: ·), isNumberChar c := by
    cases fraction with
    | none => exact fun _ h => nomatch h
    | some fraction =>
      exact List.forall_mem_cons.mpr
        ⟨by decide, fun c hc => isNumberChar_of_isDigit ((hfraction fraction rfl).2 c hc)⟩
  have hpower : ∀ c ∈ power.elim [] Literal.powerChars, isNumberChar c := by
    cases power with
    | none => exact fun _ h => nomatch h
    | some power =>
      refine List.forall_mem_cons.mpr ⟨by decide, List.forall_mem_cons.mpr ⟨?_, fun c hc =>
        isNumberChar_of_isDigit (isDigit_of_mem_digitsOf hc)⟩⟩
      split <;> decide
  unfold Literal.chars
  simp only [List.forall_mem_append]
  exact ⟨⟨⟨hsign, fun c hc => isNumberChar_of_isDigit (hwhole c hc)⟩, hpoint⟩, hpower⟩

/-- What cannot go on with a number: it is empty or starts with another character. -/
def Ends (rest : List Char) : Prop := ∀ c ∈ rest.head?, ¬ isNumberChar c

theorem takeWhile_append_of_ends {cs rest : List Char} (hcs : ∀ c ∈ cs, isNumberChar c)
    (hrest : Ends rest) : (cs ++ rest).takeWhile isNumberChar = cs := by
  have hnone : rest.takeWhile isNumberChar = [] := by
    cases rest with
    | nil => rfl
    | cons c rest => exact List.takeWhile_cons_of_neg (hrest c rfl)
  rw [List.takeWhile_append_of_pos hcs, hnone, List.append_nil]

/-- **A number is told from its text**, whatever follows that does not go on with it. -/
theorem text_append_inj {a b : Number} (ha : a.isReduced) (hb : b.isReduced) {rest rest' : List Char}
    (hrest : Ends rest) (hrest' : Ends rest') (h : a.text ++ rest = b.text ++ rest') :
    a = b ∧ rest = rest' := by
  obtain ⟨l, hl, htext, hdenotes⟩ := exists_literal a
  obtain ⟨l', hl', htext', hdenotes'⟩ := exists_literal b
  rw [htext, htext'] at h
  have hchars : l.chars = l'.chars := by
    rw [← takeWhile_append_of_ends (isNumberChar_of_mem_chars hl) hrest, h,
      takeWhile_append_of_ends (isNumberChar_of_mem_chars hl') hrest']
  have hliteral : l = l' := by
    have hread := literal?_chars hl
    rw [hchars, literal?_chars hl'] at hread
    exact (Option.some.inj hread).symm
  subst hliteral
  exact ⟨hdenotes.unique hdenotes' ha hb, List.append_cancel_left h⟩

/-! ### Numbers that are read -/

theorem isReduced_scaled {negative : Bool} {coefficient : Nat} {exponent : Int} {n : Number}
    (h : scaled negative coefficient exponent = some n) : n.isReduced := by
  obtain ⟨b, -, rfl⟩ := Option.map_eq_some_iff.mp h
  show (b.shortest negative).isReduced
  unfold Binary64.shortest
  split
  · rfl
  · exact Decimal.isReduced_reduced _ _ _

/-- **A number that is read is in lowest terms.** -/
theorem isReduced_ofLiteral {l : Literal} {n : Number} (h : ofLiteral l = some n) : n.isReduced := by
  unfold ofLiteral at h
  dsimp only at h
  split at h
  · split at h
    · split at h
      · cases h
        rfl
      · split at h
        · cases h
          rfl
        · exact isReduced_scaled h
    · exact isReduced_scaled h
  · exact isReduced_scaled h

end Json.Number
end Facetry
