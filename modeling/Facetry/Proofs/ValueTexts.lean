/-
# Values and their texts

A value has two texts: one that stores it and one that shows it. Both give the value back, each to
its own reader. For a number the text that shows it has commas between its digits, which the reader
of entries leaves out wherever they stand, so that what remains is the text that stores it
(`Text.filter_grouped`).

The reader of numbers takes an optional sign and digits. What such a text spells is a whole number,
however large; the reader gives it if it is in the range of the kind, and an error if it is not.

Key definitions: `Text.Spells`, `Text.InGroups`, `Text.ShowsNumber`, `Text.enteredChars`.
Key theorems: `Text.readInt?_eq_some_iff`, `Text.inGroups_groupDigits`, `Text.filter_grouped`,
`Value.nothing_lost`.
-/
import Facetry.Proofs.WrittenNumbers
import Facetry.Value
import Mathlib.Data.List.Basic
import Mathlib.Data.List.TakeWhile

namespace Facetry

namespace Text

/-! ### What a text spells -/

/-- The characters spell the number: at least one digit, after an optional sign. -/
inductive Spells : List Char → Int → Prop
  | unsigned {digits : List Char} (nonempty : digits ≠ []) (all : ∀ c ∈ digits, c.isDigit) :
    Spells digits (Nat.ofDigitChars 10 digits 0)
  | plus {digits : List Char} (nonempty : digits ≠ []) (all : ∀ c ∈ digits, c.isDigit) :
    Spells ('+' :: digits) (Nat.ofDigitChars 10 digits 0)
  | minus {digits : List Char} (nonempty : digits ≠ []) (all : ∀ c ∈ digits, c.isDigit) :
    Spells ('-' :: digits) (-(Nat.ofDigitChars 10 digits 0))

theorem digits?_eq_some_iff {cs : List Char} {n : Nat} :
    digits? cs = some n ↔ cs ≠ [] ∧ (∀ c ∈ cs, c.isDigit) ∧ n = Nat.ofDigitChars 10 cs 0 := by
  unfold digits?
  split
  · rename_i h
    simp only [Bool.or_eq_true, List.isEmpty_iff, Bool.not_eq_true', List.all_eq_false] at h
    refine iff_of_false nofun ?_
    rintro ⟨hne, hall, -⟩
    obtain ⟨c, hc, hdigit⟩ := h.resolve_left hne
    exact hdigit (hall c hc)
  · rename_i h
    simp only [Bool.or_eq_true, List.isEmpty_iff, Bool.not_eq_true', not_or, Bool.not_eq_false,
      List.all_eq_true] at h
    rw [and_iff_right h.1, and_iff_right h.2, Option.some.injEq, eq_comm]
    rfl

/-- **The reader of whole numbers gives what the text spells**, and nothing if it spells nothing. -/
theorem readInt?_eq_some_iff {cs : List Char} {i : Int} : readInt? cs = some i ↔ Spells cs i := by
  constructor
  · intro h
    unfold readInt? at h
    split at h <;> obtain ⟨_, hcast, rfl⟩ := Option.map_eq_some_iff.mp h <;>
      obtain ⟨n, hn, heq⟩ := Option.bind_eq_some_iff.mp hcast <;>
      obtain rfl := Option.some.inj heq <;>
      obtain ⟨hne, hall, rfl⟩ := digits?_eq_some_iff.mp hn
    · exact .minus hne hall
    · exact .plus hne hall
    · exact .unsigned hne hall
  · intro h
    cases h with
    | unsigned hne hall =>
      have hdigits := digits?_eq_some_iff.mpr ⟨hne, hall, rfl⟩
      unfold readInt?
      split
      · exact absurd (hall '-' List.mem_cons_self) (by decide)
      · exact absurd (hall '+' List.mem_cons_self) (by decide)
      · rw [hdigits]
        rfl
    | plus hne hall =>
      rw [readInt?, digits?_eq_some_iff.mpr ⟨hne, hall, rfl⟩]
      rfl
    | minus hne hall =>
      rw [readInt?, digits?_eq_some_iff.mpr ⟨hne, hall, rfl⟩]
      rfl

theorem fitsSigned_iff {bits : Nat} {i : Int} :
    fitsSigned bits i ↔ -(2 : Int) ^ (bits - 1) ≤ i ∧ i < (2 : Int) ^ (bits - 1) := by
  simp [fitsSigned]

/-- A text is read as a number of some bits if what it spells is in their range. -/
theorem signed?_eq_some_iff {bits : Nat} {cs : List Char} {i : Int} :
    Value.signed? bits cs = some i ↔
      Spells cs i ∧ -(2 : Int) ^ (bits - 1) ≤ i ∧ i < (2 : Int) ^ (bits - 1) := by
  rw [Value.signed?, Option.filter_eq_some_iff, readInt?_eq_some_iff, fitsSigned_iff]

/-! ### Digits in groups -/

/-- The text is the digits in groups with commas between them, the first of one to three digits and
the others of three. -/
def InGroups (text digits : List Char) : Prop :=
  ∃ (first : List Char) (others : List (List Char)),
    text = first ++ others.flatMap (',' :: ·) ∧ digits = first ++ others.flatten ∧
      1 ≤ first.length ∧ first.length ≤ 3 ∧ ∀ group ∈ others, group.length = 3

/-- **Digits are grouped from the right.** A digit opens a group of its own if the digits after it
make full groups, and it joins the first of them if they do not. -/
theorem inGroups_groupDigits {digits : List Char} (h : digits ≠ []) :
    InGroups (groupDigits digits) digits := by
  induction digits with
  | nil => exact absurd rfl h
  | cons c cs ih =>
    by_cases hcs : cs = []
    · subst hcs
      exact ⟨[c], [], rfl, rfl, Nat.le_refl 1, by simp, by simp⟩
    · obtain ⟨first, others, htext, hdigits, hmin, hmax, hothers⟩ := ih hcs
      have hlength : cs.length = first.length + 3 * others.length := by
        have hsum : (others.map List.length).sum = others.length * 3 := by
          rw [List.map_congr_left hothers, List.map_const', List.sum_replicate_nat]
        rw [hdigits, List.length_append, List.length_flatten, hsum, Nat.mul_comm]
      -- the first group is full exactly if the number of digits is a multiple of three
      by_cases hfull : cs.length % 3 = 0
      · refine ⟨[c], first :: others, ?_, ?_, Nat.le_refl 1, by simp, ?_⟩
        · rw [groupDigits, if_pos ⟨hfull, hcs⟩, htext]
          rfl
        · rw [hdigits]
          rfl
        · exact List.forall_mem_cons.mpr ⟨by omega, hothers⟩
      · refine ⟨c :: first, others, ?_, ?_, by simp, ?_, hothers⟩
        · rw [groupDigits, if_neg fun hopen => hfull hopen.1, htext]
          rfl
        · rw [hdigits]
          rfl
        · rw [List.length_cons]
          omega

/-- Leaving out the commas gives the digits back. -/
theorem InGroups.filter_eq {text digits : List Char} (h : InGroups text digits)
    (hdigits : ∀ c ∈ digits, c.isDigit) : text.filter (· != ',') = digits := by
  obtain ⟨first, others, rfl, rfl, -, -, -⟩ := h
  have hkeep {cs : List Char} (hcs : ∀ c ∈ cs, c.isDigit) : cs.filter (· != ',') = cs := by
    refine List.filter_eq_self.mpr fun c hc => bne_iff_ne.mpr ?_
    rintro rfl
    exact absurd (hcs _ hc) (by decide)
  rw [List.filter_append, List.filter_flatMap, hkeep fun c hc =>
    hdigits c (List.mem_append_left _ hc), List.flatten_eq_flatMap]
  refine congrArg (first ++ ·) (List.flatMap_congr fun group hgroup => ?_)
  have hall : ∀ c ∈ group, c.isDigit := fun c hc =>
    hdigits c (List.mem_append_right _ (List.mem_flatten.mpr ⟨group, hgroup, hc⟩))
  rw [List.filter_cons_of_neg (by simp), hkeep hall]
  rfl

/-! ### Texts of numbers -/

/-- The sign of a number, which only a negative one has. -/
def signChars (i : Int) : List Char := if i < 0 then ['-'] else []

theorem toList_intText (i : Int) : (intText i).toList = signChars i ++ digitsOf i.natAbs := by
  cases i with
  | ofNat n => simp [intText, natText, signChars]
  | negSucc n => simp [intText, natText, signChars, Int.negSucc_lt_zero]

theorem toList_grouped (i : Int) :
    (grouped i).toList = signChars i ++ groupDigits (digitsOf i.natAbs) := by
  cases i with
  | ofNat n => simp [grouped, signChars]
  | negSucc n => simp [grouped, signChars, Int.negSucc_lt_zero]

/-- The text shows the number: a minus sign if it is negative, and the digits of its absolute value
in groups. -/
def ShowsNumber (text : String) (i : Int) : Prop :=
  ∃ groups, text.toList = (if i < 0 then ['-'] else []) ++ groups ∧
    InGroups groups (Nat.toDigits 10 i.natAbs)

theorem showsNumber_grouped (i : Int) : ShowsNumber (grouped i) i :=
  ⟨_, toList_grouped i, inGroups_groupDigits (digitsOf_ne_nil _)⟩

/-- The text of a number spells it. -/
theorem spells_intText (i : Int) : Spells (intText i).toList i := by
  have hvalue : Nat.ofDigitChars 10 (digitsOf i.natAbs) 0 = i.natAbs := ofDigits_digitsOf _
  rw [toList_intText, signChars]
  split
  · have h := Spells.minus (digitsOf_ne_nil i.natAbs) fun c hc => isDigit_of_mem_digitsOf hc
    rwa [hvalue, show -(i.natAbs : Int) = i by omega] at h
  · have h := Spells.unsigned (digitsOf_ne_nil i.natAbs) fun c hc => isDigit_of_mem_digitsOf hc
    rwa [hvalue, show (i.natAbs : Int) = i by omega] at h

/-- **Without its commas, the text that shows a number is the one that stores it.** -/
theorem filter_grouped (i : Int) : (grouped i).toList.filter (· != ',') = (intText i).toList := by
  have hsign : (signChars i).filter (· != ',') = signChars i := by
    unfold signChars
    split <;> rfl
  rw [toList_grouped, toList_intText, List.filter_append, hsign,
    (inGroups_groupDigits (digitsOf_ne_nil _)).filter_eq fun c hc => isDigit_of_mem_digitsOf hc]

/-! ### Trimming -/

theorem trimChars_eq_nil_iff {cs : List Char} : trimChars cs = [] ↔ ∀ c ∈ cs, isBlank c := by
  rw [trimChars, List.reverse_eq_nil_iff, List.dropWhile_eq_nil_iff]
  constructor
  · intro h
    by_contra hnot
    have hne : cs.dropWhile isBlank ≠ [] := fun hnil => hnot (List.dropWhile_eq_nil_iff.mp hnil)
    have hhead := List.head_dropWhile_not isBlank hne
    rw [h _ (List.mem_reverse.mpr (List.head_mem hne))] at hhead
    cases hhead
  · exact fun h c hc => h c ((List.dropWhile_sublist _).subset (List.mem_reverse.mp hc))

theorem trimChars_eq_self {cs : List Char} (h : ∀ c ∈ cs, isBlank c = false) :
    trimChars cs = cs := by
  have hkeep {ds : List Char} (hds : ∀ c ∈ ds, isBlank c = false) : ds.dropWhile isBlank = ds := by
    cases ds with
    | nil => rfl
    | cons d ds => rw [List.dropWhile_cons_of_neg (by simp [hds d List.mem_cons_self])]
  rw [trimChars, hkeep h, hkeep fun c hc => h c (List.mem_reverse.mp hc), List.reverse_reverse]

theorem isBlank_eq_false_of_isDigit {c : Char} (h : c.isDigit) : isBlank c = false := by
  have hbounds : 48 ≤ c.toNat ∧ c.toNat ≤ 57 := by
    simpa [Char.isDigit, UInt32.le_iff_toNat_le] using h
  simp [isBlank, inRanges, blankRanges]
  omega

/-- No white space stands in the text that shows a number. -/
theorem isBlank_of_mem_grouped {i : Int} {c : Char} (h : c ∈ (grouped i).toList) :
    isBlank c = false := by
  by_cases hcomma : c = ','
  · exact hcomma ▸ (by decide)
  · have hmem : c ∈ (intText i).toList := by
      rw [← filter_grouped]
      exact List.mem_filter.mpr ⟨h, bne_iff_ne.mpr hcomma⟩
    rw [toList_intText, signChars] at hmem
    rcases List.mem_append.mp hmem with hsign | hdigit
    · split at hsign
      · exact List.mem_singleton.mp hsign ▸ (by decide)
      · cases hsign
    · exact isBlank_eq_false_of_isDigit (isDigit_of_mem_digitsOf hdigit)

/-- What remains of an entry for the reader of numbers once it is trimmed and its commas are left
out. -/
def enteredChars (entry : String) : List Char := (trimChars entry.toList).filter (· != ',')

theorem enteredChars_grouped (i : Int) : enteredChars (grouped i) = (intText i).toList := by
  rw [enteredChars, trimChars_eq_self fun _ => isBlank_of_mem_grouped, filter_grouped]

end Text

namespace Value

open Text

/-! ### Entries -/

/-- The value that an entry of the kind stands for if it is not blank. -/
def Kind.entered? (kind : Kind) (entry : String) : Option Value :=
  match kind with
  | boolean => (enteredTruth? (trimChars entry.toList)).map .boolean
  | integer => (signed? 32 (enteredChars entry)).map fun n => .integer (Int32.ofInt n)
  | long => (signed? 64 (enteredChars entry)).map fun n => .long (Int64.ofInt n)
  | string => some (.string entry)

/-- A blank entry is no value, whatever the kind, and any other entry is the value that it stands
for. -/
theorem Kind.parseEntry_eq (kind : Kind) (entry : String) :
    kind.parseEntry entry =
      if trimChars entry.toList = [] then .ok none
      else match kind.entered? entry with
        | some value => .ok (some value)
        | none => .error (.badEntry kind (String.ofList (trimChars entry.toList))) := by
  unfold Kind.parseEntry
  simp only [List.isEmpty_iff]
  cases kind <;> rfl

theorem Kind.parseEntry_eq_ok_none_iff {kind : Kind} {entry : String} :
    kind.parseEntry entry = .ok none ↔ ∀ c ∈ entry.toList, isBlank c := by
  rw [← trimChars_eq_nil_iff, Kind.parseEntry_eq]
  split
  · exact iff_of_true rfl ‹_›
  · refine iff_of_false ?_ ‹_›
    split <;> nofun

theorem Kind.parseEntry_eq_ok_some_iff {kind : Kind} {entry : String} {value : Value} :
    kind.parseEntry entry = .ok (some value) ↔
      (¬ ∀ c ∈ entry.toList, isBlank c) ∧ kind.entered? entry = some value := by
  rw [← trimChars_eq_nil_iff, Kind.parseEntry_eq]
  split
  · rename_i hblank
    exact iff_of_false nofun fun h => h.1 hblank
  · rename_i hblank
    rw [and_iff_right hblank]
    split <;> simp_all

/-- An entry that spells a number is not blank. -/
theorem not_blank_of_spells {entry : String} {i : Int} (h : Spells (enteredChars entry) i) :
    ¬ ∀ c ∈ entry.toList, isBlank c := by
  intro hblank
  rw [enteredChars, trimChars_eq_nil_iff.mpr hblank] at h
  cases h with
  | unsigned nonempty _ => exact nonempty rfl

/-- An entry of a kind of numbers is the number that it spells, if this is in the range of the kind:
there the numbers of so many bits are the whole numbers, each once. -/
theorem Kind.parseEntry_number_iff {kind : Kind} (bits : Nat) {N : Type} {toInt : N → Int}
    {ofInt : Int → N} (make : N → Value)
    (hentered : ∀ entry, kind.entered? entry =
      (signed? bits (enteredChars entry)).map fun i => make (ofInt i))
    (htoInt : ∀ {i : Int}, -(2 : Int) ^ (bits - 1) ≤ i → i < (2 : Int) ^ (bits - 1) →
      toInt (ofInt i) = i)
    (hofInt : ∀ n, ofInt (toInt n) = n) {entry : String} {value : Value} :
    kind.parseEntry entry = .ok (some value) ↔
      ∃ i, Spells (enteredChars entry) i ∧ -(2 : Int) ^ (bits - 1) ≤ i ∧
        i < (2 : Int) ^ (bits - 1) ∧ ∃ n, toInt n = i ∧ value = make n := by
  rw [Kind.parseEntry_eq_ok_some_iff, hentered, Option.map_eq_some_iff]
  constructor
  · rintro ⟨-, i, hsigned, rfl⟩
    obtain ⟨hspells, hmin, hmax⟩ := signed?_eq_some_iff.mp hsigned
    exact ⟨i, hspells, hmin, hmax, ofInt i, htoInt hmin hmax, rfl⟩
  · rintro ⟨_, hspells, hmin, hmax, n, rfl, rfl⟩
    exact ⟨not_blank_of_spells hspells, toInt n, signed?_eq_some_iff.mpr ⟨hspells, hmin, hmax⟩,
      congrArg make (hofInt n)⟩

theorem Kind.parseEntry_integer_iff {entry : String} {value : Value} :
    Kind.integer.parseEntry entry = .ok (some value) ↔
      ∃ i, Spells (enteredChars entry) i ∧ -(2 : Int) ^ 31 ≤ i ∧ i < (2 : Int) ^ 31 ∧
        ∃ n : Int32, n.toInt = i ∧ value = .integer n :=
  Kind.parseEntry_number_iff 32 .integer (fun _ => rfl) Int32.toInt_ofInt_of_le Int32.ofInt_toInt

theorem Kind.parseEntry_long_iff {entry : String} {value : Value} :
    Kind.long.parseEntry entry = .ok (some value) ↔
      ∃ i, Spells (enteredChars entry) i ∧ -(2 : Int) ^ 63 ≤ i ∧ i < (2 : Int) ^ 63 ∧
        ∃ n : Int64, n.toInt = i ∧ value = .long n :=
  Kind.parseEntry_number_iff 64 .long (fun _ => rfl) Int64.toInt_ofInt_of_le Int64.ofInt_toInt

/-! ### Stored texts -/

/-- The text that stores a number is read as the number. -/
theorem signed?_intText (bits : Nat) {i : Int} (hmin : -(2 : Int) ^ (bits - 1) ≤ i)
    (hmax : i < (2 : Int) ^ (bits - 1)) : signed? bits (intText i).toList = some i :=
  signed?_eq_some_iff.mpr ⟨spells_intText i, hmin, hmax⟩

theorem decode_encode (value : Value) :
    (value.kind.encode value).bind value.kind.decode = .ok value := by
  cases value with
  | boolean b => cases b <;> rfl
  | integer n =>
    have hread := signed?_intText 32 n.le_toInt n.toInt_lt
    simp [kind, Kind.encode, Kind.decode, Except.bind, hread]
  | long n =>
    have hread := signed?_intText 64 n.le_toInt n.toInt_lt
    simp [kind, Kind.encode, Kind.decode, Except.bind, hread]
  | string s => rfl

/-! ### Shown texts -/

/-- Whether the value is a text of white space only. -/
def isBlank : Value → Bool
  | .string s => s.toList.all Text.isBlank
  | _ => false

theorem parseEntry_title (value : Value) :
    value.kind.parseEntry (value.kind.title (some value)) =
      .ok (if value.isBlank then none else some value) := by
  cases value with
  | boolean b => cases b <;> decide
  | integer n =>
    have hspells := enteredChars_grouped n.toInt ▸ spells_intText n.toInt
    exact Kind.parseEntry_integer_iff.mpr ⟨_, hspells, n.le_toInt, n.toInt_lt, n, rfl, rfl⟩
  | long n =>
    have hspells := enteredChars_grouped n.toInt ▸ spells_intText n.toInt
    exact Kind.parseEntry_long_iff.mpr ⟨_, hspells, n.le_toInt, n.toInt_lt, n, rfl, rfl⟩
  | string s =>
    by_cases hblank : ∀ c ∈ s.toList, Text.isBlank c
    · rw [isBlank, if_pos (List.all_eq_true.mpr hblank)]
      exact Kind.parseEntry_eq_ok_none_iff.mpr hblank
    · rw [isBlank, if_neg fun hall => hblank (List.all_eq_true.mp hall)]
      exact Kind.parseEntry_eq_ok_some_iff.mpr ⟨hblank, rfl⟩

theorem encode_of_ne {kind : Kind} {value : Value} (h : kind ≠ value.kind) :
    kind.encode value = .error (.wrongKind kind value.kind) := by
  cases value <;> cases kind <;> first | rfl | exact absurd rfl h

/-- **Neither text of a value loses any of it.** The stored text is read as the value, and the shown
text is entered as the value, but for a text of white space, which is entered as none; no kind
stores a value of another. Whole numbers are shown in groups of three digits, and an entry is a
whole number exactly if it spells one in the range of its kind after it is trimmed and its commas
are left out. -/
theorem nothing_lost :
    (∀ value : Value, (value.kind.encode value).bind value.kind.decode = .ok value) ∧
    (∀ value : Value, value.kind.parseEntry (value.kind.title (some value)) =
      .ok (if value.isBlank then none else some value)) ∧
    (∀ (kind : Kind) (value : Value), kind ≠ value.kind →
      kind.encode value = .error (.wrongKind kind value.kind)) ∧
    (∀ n : Int32, ShowsNumber (Kind.integer.title (some (.integer n))) n.toInt) ∧
    (∀ n : Int64, ShowsNumber (Kind.long.title (some (.long n))) n.toInt) ∧
    (∀ (kind : Kind) (entry : String),
      kind.parseEntry entry = .ok none ↔ ∀ c ∈ entry.toList, Text.isBlank c) ∧
    (∀ (entry : String) (value : Value), Kind.integer.parseEntry entry = .ok (some value) ↔
      ∃ i, Spells (enteredChars entry) i ∧ -(2 : Int) ^ 31 ≤ i ∧ i < (2 : Int) ^ 31 ∧
        ∃ n : Int32, n.toInt = i ∧ value = .integer n) ∧
    (∀ (entry : String) (value : Value), Kind.long.parseEntry entry = .ok (some value) ↔
      ∃ i, Spells (enteredChars entry) i ∧ -(2 : Int) ^ 63 ≤ i ∧ i < (2 : Int) ^ 63 ∧
        ∃ n : Int64, n.toInt = i ∧ value = .long n) :=
  ⟨decode_encode, parseEntry_title, fun _ _ => encode_of_ne, fun n => showsNumber_grouped n.toInt,
    fun n => showsNumber_grouped n.toInt, fun _ _ => Kind.parseEntry_eq_ok_none_iff,
    fun _ _ => Kind.parseEntry_integer_iff, fun _ _ => Kind.parseEntry_long_iff⟩

/-- The least number of 64 bits, whose absolute value has no 64 bits with a sign. -/
theorem nothing_lost_least_long :
    Kind.integer.encode (.long Int64.minValue) = .error (.wrongKind .integer .long) ∧
      Kind.long.title (some (.long Int64.minValue)) = "-9,223,372,036,854,775,808" ∧
      Kind.long.parseEntry "-9,223,372,036,854,775,808" = .ok (some (.long Int64.minValue)) := by
  have htitle : Kind.long.title (some (.long Int64.minValue)) = "-9,223,372,036,854,775,808" := by
    decide
  refine ⟨nothing_lost.2.2.1 .integer (.long Int64.minValue) (by decide), htitle, ?_⟩
  rw [← htitle]
  exact nothing_lost.2.1 (.long Int64.minValue)

end Value
end Facetry
