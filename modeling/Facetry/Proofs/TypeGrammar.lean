/-
# The grammar of type references

A text spells a type reference if the grammar derives it:

    text      = type ws*
    type      = ws* name ws* [ '<' type (ws* ',' type)* ws* '>' ] (ws* '[]')*
    name      = one or more characters that can stand in names

The reader accepts exactly these texts. It is greedy three times: a name takes all name
characters, white space is skipped as far as it goes, and array suffixes are taken as
long as there are any. A derivation could stop earlier each time, but what may follow a
type, the end of the text or one of `,` and `>` after white space, begins with none of
the three (`TypeRef.StartsWith`). So the reader ends a type where the derivation ends it.

What is left after a reading is an end of what it was given. So every place at which the
reader stops is between two characters, and so is the place that an error tells.

Key definitions: `TypeRef.Spells`, `TypeRef.SpellsAll`, `TypeRef.IsSpelling`.
Key theorems: `TypeRef.spells_of_read`, `TypeRef.read_of_spells`, `TypeRef.parse_of_spells`,
`TypeRef.parse_iff_spelling`.
-/
import Facetry.TypeRef

namespace Facetry

/-! ### White space and names -/

namespace Text

/-- A number in one of the ranges is one of those that the ranges list. -/
theorem mem_of_inRanges {n : Nat} {ranges : List (Nat × Nat)} (h : inRanges n ranges) :
    n ∈ ranges.flatMap fun range => List.range' range.1 (range.2 + 1 - range.1) := by
  induction ranges with
  | nil => simp [inRanges] at h
  | cons range ranges ih =>
    obtain ⟨first, last⟩ := range
    rw [List.flatMap_cons, List.mem_append, List.mem_range'_1]
    unfold inRanges at h
    split at h
    · simp at h
    · rcases Bool.or_eq_true .. ▸ h with h | h
      · have hlast : n ≤ last := of_decide_eq_true h
        exact .inl (by dsimp only; omega)
      · exact .inr (ih h)

/-- White space is neither a letter nor a numeral. -/
theorem isAlphanumeric_of_isBlank {c : Char} (h : isBlank c) : isAlphanumeric c = false := by
  have hblanks : ∀ n ∈ blankRanges.flatMap fun range => List.range' range.1 (range.2 + 1 - range.1),
      (inRanges n alphabeticRanges || inRanges n numericRanges) = false := by
    decide +kernel
  exact hblanks _ (mem_of_inRanges h)

end Text

namespace TypeRef

open Text

/-- White space cannot stand in a name. -/
theorem isNameChar_of_isBlank {c : Char} (h : isBlank c) : isNameChar c = false := by
  have hdot : c ≠ '.' := by rintro rfl; exact absurd h (by decide)
  have hunderscore : c ≠ '_' := by rintro rfl; exact absurd h (by decide)
  have hdollar : c ≠ '$' := by rintro rfl; exact absurd h (by decide)
  simp [isNameChar, isAlphanumeric_of_isBlank h, hdot, hunderscore, hdollar]

/-! ### The grammar -/

/-- White space, or nothing. -/
def Blank (cs : List Char) : Prop := ∀ c ∈ cs, isBlank c

/-- A name. -/
def IsName (cs : List Char) : Prop := cs ≠ [] ∧ ∀ c ∈ cs, isNameChar c

/-- Array suffixes, each after white space or at once, and how many they are. -/
inductive Suffixes : List Char → Nat → Prop
  | none : Suffixes [] 0
  | more {blanks cs : List Char} {count : Nat} :
      Blank blanks → Suffixes cs count → Suffixes (blanks ++ '[' :: ']' :: cs) (count + 1)

mutual

/-- The characters spell the type. -/
inductive Spells : List Char → TypeRef → Prop
  | plain {before name after suffixes : List Char} {count : Nat} :
      Blank before → IsName name → Blank after → Suffixes suffixes count →
        Spells (before ++ name ++ after ++ suffixes) ⟨withSuffixes name count, []⟩
  | generic {before name after inside blanks suffixes : List Char} {args : List TypeRef}
      {count : Nat} :
      Blank before → IsName name → Blank after → SpellsAll inside args → Blank blanks →
        Suffixes suffixes count →
        Spells (before ++ name ++ after ++ '<' :: inside ++ blanks ++ '>' :: suffixes)
          ⟨withSuffixes name count, args⟩

/-- The characters spell the types, with commas between them. -/
inductive SpellsAll : List Char → List TypeRef → Prop
  | one {cs : List Char} {t : TypeRef} : Spells cs t → SpellsAll cs [t]
  | more {cs blanks rest : List Char} {t : TypeRef} {ts : List TypeRef} :
      Spells cs t → Blank blanks → SpellsAll rest ts →
        SpellsAll (cs ++ blanks ++ ',' :: rest) (t :: ts)

end

/-- The whole text spells the type. -/
def IsSpelling (cs : List Char) (t : TypeRef) : Prop :=
  ∃ type blanks, cs = type ++ blanks ∧ Spells type t ∧ Blank blanks

theorem isName_of_all {cs : List Char} (hne : cs ≠ []) (h : cs.all isNameChar) : IsName cs :=
  ⟨hne, List.all_eq_true.mp h⟩

theorem Blank.append {as bs : List Char} (ha : Blank as) (hb : Blank bs) : Blank (as ++ bs) := by
  intro c hc
  exact (List.mem_append.mp hc).elim (ha c) (hb c)

theorem Blank.nil : Blank [] := fun _ h => by cases h

theorem Blank.cons {c : Char} {cs : List Char} (hc : isBlank c) (h : Blank cs) :
    Blank (c :: cs) :=
  List.forall_mem_cons.mpr ⟨hc, h⟩

/-- A name spells the type without arguments. -/
theorem spells_name {name : List Char} (h : IsName name) :
    Spells name ⟨withSuffixes name 0, []⟩ := by
  have := Spells.plain Blank.nil h Blank.nil Suffixes.none
  simpa only [List.nil_append, List.append_nil] using this

/-- White space before array suffixes belongs to them, if there are any. -/
theorem Suffixes.blank_append {before suffixes blanks : List Char} {count : Nat}
    (hbefore : Blank before) (h : Suffixes suffixes count) (hblanks : Blank blanks) :
    ∃ suffixes' blanks', before ++ suffixes ++ blanks = suffixes' ++ blanks' ∧
      Suffixes suffixes' count ∧ Blank blanks' := by
  cases h with
  | none => exact ⟨[], before ++ blanks, by simp, .none, hbefore.append hblanks⟩
  | more hinner h =>
    exact ⟨_, blanks, by rw [← List.append_assoc], .more (hbefore.append hinner) h, hblanks⟩

/-! ### Skipping -/

theorem skipBlanks_append {blanks : List Char} (h : Blank blanks) (cs : List Char) :
    skipBlanks (blanks ++ cs) = skipBlanks cs :=
  List.dropWhile_append_of_pos h

/-- What is skipped is white space. -/
theorem exists_skipBlanks (cs : List Char) : ∃ blanks, cs = blanks ++ skipBlanks cs ∧ Blank blanks :=
  ⟨cs.takeWhile isBlank, List.takeWhile_append_dropWhile.symm,
    List.all_eq_true.mp List.all_takeWhile⟩

/-- After white space the text ends, or goes on with one of the marks. -/
def StartsWith (marks : List Char) (cs : List Char) : Prop :=
  ∀ c ∈ (skipBlanks cs).head?, c ∈ marks

theorem startsWith_cons {marks : List Char} {c : Char} (hc : isBlank c = false)
    (hmark : c ∈ marks) (cs : List Char) : StartsWith marks (c :: cs) := by
  intro d hd
  rw [skipBlanks, List.dropWhile_cons_of_neg (by simp [hc])] at hd
  cases hd
  exact hmark

theorem StartsWith.blank_append {marks blanks cs : List Char} (h : StartsWith marks cs)
    (hblanks : Blank blanks) : StartsWith marks (blanks ++ cs) := by
  rw [StartsWith, skipBlanks_append hblanks]
  exact h

theorem StartsWith.mono {marks more cs : List Char} (h : StartsWith marks cs)
    (hsub : ∀ c ∈ marks, c ∈ more) : StartsWith more cs := fun c hc => hsub c (h c hc)

/-- Where a mark comes next that cannot stand in a name, the name is at its end. -/
theorem StartsWith.not_isNameChar {marks cs : List Char} (h : StartsWith marks cs)
    (hmarks : marks.all fun c => !isNameChar c) : ∀ c ∈ cs.head?, isNameChar c = false := by
  intro c hc
  cases cs with
  | nil => cases hc
  | cons d cs =>
    cases hc
    cases hblank : isBlank c with
    | true => exact isNameChar_of_isBlank hblank
    | false =>
      have hmark : c ∈ marks := by
        refine h c ?_
        rw [skipBlanks, List.dropWhile_cons_of_neg (by simp [hblank])]
        rfl
      simpa using List.all_eq_true.mp hmarks c hmark

/-- A name is taken as far as it goes. -/
theorem span_name {name rest : List Char} (hname : IsName name)
    (hrest : ∀ c ∈ rest.head?, isNameChar c = false) :
    (name ++ rest).takeWhile isNameChar = name ∧ (name ++ rest).dropWhile isNameChar = rest := by
  rw [List.takeWhile_append_of_pos hname.2, List.dropWhile_append_of_pos hname.2]
  cases rest with
  | nil => simp
  | cons c rest =>
    have hc : isNameChar c = false := hrest c rfl
    simp [hc]

theorem skipBlanks_name {name : List Char} (hname : IsName name) (rest : List Char) :
    skipBlanks (name ++ rest) = name ++ rest := by
  obtain ⟨hne, hall⟩ := hname
  cases name with
  | nil => exact absurd rfl hne
  | cons c name =>
    have hc : isBlank c = false := by
      refine Bool.eq_false_iff.mpr fun hblank => ?_
      have := hall c List.mem_cons_self
      rw [isNameChar_of_isBlank hblank] at this
      cases this
    rw [skipBlanks, List.cons_append, List.dropWhile_cons_of_neg (by simp [hc])]

/-! ### Array suffixes -/

theorem arraySuffixes_append {blanks : List Char} (h : Blank blanks) (cs : List Char) :
    arraySuffixes (blanks ++ cs) = arraySuffixes cs := by
  induction blanks with
  | nil => rfl
  | cons c blanks ih =>
    obtain ⟨hc, hblanks⟩ := List.forall_mem_cons.mp h
    rw [List.cons_append, arraySuffixes.eq_2, if_pos hc, ih hblanks]
    rintro cs' rfl -
    exact absurd hc (by decide)

/-- Before a mark there are no array suffixes. -/
theorem arraySuffixes_of_startsWith {cs : List Char} (h : StartsWith [',', '>'] cs) :
    arraySuffixes cs = (0, skipBlanks cs) := by
  obtain ⟨blanks, hcs, hblanks⟩ := exists_skipBlanks cs
  conv => lhs; rw [hcs, arraySuffixes_append hblanks]
  cases hrest : skipBlanks cs with
  | nil => rfl
  | cons c rest =>
    have hc : c ∈ [',', '>'] := h c (by rw [hrest]; rfl)
    have hblank : isBlank c = false := by
      have hmarks : [',', '>'].all fun d => !isBlank d := by decide
      simpa using List.all_eq_true.mp hmarks c hc
    rw [arraySuffixes.eq_2, if_neg (by simp [hblank])]
    rintro cs' rfl -
    exact absurd hc (by decide)

/-- All array suffixes before a mark are taken. -/
theorem arraySuffixes_of_suffixes {suffixes rest : List Char} {count : Nat}
    (h : Suffixes suffixes count) (hrest : StartsWith [',', '>'] rest) :
    arraySuffixes (suffixes ++ rest) = (count, skipBlanks rest) := by
  induction h with
  | none => exact arraySuffixes_of_startsWith hrest
  | more hblanks _ ih =>
    rw [List.append_assoc, arraySuffixes_append hblanks, List.cons_append, List.cons_append,
      arraySuffixes, ih]

/-- What is taken as array suffixes are array suffixes, and white space after them. -/
theorem suffixes_arraySuffixes (cs : List Char) :
    ∃ suffixes blanks, cs = suffixes ++ blanks ++ (arraySuffixes cs).2 ∧
      Suffixes suffixes (arraySuffixes cs).1 ∧ Blank blanks := by
  fun_induction arraySuffixes cs with
  | case1 cs ih =>
    obtain ⟨suffixes, blanks, hcs, hsuffixes, hblanks⟩ := ih
    refine ⟨[] ++ '[' :: ']' :: suffixes, blanks, ?_, .more .nil hsuffixes, hblanks⟩
    rw [List.nil_append, List.cons_append, List.cons_append, List.cons_append, List.cons_append,
      ← hcs]
  | case2 c cs _ hc ih =>
    obtain ⟨suffixes, blanks, hcs, hsuffixes, hblanks⟩ := ih
    obtain ⟨suffixes', blanks', heq, hsuffixes', hblanks'⟩ :=
      hsuffixes.blank_append (Blank.cons hc .nil) hblanks
    refine ⟨suffixes', blanks', ?_, hsuffixes', hblanks'⟩
    rw [← heq, List.append_assoc, List.append_assoc, ← List.append_assoc suffixes, ← hcs]
    rfl
  | case3 c cs => exact ⟨[], [], rfl, .none, .nil⟩
  | case4 => exact ⟨[], [], rfl, .none, .nil⟩

/-- Array suffixes after white space begin with their bracket. -/
theorem Suffixes.startsWith {suffixes rest : List Char} {count : Nat}
    (h : Suffixes suffixes count) (hrest : StartsWith [',', '>'] rest) :
    StartsWith ['[', ',', '>'] (suffixes ++ rest) := by
  cases h with
  | none => exact hrest.mono fun c hc => List.mem_cons_of_mem _ hc
  | more hblanks _ =>
    rw [List.append_assoc]
    exact (startsWith_cons (by decide) List.mem_cons_self _).blank_append hblanks

/-! ### What the reader does -/

/-- What a reading gives: a value with the rest, or a fault. -/
def outcome {α : Type} {cs : List Char} (r : Read α cs) : Except Fault (α × List Char) :=
  r.map (·.1)

/-- The type with a name and arguments, once the array suffixes at the start of the rest are
moved to the name. -/
def closed (name : List Char) (args : List TypeRef) (rest : List Char) : TypeRef × List Char :=
  (⟨withSuffixes name (arraySuffixes rest).1, args⟩, (arraySuffixes rest).2)

section Equations

variable {cs name after inside rest : List Char} {first : TypeRef}

/-- Where no name stands there is no type. -/
theorem outcome_read_nameless (h : (skipBlanks cs).takeWhile isNameChar = []) :
    outcome (read cs) = .error ⟨.expectedName, skipBlanks cs⟩ := by
  rw [read, dif_pos h]
  rfl

/-- A name that an angle bracket follows has arguments. -/
theorem outcome_read_generic (hname : (skipBlanks cs).takeWhile isNameChar = name)
    (hne : name ≠ []) (hafter : (skipBlanks cs).dropWhile isNameChar = after)
    (hinside : skipBlanks after = '<' :: inside) :
    outcome (read cs) = (outcome (readArgs inside)).map fun r => closed name r.1 r.2 := by
  subst hname hafter
  rw [read, dif_neg hne]
  dsimp only
  split <;> rename_i heq
  · obtain rfl : inside = _ := List.tail_eq_of_cons_eq (hinside.symm.trans heq)
    split <;> rename_i hargs <;> rw [hargs] <;> rfl
  · exact absurd hinside (heq inside)

/-- A name that no angle bracket follows has none. -/
theorem outcome_read_plain (hname : (skipBlanks cs).takeWhile isNameChar = name)
    (hne : name ≠ []) (hafter : (skipBlanks cs).dropWhile isNameChar = after)
    (hplain : ∀ inside, skipBlanks after ≠ '<' :: inside) :
    outcome (read cs) = .ok (closed name [] after) := by
  subst hname hafter
  rw [read, dif_neg hne]
  dsimp only
  split <;> rename_i heq
  · exact absurd heq (hplain _)
  · rfl

theorem outcome_readArgs_fault {fault : Fault} (h : outcome (read cs) = .error fault) :
    outcome (readArgs cs) = .error fault := by
  rw [readArgs]
  split <;> rename_i hfirst <;> rw [hfirst] at h <;> cases h
  rfl

/-- A closing bracket ends the arguments. -/
theorem outcome_readArgs_last (h : outcome (read cs) = .ok (first, rest))
    (hafter : skipBlanks rest = '>' :: after) : outcome (readArgs cs) = .ok ([first], after) := by
  rw [readArgs]
  split <;> rename_i hfirst <;> rw [hfirst] at h <;> cases h
  dsimp only
  split
  · rename_i heq
    obtain rfl : after = _ := List.tail_eq_of_cons_eq (hafter.symm.trans heq)
    rfl
  · rename_i heq
    rw [hafter] at heq
    cases heq
  · rename_i hlast _
    exact (hlast after hafter).elim

/-- After a comma there is another argument. -/
theorem outcome_readArgs_more (h : outcome (read cs) = .ok (first, rest))
    (hafter : skipBlanks rest = ',' :: after) :
    outcome (readArgs cs) = (outcome (readArgs after)).map fun r => (first :: r.1, r.2) := by
  rw [readArgs]
  split <;> rename_i hfirst <;> rw [hfirst] at h <;> cases h
  dsimp only
  split
  · rename_i heq
    rw [hafter] at heq
    cases heq
  · rename_i heq
    obtain rfl : after = _ := List.tail_eq_of_cons_eq (hafter.symm.trans heq)
    split <;> rename_i hothers <;> rw [hothers] <;> rfl
  · rename_i _ hmore
    exact (hmore after hafter).elim

/-- After an argument nothing else can stand. -/
theorem outcome_readArgs_separator (h : outcome (read cs) = .ok (first, rest))
    (hlast : ∀ after, skipBlanks rest ≠ '>' :: after)
    (hmore : ∀ after, skipBlanks rest ≠ ',' :: after) :
    outcome (readArgs cs) = .error ⟨.expectedSeparator, skipBlanks rest⟩ := by
  rw [readArgs]
  split <;> rename_i hfirst <;> rw [hfirst] at h <;> cases h
  dsimp only
  split <;> rename_i heq
  · exact absurd heq (hlast _)
  · exact absurd heq (hmore _)
  · rfl

end Equations

/-! ### What is read is spelled -/

/-- What is left after a value was read is shorter than what was given. -/
theorem length_of_outcome {α : Type} {cs rest : List Char} {r : Read α cs} {value : α}
    (h : outcome r = .ok (value, rest)) : rest.length < cs.length := by
  cases r with
  | error fault => cases h
  | ok read =>
    have hread : read.1 = (value, rest) := Except.ok.inj h
    have hlength := read.2
    rwa [hread] at hlength

/-- The arguments are shorter than the type. -/
theorem length_of_inside {cs inside : List Char}
    (h : skipBlanks ((skipBlanks cs).dropWhile isNameChar) = '<' :: inside) :
    inside.length < cs.length := by
  have hafter := skipBlanks_length ((skipBlanks cs).dropWhile isNameChar)
  have hname := ((skipBlanks cs).dropWhile_sublist isNameChar).length_le
  have hstart := skipBlanks_length cs
  rw [h, List.length_cons] at hafter
  omega

/-- The array suffixes that are moved to the name follow the arguments. -/
theorem exists_closed (name : List Char) (args : List TypeRef) (rest : List Char) :
    ∃ suffixes count blanks, closed name args rest =
        (⟨withSuffixes name count, args⟩, (arraySuffixes rest).2) ∧
      rest = suffixes ++ blanks ++ (arraySuffixes rest).2 ∧ Suffixes suffixes count ∧
      Blank blanks := by
  obtain ⟨suffixes, blanks, hrest, hsuffixes, hblanks⟩ := suffixes_arraySuffixes rest
  exact ⟨suffixes, _, blanks, rfl, hrest, hsuffixes, hblanks⟩

mutual

/-- **A type that is read is spelled** by what was taken for it, but for white space. -/
theorem spells_of_read (cs : List Char) {t : TypeRef} {rest : List Char}
    (h : outcome (read cs) = .ok (t, rest)) :
    ∃ type blanks, cs = type ++ blanks ++ rest ∧ Spells type t ∧ Blank blanks := by
  generalize hname : (skipBlanks cs).takeWhile isNameChar = name
  generalize hafter : (skipBlanks cs).dropWhile isNameChar = after
  by_cases hne : name = []
  · rw [outcome_read_nameless (hname.trans hne)] at h
    cases h
  obtain ⟨before, hcs, hbefore⟩ := exists_skipBlanks cs
  have hstart : skipBlanks cs = name ++ after := by
    rw [← hname, ← hafter, List.takeWhile_append_dropWhile]
  have hisName : IsName name :=
    ⟨hne, hname ▸ List.all_eq_true.mp List.all_takeWhile⟩
  rw [hstart] at hcs
  by_cases hgeneric : ∃ inside, skipBlanks after = '<' :: inside
  · obtain ⟨inside, hinside⟩ := hgeneric
    rw [outcome_read_generic hname hne hafter hinside] at h
    cases hargs : outcome (readArgs inside) with
    | error fault =>
      rw [hargs] at h
      cases h
    | ok r =>
      obtain ⟨args, rest'⟩ := r
      have hlt : inside.length < cs.length := length_of_inside (hafter ▸ hinside)
      obtain ⟨inner, innerBlanks, hinner, hall, hinnerBlanks⟩ := spells_of_readArgs inside hargs
      obtain ⟨suffixes, count, blanks, hclosed, hrest, hsuffixes, hblanks⟩ :=
        exists_closed name args rest'
      obtain ⟨between, hbetween, hbetweenBlank⟩ := exists_skipBlanks after
      rw [hargs] at h
      cases hclosed.symm.trans (Except.ok.inj h)
      refine ⟨_, blanks, ?_, .generic hbefore hisName hbetweenBlank hall hinnerBlanks hsuffixes,
        hblanks⟩
      rw [hcs, hbetween, hinside, hinner]
      conv => lhs; rw [hrest]
      simp only [List.append_assoc, List.cons_append]
  · rw [outcome_read_plain hname hne hafter fun inside hinside => hgeneric ⟨inside, hinside⟩] at h
    obtain ⟨suffixes, count, blanks, hclosed, hrest, hsuffixes, hblanks⟩ :=
      exists_closed name [] after
    cases hclosed.symm.trans (Except.ok.inj h)
    refine ⟨_, blanks, ?_, .plain hbefore hisName .nil hsuffixes, hblanks⟩
    rw [hcs]
    conv => lhs; rw [hrest]
    simp only [List.append_assoc, List.nil_append]
termination_by (cs.length, 1)
decreasing_by exact Prod.Lex.left _ _ hlt

/-- **Arguments that are read are spelled** up to the closing bracket. -/
theorem spells_of_readArgs (cs : List Char) {ts : List TypeRef} {rest : List Char}
    (h : outcome (readArgs cs) = .ok (ts, rest)) :
    ∃ inside blanks, cs = inside ++ blanks ++ '>' :: rest ∧ SpellsAll inside ts ∧
      Blank blanks := by
  cases hfirst : outcome (read cs) with
  | error fault =>
    rw [outcome_readArgs_fault hfirst] at h
    cases h
  | ok r =>
    obtain ⟨first, rest'⟩ := r
    obtain ⟨type, blanks, hcs, htype, hblanks⟩ := spells_of_read cs hfirst
    obtain ⟨between, hbetween, hbetweenBlank⟩ := exists_skipBlanks rest'
    by_cases hlast : ∃ after, skipBlanks rest' = '>' :: after
    · obtain ⟨after, hafter⟩ := hlast
      rw [outcome_readArgs_last hfirst hafter] at h
      cases h
      refine ⟨type, blanks ++ between, ?_, .one htype, hblanks.append hbetweenBlank⟩
      rw [hcs, hbetween, hafter]
      simp only [List.append_assoc]
    by_cases hmore : ∃ after, skipBlanks rest' = ',' :: after
    · obtain ⟨after, hafter⟩ := hmore
      rw [outcome_readArgs_more hfirst hafter] at h
      cases hothers : outcome (readArgs after) with
      | error fault =>
        rw [hothers] at h
        cases h
      | ok others =>
        obtain ⟨ts', rest''⟩ := others
        obtain ⟨inside, insideBlanks, hinside, hall, hinsideBlanks⟩ :=
          spells_of_readArgs after hothers
        rw [hothers] at h
        cases h
        refine ⟨_, insideBlanks, ?_, .more htype (hblanks.append hbetweenBlank) hall,
          hinsideBlanks⟩
        rw [hcs, hbetween, hafter, hinside]
        simp only [List.append_assoc, List.cons_append]
    · rw [outcome_readArgs_separator hfirst (fun after hafter => hlast ⟨after, hafter⟩)
        (fun after hafter => hmore ⟨after, hafter⟩)] at h
      cases h
termination_by (cs.length, 2)
decreasing_by
  · exact Prod.Lex.right _ (by omega)
  · have hrest := length_of_outcome hfirst
    have hskip := skipBlanks_length rest'
    rw [hafter, List.length_cons] at hskip
    exact Prod.Lex.left _ _ (by omega)

end

/-! ### What is spelled is read -/

mutual

/-- **A type that is spelled is read**, as far as the next comma, closing bracket or end. -/
theorem read_of_spells {cs : List Char} {t : TypeRef} (h : Spells cs t) {rest : List Char}
    (hrest : StartsWith [',', '>'] rest) :
    outcome (read (cs ++ rest)) = .ok (t, skipBlanks rest) := by
  cases h with
  | @plain before name after suffixes count hbefore hname hafter hsuffixes =>
    have hnext : StartsWith ['[', ',', '>'] (after ++ (suffixes ++ rest)) :=
      (hsuffixes.startsWith hrest).blank_append hafter
    obtain ⟨htake, hdrop⟩ := span_name hname (hnext.not_isNameChar (by decide))
    have hstart : skipBlanks (before ++ name ++ after ++ suffixes ++ rest) =
        name ++ (after ++ (suffixes ++ rest)) := by
      simp only [List.append_assoc]
      rw [skipBlanks_append hbefore, skipBlanks_name hname]
    have hplain : ∀ inside, skipBlanks (after ++ (suffixes ++ rest)) ≠ '<' :: inside := by
      intro inside hinside
      have := hnext '<' (by rw [hinside]; rfl)
      exact absurd this (by decide)
    rw [outcome_read_plain (hstart ▸ htake) hname.1 (hstart ▸ hdrop) hplain, closed,
      arraySuffixes_append hafter, arraySuffixes_of_suffixes hsuffixes hrest]
  | @generic before name after inside blanks suffixes args count hbefore hname hafter hinside
      hblanks hsuffixes =>
    have hnext : StartsWith ['<']
        (after ++ ('<' :: (inside ++ (blanks ++ '>' :: (suffixes ++ rest))))) :=
      (startsWith_cons (by decide) List.mem_cons_self _).blank_append hafter
    obtain ⟨htake, hdrop⟩ := span_name hname (hnext.not_isNameChar (by decide))
    have hstart :
        skipBlanks (before ++ name ++ after ++ '<' :: inside ++ blanks ++ '>' :: suffixes ++ rest) =
          name ++ (after ++ ('<' :: (inside ++ (blanks ++ '>' :: (suffixes ++ rest))))) := by
      simp only [List.append_assoc, List.cons_append]
      rw [skipBlanks_append hbefore, skipBlanks_name hname]
    have hopen : skipBlanks (after ++ ('<' :: (inside ++ (blanks ++ '>' :: (suffixes ++ rest))))) =
        '<' :: (inside ++ (blanks ++ '>' :: (suffixes ++ rest))) := by
      rw [skipBlanks_append hafter]
      rfl
    rw [outcome_read_generic (hstart ▸ htake) hname.1 (hstart ▸ hdrop) hopen,
      readArgs_of_spells hinside hblanks, Except.map, closed,
      arraySuffixes_of_suffixes hsuffixes hrest]

/-- **Arguments that are spelled are read** up to the closing bracket. -/
theorem readArgs_of_spells {inside : List Char} {ts : List TypeRef} (h : SpellsAll inside ts)
    {blanks rest : List Char} (hblanks : Blank blanks) :
    outcome (readArgs (inside ++ (blanks ++ '>' :: rest))) = .ok (ts, rest) := by
  cases h with
  | one htype =>
    have hnext : StartsWith [',', '>'] (blanks ++ '>' :: rest) :=
      (startsWith_cons (by decide) (by decide) _).blank_append hblanks
    have hskip : skipBlanks (blanks ++ '>' :: rest) = '>' :: rest := by
      rw [skipBlanks_append hblanks]
      rfl
    exact outcome_readArgs_last (read_of_spells htype hnext) (by rw [hskip]; rfl)
  | @more cs between inside t ts htype hbetween hall =>
    have hnext : StartsWith [',', '>'] (between ++ ',' :: (inside ++ (blanks ++ '>' :: rest))) :=
      (startsWith_cons (by decide) (by decide) _).blank_append hbetween
    have hskip : skipBlanks (between ++ ',' :: (inside ++ (blanks ++ '>' :: rest))) =
        ',' :: (inside ++ (blanks ++ '>' :: rest)) := by
      rw [skipBlanks_append hbetween]
      rfl
    have hcs : cs ++ between ++ ',' :: inside ++ (blanks ++ '>' :: rest) =
        cs ++ (between ++ ',' :: (inside ++ (blanks ++ '>' :: rest))) := by
      simp only [List.append_assoc, List.cons_append]
    rw [hcs, outcome_readArgs_more (read_of_spells htype hnext) (by rw [hskip]; rfl),
      readArgs_of_spells hall hblanks]
    rfl

end

/-! ### Whole texts -/

/-- The readers skip all of a text exactly if it is white space. -/
theorem skipBlanks_eq_nil_iff {cs : List Char} : skipBlanks cs = [] ↔ Blank cs := by
  constructor
  · intro h
    obtain ⟨blanks, hcs, hblanks⟩ := exists_skipBlanks cs
    rwa [hcs, h, List.append_nil]
  · intro h
    rw [← List.append_nil cs, skipBlanks_append h]
    rfl

theorem parseChars_eq_ok_iff {cs : List Char} {t : TypeRef} :
    parseChars cs = .ok t ↔ ∃ rest, outcome (read cs) = .ok (t, rest) ∧ Blank rest := by
  unfold parseChars
  split
  · rename_i fault hread
    simp [hread, outcome, Except.map]
  · rename_i t' rest _ hread
    have houtcome : outcome (read cs) = .ok (t', rest) := by rw [hread]; rfl
    simp only [houtcome, ← skipBlanks_eq_nil_iff]
    split <;> rename_i hskip
    · constructor
      · rintro ⟨⟩
        exact ⟨rest, rfl, hskip⟩
      · rintro ⟨_, ⟨⟩, -⟩
        rfl
    · constructor
      · rintro ⟨⟩
      · rintro ⟨_, ⟨⟩, hblank⟩
        exact absurd hblank hskip

/-- **A text is read as a type exactly if it spells the type.** -/
theorem parseChars_iff_isSpelling {cs : List Char} {t : TypeRef} :
    parseChars cs = .ok t ↔ IsSpelling cs t := by
  rw [parseChars_eq_ok_iff]
  constructor
  · rintro ⟨rest, hread, hrest⟩
    obtain ⟨type, blanks, hcs, htype, hblanks⟩ := spells_of_read cs hread
    exact ⟨type, blanks ++ rest, by rw [hcs, List.append_assoc], htype, hblanks.append hrest⟩
  · rintro ⟨type, blanks, rfl, htype, hblanks⟩
    have hskip : skipBlanks blanks = [] := skipBlanks_eq_nil_iff.mpr hblanks
    have hnext : StartsWith [',', '>'] blanks := fun c hc => by
      rw [hskip] at hc
      cases hc
    exact ⟨[], by rw [read_of_spells htype hnext, hskip], .nil⟩

theorem parse_eq_ok_iff {s : String} {t : TypeRef} :
    parse s = .ok t ↔ parseChars s.toList = .ok t := by
  unfold parse
  split <;> rename_i h <;> simp [h]

/-- A text that spells a type is read as the type. -/
theorem parse_of_spells {s : String} {t : TypeRef} (h : Spells s.toList t) : parse s = .ok t :=
  parse_eq_ok_iff.mpr (parseChars_iff_isSpelling.mpr
    ⟨s.toList, [], (List.append_nil _).symm, h, .nil⟩)

/-! ### Where reading stops -/

/-- What is left after a reading. -/
def left {α : Type} : Except Fault (α × List Char) → List Char
  | .error fault => fault.left
  | .ok (_, rest) => rest

theorem skipBlanks_suffix (cs : List Char) : skipBlanks cs <:+ cs := List.dropWhile_suffix _

theorem arraySuffixes_suffix (cs : List Char) : (arraySuffixes cs).2 <:+ cs := by
  obtain ⟨suffixes, blanks, hcs, -⟩ := suffixes_arraySuffixes cs
  exact ⟨suffixes ++ blanks, hcs.symm⟩

theorem left_suffix_cons {c : Char} {cs rest : List Char} {rest' : List Char}
    (h : skipBlanks rest = c :: cs) (hrest' : rest' <:+ cs) : rest' <:+ rest :=
  (hrest'.trans (List.suffix_cons c cs)).trans (h ▸ skipBlanks_suffix rest)

mutual

/-- A reader of types leaves an end of what it was given. -/
theorem left_read_suffix (cs : List Char) : left (outcome (read cs)) <:+ cs := by
  generalize hname : (skipBlanks cs).takeWhile isNameChar = name
  generalize hafter : (skipBlanks cs).dropWhile isNameChar = after
  have hsuffix : after <:+ cs :=
    hafter ▸ (List.dropWhile_suffix isNameChar).trans (skipBlanks_suffix cs)
  by_cases hne : name = []
  · rw [outcome_read_nameless (hname.trans hne)]
    exact skipBlanks_suffix cs
  by_cases hgeneric : ∃ inside, skipBlanks after = '<' :: inside
  · obtain ⟨inside, hinside⟩ := hgeneric
    have hlt : inside.length < cs.length := length_of_inside (hafter ▸ hinside)
    have hargs := left_readArgs_suffix inside
    rw [outcome_read_generic hname hne hafter hinside]
    refine (left_suffix_cons hinside ?_).trans hsuffix
    cases houtcome : outcome (readArgs inside) with
    | error fault =>
      rw [houtcome] at hargs
      exact hargs
    | ok r =>
      rw [houtcome] at hargs
      exact (arraySuffixes_suffix r.2).trans hargs
  · rw [outcome_read_plain hname hne hafter fun inside hinside => hgeneric ⟨inside, hinside⟩]
    exact (arraySuffixes_suffix after).trans hsuffix
termination_by (cs.length, 1)
decreasing_by exact Prod.Lex.left _ _ hlt

/-- A reader of arguments leaves an end of what it was given. -/
theorem left_readArgs_suffix (cs : List Char) : left (outcome (readArgs cs)) <:+ cs := by
  have hread := left_read_suffix cs
  cases hfirst : outcome (read cs) with
  | error fault =>
    rw [outcome_readArgs_fault hfirst]
    rwa [hfirst] at hread
  | ok r =>
    obtain ⟨first, rest⟩ := r
    rw [hfirst] at hread
    by_cases hlast : ∃ after, skipBlanks rest = '>' :: after
    · obtain ⟨after, hafter⟩ := hlast
      rw [outcome_readArgs_last hfirst hafter]
      exact (left_suffix_cons hafter (List.suffix_refl _)).trans hread
    by_cases hmore : ∃ after, skipBlanks rest = ',' :: after
    · obtain ⟨after, hafter⟩ := hmore
      have hrest := length_of_outcome hfirst
      have hskip := skipBlanks_length rest
      rw [hafter, List.length_cons] at hskip
      have hlt : after.length < cs.length := by omega
      have hothers := left_readArgs_suffix after
      rw [outcome_readArgs_more hfirst hafter]
      refine (left_suffix_cons hafter ?_).trans hread
      cases houtcome : outcome (readArgs after) <;> rw [houtcome] at hothers <;> exact hothers
    · rw [outcome_readArgs_separator hfirst (fun after hafter => hlast ⟨after, hafter⟩)
        (fun after hafter => hmore ⟨after, hafter⟩)]
      exact (skipBlanks_suffix rest).trans hread
termination_by (cs.length, 2)
decreasing_by
  · exact Prod.Lex.right _ (by omega)
  · exact Prod.Lex.left _ _ hlt

end

/-- What the readers leave that are given `cs`. -/
def stops (cs : List Char) : List (List Char) :=
  [skipBlanks cs, cs.dropWhile isNameChar, (arraySuffixes cs).2, left (outcome (read cs)),
   left (outcome (readArgs cs))]

theorem suffix_of_mem_stops {cs rest : List Char} (h : rest ∈ stops cs) : rest <:+ cs := by
  have hall : ∀ rest ∈ stops cs, rest <:+ cs := by
    simp only [stops, List.forall_mem_cons, List.not_mem_nil]
    exact ⟨skipBlanks_suffix cs, List.dropWhile_suffix _, arraySuffixes_suffix cs,
      left_read_suffix cs, left_readArgs_suffix cs, fun _ h => h.elim⟩
  exact hall rest h

/-- A fault leaves an end of the text. -/
theorem suffix_of_fault {cs : List Char} {fault : Fault} (h : parseChars cs = .error fault) :
    fault.left <:+ cs := by
  have hread := left_read_suffix cs
  unfold parseChars at h
  split at h <;> rename_i heq <;> rw [heq] at hread
  · cases h
    exact hread
  · split at h
    · cases h
    · cases h
      exact (skipBlanks_suffix _).trans hread

/-! ### Places in the text -/

/-- The place of the text, counted in bytes, from which on `rest` is left. -/
def placeOf (s : String) (rest : List Char) : String.Pos.Raw :=
  ⟨byteCount s.toList - byteCount rest⟩

theorem byteCount_append (as bs : List Char) :
    byteCount (as ++ bs) = byteCount as + byteCount bs := by
  induction as with
  | nil => simp [byteCount]
  | cons a as ih =>
    simp only [byteCount, List.cons_append, List.foldr_cons] at ih ⊢
    omega

theorem utf8ByteSize_ofList_eq (cs : List Char) : (String.ofList cs).utf8ByteSize = byteCount cs := by
  induction cs with
  | nil => rfl
  | cons c cs ih =>
    have hcons : String.ofList (c :: cs) = String.ofList [c] ++ String.ofList cs := by
      rw [← String.ofList_append]
      rfl
    rw [hcons, String.utf8ByteSize_append, ih]
    simp [byteCount]

/-- An end of the text is left from a place between two of its characters, or at its end. -/
theorem isValid_placeOf {s : String} {rest : List Char} (h : rest <:+ s.toList) :
    (placeOf s rest).IsValid s := by
  obtain ⟨before, hs⟩ := h
  refine String.Pos.Raw.isValid_iff_exists_append.mpr
    ⟨String.ofList before, String.ofList rest, ?_, ?_⟩
  · rw [← String.ofList_append, hs, String.ofList_toList]
  · refine String.Pos.Raw.ext ?_
    show byteCount s.toList - byteCount rest = (String.ofList before).utf8ByteSize
    rw [← hs, byteCount_append, utf8ByteSize_ofList_eq]
    omega

/-- **The reader accepts exactly the grammar.** It gives a type if and only if the text spells that
type. Every other text is refused with an error that tells the text and a place in it, which is the
end of the text or the start of a character; so is every place at which one of the readers stops,
from wherever in the text it starts. -/
theorem parse_iff_spelling (s : String) :
    (∀ t, parse s = .ok t ↔ IsSpelling s.toList t) ∧
    ((¬ ∃ t, IsSpelling s.toList t) ↔ ∃ e, parse s = .error e) ∧
    (∀ e, parse s = .error e → e.input = s ∧ (⟨e.offset⟩ : String.Pos.Raw).IsValid s) ∧
    ∀ start, start <:+ s.toList → ∀ rest ∈ stops start,
      rest <:+ s.toList ∧ (placeOf s rest).IsValid s := by
  have hparse : ∀ t, parse s = .ok t ↔ IsSpelling s.toList t := fun t =>
    parse_eq_ok_iff.trans parseChars_iff_isSpelling
  refine ⟨hparse, ?_, fun e he => ?_, fun start hstart rest hrest => ?_⟩
  · simp only [← hparse]
    cases parse s <;> simp
  · unfold parse at he
    split at he
    · cases he
    · rename_i fault hfault
      cases he
      exact ⟨rfl, isValid_placeOf (suffix_of_fault hfault)⟩
  · have hsuffix := (suffix_of_mem_stops hrest).trans hstart
    exact ⟨hsuffix, isValid_placeOf hsuffix⟩

/-- An array of maps, with white space wherever it can stand; inside a suffix it cannot. -/
example : (parse " Map < String ,\u2003List<Order []>  > [] ").toOption =
      some ⟨"Map[]", [⟨"String", []⟩, ⟨"List", [⟨"Order[]", []⟩]⟩]⟩ ∧
    parse "Order[ ]" = .error ⟨"Order[ ]", .unexpectedTrailing, 5⟩ := by
  cbv

end TypeRef
end Facetry
