/-
# The written form of a type is read again

A type that was read is written with its array suffixes at the end of the name, before
the arguments. The grammar has them after the arguments. For a type without arguments
that is the same place, so such arrays are read again as they are written, and so is
everything that is made of them. An array that has arguments, such as the one that
`List<Order>[]` spells, is written `List[]<Order>`, and there the reader ends the type
before the bracket: the written form is refused, and with it the written form of every
type that has such an array among its arguments.

Key definitions: `TypeRef.plainArrays`.
Key theorems: `TypeRef.spells_chars`, `TypeRef.parse_text`, `TypeRef.parse_text_error`.
-/
import Facetry.Proofs.TypeGrammar

namespace Facetry
namespace TypeRef

mutual

/-- Whether no array in the type has arguments. -/
def plainArrays : TypeRef → Bool
  | ⟨name, args⟩ => (args.isEmpty || (componentName? name).isNone) && allPlainArrays args

/-- Whether no array in one of the types has arguments. -/
def allPlainArrays : List TypeRef → Bool
  | [] => true
  | t :: ts => t.plainArrays && allPlainArrays ts

end

/-! ### Written forms -/

theorem chars_plain (name : String) : chars ⟨name, []⟩ = name.toList := by
  rw [chars]

theorem chars_generic (name : String) {args : List TypeRef} (hargs : args ≠ []) :
    chars ⟨name, args⟩ = name.toList ++ '<' :: charsOfArgs args ++ ['>'] := by
  cases args with
  | nil => exact absurd rfl hargs
  | cons t ts => rw [chars]; exact fun h => by cases h

theorem charsOfArgs_cons (t : TypeRef) {ts : List TypeRef} (hts : ts ≠ []) :
    charsOfArgs (t :: ts) = chars t ++ ',' :: ' ' :: charsOfArgs ts := by
  cases ts with
  | nil => exact absurd rfl hts
  | cons u us => rw [charsOfArgs]; exact fun h => by cases h

/-- As many array suffixes as counted, without white space. -/
def suffixChars (count : Nat) : List Char := (List.replicate count ['[', ']']).flatten

theorem toList_withSuffixes (name : List Char) (count : Nat) :
    (withSuffixes name count).toList = name ++ suffixChars count := by
  rw [withSuffixes, String.toList_ofList, suffixChars]

theorem suffixChars_zero : suffixChars 0 = [] := rfl

theorem suffixChars_succ (count : Nat) :
    suffixChars (count + 1) = '[' :: ']' :: suffixChars count := by
  rw [suffixChars, List.replicate_succ, List.flatten_cons]
  rfl

theorem suffixes_suffixChars (count : Nat) : Suffixes (suffixChars count) count := by
  induction count with
  | zero => exact .none
  | succ count ih =>
    rw [suffixChars_succ]
    exact (Suffixes.more Blank.nil ih :)

/-- A name with array suffixes is one of an array. -/
theorem isSome_componentName?_withSuffixes (name : List Char) (count : Nat) :
    (componentName? (withSuffixes name (count + 1))).isSome := by
  have hlast : withSuffixes name (count + 1) = withSuffixes name count ++ "[]" := by
    have hreplicate : suffixChars (count + 1) = suffixChars count ++ ['[', ']'] := by
      rw [suffixChars, List.replicate_succ', List.flatten_append, suffixChars]
      rfl
    refine String.toList_inj.mp ?_
    rw [String.toList_append, toList_withSuffixes, toList_withSuffixes, hreplicate,
      List.append_assoc]
    rfl
  rw [componentName?_eq_some_iff.mpr hlast]
  rfl

/-- A name without array suffixes is not one of an array. -/
theorem componentName?_withSuffixes_zero {name : List Char} (hname : IsName name) :
    componentName? (withSuffixes name 0) = none := by
  refine Option.eq_none_iff_forall_ne_some.mpr fun component hcomponent => ?_
  have hbracket : ']' ∈ name := by
    rw [← List.append_nil name, ← suffixChars_zero, ← toList_withSuffixes,
      componentName?_eq_some_iff.mp hcomponent, String.toList_append]
    exact List.mem_append_right _ (by decide)
  exact absurd (hname.2 _ hbracket) (by decide)

theorem SpellsAll.ne_nil {cs : List Char} {ts : List TypeRef} (h : SpellsAll cs ts) : ts ≠ [] := by
  cases h <;> exact List.cons_ne_nil _ _

/-! ### What is written in the place of the grammar -/

theorem Spells.blank_append {blanks cs : List Char} {t : TypeRef} (hblanks : Blank blanks)
    (h : Spells cs t) : Spells (blanks ++ cs) t := by
  cases h with
  | plain hbefore hname hafter hsuffixes =>
    have := Spells.plain (hblanks.append hbefore) hname hafter hsuffixes
    simpa only [List.append_assoc] using this
  | generic hbefore hname hafter hinside hinner hsuffixes =>
    have := Spells.generic (hblanks.append hbefore) hname hafter hinside hinner hsuffixes
    simpa only [List.append_assoc] using this

theorem SpellsAll.blank_append {blanks cs : List Char} {ts : List TypeRef}
    (hblanks : Blank blanks) (h : SpellsAll cs ts) : SpellsAll (blanks ++ cs) ts := by
  cases h with
  | one htype => exact .one (htype.blank_append hblanks)
  | more htype hbetween hall =>
    have := SpellsAll.more (htype.blank_append hblanks) hbetween hall
    simpa only [List.append_assoc] using this

/-- A generic type whose arrays are plain is no array. -/
theorem eq_zero_of_plainArrays {name : List Char} {count : Nat} {args : List TypeRef}
    (hargs : args ≠ []) (h : plainArrays ⟨withSuffixes name count, args⟩) : count = 0 := by
  cases count with
  | zero => rfl
  | succ count =>
    have harray := isSome_componentName?_withSuffixes name count
    rw [plainArrays, Bool.and_eq_true, Bool.or_eq_true, List.isEmpty_iff] at h
    rcases h.1 with h | h
    · exact absurd h hargs
    · rw [Option.isNone_iff_eq_none.mp h] at harray
      cases harray

mutual

/-- **The written form spells the type**, if its arrays are plain. -/
theorem spells_chars {cs : List Char} {t : TypeRef} (h : Spells cs t) (hplain : t.plainArrays) :
    Spells t.chars t := by
  cases h with
  | @plain before name after suffixes count hbefore hname hafter hsuffixes =>
    rw [chars_plain, toList_withSuffixes]
    have := Spells.plain Blank.nil hname Blank.nil (suffixes_suffixChars count)
    simpa only [List.nil_append, List.append_nil] using this
  | @generic before name after inside blanks suffixes args count hbefore hname hafter hinside
      hblanks hsuffixes =>
    have hargs := hinside.ne_nil
    obtain rfl := eq_zero_of_plainArrays hargs hplain
    have hall : allPlainArrays args := by
      rw [plainArrays, Bool.and_eq_true] at hplain
      exact hplain.2
    rw [chars_generic _ hargs, toList_withSuffixes]
    have := Spells.generic Blank.nil hname Blank.nil (spellsAll_charsOfArgs hinside hall)
      Blank.nil Suffixes.none
    simpa only [List.nil_append, List.append_nil, suffixChars_zero] using this

/-- The written forms of arguments spell them, if their arrays are plain. -/
theorem spellsAll_charsOfArgs {cs : List Char} {ts : List TypeRef} (h : SpellsAll cs ts)
    (hplain : allPlainArrays ts) : SpellsAll (charsOfArgs ts) ts := by
  cases h with
  | one htype =>
    rw [allPlainArrays, Bool.and_eq_true] at hplain
    rw [charsOfArgs]
    exact .one (spells_chars htype hplain.1)
  | @more _ _ _ t ts htype hblanks hall =>
    rw [allPlainArrays, Bool.and_eq_true] at hplain
    rw [charsOfArgs_cons t hall.ne_nil]
    have hspace : Blank [' '] := .cons (by decide) .nil
    have := SpellsAll.more (spells_chars htype hplain.1) Blank.nil
      ((spellsAll_charsOfArgs hall hplain.2).blank_append hspace)
    simpa only [List.append_nil, List.singleton_append] using this

end

/-- **A type whose arrays are plain is read again from its written form.** -/
theorem parse_text {s : String} {t : TypeRef} (h : parse s = .ok t) (hplain : t.plainArrays) :
    parse t.text = .ok t := by
  obtain ⟨type, blanks, -, htype, -⟩ := parseChars_iff_isSpelling.mp (parse_eq_ok_iff.mp h)
  refine parse_of_spells ?_
  rw [text, String.toList_ofList]
  exact spells_chars htype hplain

/-! ### Arrays that have arguments -/

/-- White space before a type makes no difference. -/
theorem outcome_read_blank_append {blanks : List Char} (h : Blank blanks) (cs : List Char) :
    outcome (read (blanks ++ cs)) = outcome (read cs) := by
  have hskip := skipBlanks_append h cs
  generalize hname : (skipBlanks cs).takeWhile isNameChar = name
  generalize hafter : (skipBlanks cs).dropWhile isNameChar = after
  by_cases hne : name = []
  · rw [outcome_read_nameless (hname.trans hne),
      outcome_read_nameless (by rw [hskip, hname, hne]), hskip]
  by_cases hgeneric : ∃ inside, skipBlanks after = '<' :: inside
  · obtain ⟨inside, hinside⟩ := hgeneric
    rw [outcome_read_generic hname hne hafter hinside,
      outcome_read_generic (by rw [hskip, hname]) hne (by rw [hskip, hafter]) hinside]
  · have hplain : ∀ inside, skipBlanks after ≠ '<' :: inside := fun inside h => hgeneric ⟨inside, h⟩
    rw [outcome_read_plain hname hne hafter hplain,
      outcome_read_plain (by rw [hskip, hname]) hne (by rw [hskip, hafter]) hplain]

/-- White space before arguments makes no difference. -/
theorem outcome_readArgs_blank_append {blanks : List Char} (h : Blank blanks) (cs : List Char) :
    outcome (readArgs (blanks ++ cs)) = outcome (readArgs cs) := by
  have hread := outcome_read_blank_append h cs
  cases hfirst : outcome (read cs) with
  | error fault =>
    rw [outcome_readArgs_fault hfirst, outcome_readArgs_fault (hread.trans hfirst)]
  | ok r =>
    obtain ⟨first, rest⟩ := r
    have hfirst' := hread.trans hfirst
    by_cases hlast : ∃ after, skipBlanks rest = '>' :: after
    · obtain ⟨after, hafter⟩ := hlast
      rw [outcome_readArgs_last hfirst hafter, outcome_readArgs_last hfirst' hafter]
    by_cases hmore : ∃ after, skipBlanks rest = ',' :: after
    · obtain ⟨after, hafter⟩ := hmore
      rw [outcome_readArgs_more hfirst hafter, outcome_readArgs_more hfirst' hafter]
    · have hlast' : ∀ after, skipBlanks rest ≠ '>' :: after := fun after h => hlast ⟨after, h⟩
      have hmore' : ∀ after, skipBlanks rest ≠ ',' :: after := fun after h => hmore ⟨after, h⟩
      rw [outcome_readArgs_separator hfirst hlast' hmore',
        outcome_readArgs_separator hfirst' hlast' hmore']

/-- Array suffixes end before an angle bracket. -/
theorem arraySuffixes_suffixChars (count : Nat) (cs : List Char) :
    arraySuffixes (suffixChars count ++ '<' :: cs) = (count, '<' :: cs) := by
  induction count with
  | zero => rfl
  | succ count ih => rw [suffixChars_succ, List.cons_append, List.cons_append, arraySuffixes, ih]

/-- An array that has arguments is read up to its arguments, as one that has none. -/
theorem outcome_read_generic_array {name : List Char} (hname : IsName name) (count : Nat)
    (cs : List Char) :
    outcome (read (name ++ (suffixChars (count + 1) ++ '<' :: cs))) =
      .ok (⟨withSuffixes name (count + 1), []⟩, '<' :: cs) := by
  have hnext : ∀ c ∈ (suffixChars (count + 1) ++ '<' :: cs).head?, isNameChar c = false := by
    rw [suffixChars_succ]
    rintro c ⟨⟩
    decide
  obtain ⟨htake, hdrop⟩ := span_name hname hnext
  have hstart := skipBlanks_name hname (suffixChars (count + 1) ++ '<' :: cs)
  have hplain : ∀ inside, skipBlanks (suffixChars (count + 1) ++ '<' :: cs) ≠ '<' :: inside := by
    rw [suffixChars_succ]
    rintro inside ⟨⟩
  rw [outcome_read_plain (by rw [hstart, htake]) hname.1 (by rw [hstart, hdrop]) hplain, closed,
    arraySuffixes_suffixChars]

/-- Where a type is only read up to an angle bracket there are no arguments. -/
theorem readArgs_ne_ok {cs : List Char}
    (h : ∀ r, outcome (read cs) = .ok r → ∃ after, r.2 = '<' :: after)
    (r : List TypeRef × List Char) : outcome (readArgs cs) ≠ .ok r := by
  cases hfirst : outcome (read cs) with
  | error fault =>
    rw [outcome_readArgs_fault hfirst]
    exact nofun
  | ok r' =>
    obtain ⟨first, rest⟩ := r'
    obtain ⟨after, rfl⟩ : ∃ after, rest = '<' :: after := h _ hfirst
    have hskip : skipBlanks ('<' :: after) = '<' :: after := rfl
    rw [outcome_readArgs_separator hfirst (by rw [hskip]; exact nofun) (by rw [hskip]; exact nofun)]
    exact nofun

mutual

/-- **What is written of a type with an array that has arguments** is not read to its end: if a
type is read there at all, an angle bracket is left. -/
theorem left_of_not_plainArrays {cs : List Char} {t : TypeRef} (h : Spells cs t)
    (hplain : t.plainArrays = false) (rest : List Char) :
    ∀ r, outcome (read (t.chars ++ rest)) = .ok r → ∃ after, r.2 = '<' :: after := by
  intro r hread
  cases h with
  | plain hbefore hname hafter hsuffixes => cases hplain
  | @generic before name after inside blanks suffixes args count hbefore hname hafter hinside
      hblanks hsuffixes =>
    rw [chars_generic _ hinside.ne_nil, toList_withSuffixes] at hread
    cases count with
    | zero =>
      -- not this type but one of its arguments has the array
      have hall : allPlainArrays args = false := by
        simpa [plainArrays, componentName?_withSuffixes_zero hname] using hplain
      have hwritten : name ++ suffixChars 0 ++ '<' :: charsOfArgs args ++ ['>'] ++ rest =
          name ++ '<' :: (charsOfArgs args ++ '>' :: rest) := by
        simp [suffixChars_zero]
      have hnext : ∀ c ∈ ('<' :: (charsOfArgs args ++ '>' :: rest)).head?, isNameChar c = false := by
        rintro c ⟨⟩
        decide
      obtain ⟨htake, hdrop⟩ := span_name hname hnext
      have hstart := skipBlanks_name hname ('<' :: (charsOfArgs args ++ '>' :: rest))
      rw [hwritten, outcome_read_generic (by rw [hstart, htake]) hname.1 (by rw [hstart, hdrop])
        rfl] at hread
      cases hinner : outcome (readArgs (charsOfArgs args ++ '>' :: rest)) with
      | error fault =>
        rw [hinner] at hread
        cases hread
      | ok r' => exact absurd hinner (readArgs_of_not_allPlainArrays hinside hall rest r')
    | succ count =>
      have hwritten : name ++ suffixChars (count + 1) ++ '<' :: charsOfArgs args ++ ['>'] ++ rest =
          name ++ (suffixChars (count + 1) ++ '<' :: (charsOfArgs args ++ '>' :: rest)) := by
        simp
      rw [hwritten, outcome_read_generic_array hname count] at hread
      cases hread
      exact ⟨_, rfl⟩

/-- Arguments with an array that has arguments are not read from what is written of them. -/
theorem readArgs_of_not_allPlainArrays {cs : List Char} {ts : List TypeRef} (h : SpellsAll cs ts)
    (hplain : allPlainArrays ts = false) (rest : List Char) (r : List TypeRef × List Char) :
    outcome (readArgs (charsOfArgs ts ++ '>' :: rest)) ≠ .ok r := by
  cases h with
  | one htype =>
    rw [allPlainArrays, allPlainArrays, Bool.and_true] at hplain
    rw [charsOfArgs]
    exact readArgs_ne_ok (left_of_not_plainArrays htype hplain _) r
  | @more _ _ _ t ts htype hblanks hall =>
    have hwritten : charsOfArgs (t :: ts) ++ '>' :: rest =
        chars t ++ ',' :: ([' '] ++ (charsOfArgs ts ++ '>' :: rest)) := by
      rw [charsOfArgs_cons t hall.ne_nil]
      simp
    rw [hwritten]
    cases hfirst : t.plainArrays with
    | false => exact readArgs_ne_ok (left_of_not_plainArrays htype hfirst _) r
    | true =>
      -- the first argument is read, the others are not
      have hothers : allPlainArrays ts = false := by
        rwa [allPlainArrays, hfirst, Bool.true_and] at hplain
      have hspace : Blank [' '] := .cons (by decide) .nil
      have hcomma : StartsWith [',', '>'] (',' :: ([' '] ++ (charsOfArgs ts ++ '>' :: rest))) :=
        startsWith_cons (by decide) (by decide) _
      have hread := read_of_spells (spells_chars htype hfirst) hcomma
      rw [outcome_readArgs_more hread rfl, outcome_readArgs_blank_append hspace]
      cases hinner : outcome (readArgs (charsOfArgs ts ++ '>' :: rest)) with
      | error fault => exact nofun
      | ok r' => exact absurd hinner (readArgs_of_not_allPlainArrays hall hothers rest r')

end

/-- **A type that has an array with arguments is refused in its written form.** -/
theorem parse_text_error {s : String} {t : TypeRef} (h : parse s = .ok t)
    (hplain : t.plainArrays = false) : ∃ e, parse t.text = .error e := by
  obtain ⟨type, blanks, -, htype, -⟩ := parseChars_iff_isSpelling.mp (parse_eq_ok_iff.mp h)
  cases hparse : parse t.text with
  | error e => exact ⟨e, rfl⟩
  | ok t' =>
    obtain ⟨rest, hread, hrest⟩ := parseChars_eq_ok_iff.mp (parse_eq_ok_iff.mp hparse)
    rw [text, String.toList_ofList, ← List.append_nil t.chars] at hread
    obtain ⟨after, rfl⟩ : ∃ after, rest = '<' :: after :=
      left_of_not_plainArrays htype hplain [] _ hread
    exact absurd (hrest '<' List.mem_cons_self) (by decide)

end TypeRef
end Facetry
