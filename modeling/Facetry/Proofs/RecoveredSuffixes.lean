/-
# Suffixes that are recovered

The name of a property is the suffix of its accessor with the first letter in lower case, and the
methods that support the property are looked for under the name with its first letter in upper case
again. That is the suffix once more if the first letter comes back from its lower case. A capital
letter is its own upper case, so a suffix that starts with an acronym stays as it is. So a suffix is
recovered unless it starts with one of the six lost capitals and no capital letter follows
(`Naming.losesCapital`).

Two suffixes that are recovered give different names. Therefore two accessors with one word share a
name only if one of them loses its capital to the other (`Naming.Twins`).

Key definitions: `Naming.losesCapital`, `Naming.Twins`.
Key theorems: `Naming.capitalize_decapitalize_iff`, `Naming.decapitalize_eq_iff`,
`Naming.recovered_iff`.
-/
import Facetry.Proofs.CapitalLetters

namespace Facetry

namespace Naming

open Text

/-! ### Suffixes that come back -/

/-- Whether the name starts with a capital letter that is lost once it is put in lower case, and no
other capital letter keeps it from that. -/
def losesCapital (name : String) : Bool :=
  match name.toList with
  | [] => false
  | c :: cs => lostCapitals.contains c && !cs.head?.any isUppercase

/-- The lost capitals that share their lower case with another letter, each with that letter and with
what follows the letter then: the dotted I is an I and a dot in lower case. -/
def twinStarts : List (Char × Char × List Char) :=
  [('\u0130', 'I', ['\u0307']), ('\u03F4', '\u0398', []), ('\u2126', '\u03A9', []),
    ('\u212A', 'K', []), ('\u212B', '\u00C5', [])]

/-- The names differ only at their start, where the first has a lost capital and the second the letter
that shares its lower case; no capital letter follows there. -/
def Twins (S T : String) : Prop :=
  ∃ e ∈ twinStarts, ∃ rest, S.toList = e.1 :: rest ∧ T.toList = e.2.1 :: (e.2.2 ++ rest) ∧
    ¬ rest.head?.any isUppercase

variable {c : Char} {cs : List Char} {S T : String}

theorem decapitalizeChars_cons (c : Char) (cs : List Char) :
    decapitalizeChars (c :: cs) =
      if isUppercase c && cs.head?.any isUppercase then c :: cs else lowerChar c ++ cs := by
  cases cs with
  | nil => simp [decapitalizeChars]
  | cons d cs => rfl

theorem decapitalizeChars_of_next (h : ¬ cs.head?.any isUppercase) :
    decapitalizeChars (c :: cs) = lowerChar c ++ cs := by
  rw [decapitalizeChars_cons, if_neg fun hboth => h (Bool.and_eq_true_iff.mp hboth).2]

theorem capitalizeChars_append {l : List Char} (h : l ≠ []) (cs : List Char) :
    capitalizeChars (l ++ cs) = capitalizeChars l ++ cs := by
  cases l with
  | nil => exact absurd rfl h
  | cons d ds => rw [List.cons_append, capitalizeChars, capitalizeChars, List.append_assoc]

theorem losesCapital_iff (hS : S.toList = c :: cs) :
    losesCapital S ↔ c ∈ lostCapitals ∧ ¬ cs.head?.any isUppercase := by
  rw [losesCapital, hS]
  simp

/-- A capital letter or a digit comes back from its lower case if it is not lost. -/
theorem exists_lowerChar_of_startsWord (h : startsWord c) (hlost : c ∉ lostCapitals) :
    ∃ d, lowerChar c = [d] ∧ upperChar d = [c] := by
  rcases Bool.or_eq_true_iff.mp h with hupper | hdigit
  · exact exists_lowerChar_of_not_lost hupper hlost
  · exact (upperChar_of_plain (by rw [hdigit, Bool.or_true])).2

/-- What the tables of cases say of a lost capital. It is a capital letter, and another one is made of
its lower case, which starts with a letter of its own; and its twin starts as that one does. Only the
sharp S has no twin: two capital letters are made of it. -/
theorem spec_of_lost (h : c ∈ lostCapitals) :
    isUppercase c ∧ lowerChar c ≠ [] ∧ capitalizeChars (lowerChar c) ≠ [c] ∧
      (∀ d ∈ lostCapitals, (lowerChar c).head? = (lowerChar d).head? → c = d) ∧
      ((lowerChar c = ['\u00DF'] ∧ capitalizeChars (lowerChar c) = ['S', 'S']) ∨
        ∃ e ∈ twinStarts, e.1 = c ∧ capitalizeChars (lowerChar c) = e.2.1 :: e.2.2) := by
  have hall : lostCapitals.all fun c =>
      isUppercase c ∧ lowerChar c ≠ [] ∧ capitalizeChars (lowerChar c) ≠ [c] ∧
        (lostCapitals.all fun d => (lowerChar c).head? = (lowerChar d).head? → c = d) ∧
        ((lowerChar c = ['\u00DF'] ∧ capitalizeChars (lowerChar c) = ['S', 'S']) ∨
          ∃ e ∈ twinStarts, e.1 = c ∧ capitalizeChars (lowerChar c) = e.2.1 :: e.2.2) := by
    decide +kernel
  obtain ⟨hupper, hne, hother, hheads, hmade⟩ := of_decide_eq_true (List.all_eq_true.mp hall c h)
  exact ⟨hupper, hne, hother, fun d hd => of_decide_eq_true (List.all_eq_true.mp hheads d hd), hmade⟩

/-- What the tables of cases say of a twin: it starts with a capital letter too, and in lower case it
starts as the lost capital does. -/
theorem spec_of_twin {e : Char × Char × List Char} (h : e ∈ twinStarts) :
    startsWord e.1 ∧ startsWord e.2.1 ∧ lowerChar e.1 = lowerChar e.2.1 ++ e.2.2 ∧
      e.2.2.all (!isUppercase ·) := by
  have hall : ∀ e ∈ twinStarts,
      startsWord e.1 ∧ startsWord e.2.1 ∧ lowerChar e.1 = lowerChar e.2.1 ++ e.2.2 ∧
        e.2.2.all (!isUppercase ·) := by decide +kernel
  exact hall e h

/-- **A suffix is made again from the name of the property** unless it loses its capital. -/
theorem capitalize_decapitalize_iff (hS : S.toList = c :: cs) (hc : startsWord c) :
    capitalize (decapitalize S) = S ↔ ¬ losesCapital S := by
  have hchars : capitalize (decapitalize S) = S ↔
      capitalizeChars (decapitalizeChars (c :: cs)) = c :: cs := by
    rw [capitalize, decapitalize, String.toList_ofList, hS, ← hS, ← String.toList_inj,
      String.toList_ofList]
  rw [hchars, losesCapital_iff hS, decapitalizeChars_cons]
  by_cases hacronym : isUppercase c && cs.head?.any isUppercase
  · obtain ⟨hupper, hnext⟩ := Bool.and_eq_true_iff.mp hacronym
    rw [if_pos hacronym, capitalizeChars, upperChar_of_isUppercase hupper]
    simp [hnext]
  · rw [if_neg hacronym]
    by_cases hlost : c ∈ lostCapitals
    · obtain ⟨hupper, hne, hother, -⟩ := spec_of_lost hlost
      have hnext : ¬ cs.head?.any isUppercase := by simpa [hupper] using hacronym
      rw [capitalizeChars_append hne, ← List.singleton_append (l := cs), List.append_left_inj]
      simp [hother, hlost, hnext]
    · obtain ⟨d, hlower, hback⟩ := exists_lowerChar_of_startsWord hc hlost
      rw [hlower, List.singleton_append, capitalizeChars, hback]
      simp [hlost]

/-! ### Names that two suffixes share -/

theorem decapitalize_eq_iff_chars :
    decapitalize S = decapitalize T ↔ decapitalizeChars S.toList = decapitalizeChars T.toList := by
  rw [decapitalize, decapitalize, ← String.toList_inj, String.toList_ofList, String.toList_ofList]

theorem Twins.decapitalize_eq (h : Twins S T) : decapitalize S = decapitalize T := by
  obtain ⟨e, he, rest, hS, hT, hnext⟩ := h
  obtain ⟨-, -, hlower, hmark⟩ := spec_of_twin he
  have hnext' : ¬ (e.2.2 ++ rest).head?.any isUppercase := by
    cases hds : e.2.2 with
    | nil => exact hnext
    | cons d ds =>
      have hd : isUppercase d = false := by simpa [hds] using (List.all_eq_true.mp hmark d)
      simp [hd]
  rw [decapitalize_eq_iff_chars, hS, hT, decapitalizeChars_of_next hnext,
    decapitalizeChars_of_next hnext', hlower, List.append_assoc]

/-- The name of a property whose suffix loses its capital. -/
theorem decapitalizeChars_of_losesCapital (hS : S.toList = c :: cs) (h : losesCapital S) :
    decapitalizeChars S.toList = lowerChar c ++ cs := by
  rw [hS, decapitalizeChars_of_next ((losesCapital_iff hS).mp h).2]

/-- Two suffixes that lose their capital are the same if the names made from them are. -/
theorem eq_of_losesCapital {d : Char} {ds : List Char} (hS : S.toList = c :: cs)
    (hT : T.toList = d :: ds) (hlostS : losesCapital S) (hlostT : losesCapital T)
    (h : decapitalize S = decapitalize T) : S = T := by
  have hc : c ∈ lostCapitals := ((losesCapital_iff hS).mp hlostS).1
  have hd : d ∈ lostCapitals := ((losesCapital_iff hT).mp hlostT).1
  obtain ⟨-, hne, -, hheads, -⟩ := spec_of_lost hc
  obtain ⟨-, hne', -⟩ := spec_of_lost hd
  rw [decapitalize_eq_iff_chars, decapitalizeChars_of_losesCapital hS hlostS,
    decapitalizeChars_of_losesCapital hT hlostT] at h
  have hhead := congrArg List.head? h
  rw [List.head?_append_of_ne_nil _ hne, List.head?_append_of_ne_nil _ hne'] at hhead
  have hcd : c = d := hheads d hd hhead
  subst hcd
  rw [← String.toList_inj, hS, hT, List.append_cancel_left h]

/-- A suffix that keeps its capital shares the name of a property only with its twin. -/
theorem twins_of_decapitalize_eq {d : Char} {ds : List Char} (hS : S.toList = c :: cs)
    (hT : T.toList = d :: ds) (hd : startsWord d) (hlost : losesCapital S)
    (hkept : ¬ losesCapital T) (h : decapitalize S = decapitalize T) : Twins S T := by
  obtain ⟨hc, hnext⟩ := (losesCapital_iff hS).mp hlost
  obtain ⟨-, hne, -, -, hmade⟩ := spec_of_lost hc
  have hname : decapitalizeChars T.toList = lowerChar c ++ cs := by
    rw [← decapitalize_eq_iff_chars.mp h, decapitalizeChars_of_losesCapital hS hlost]
  have hback : T.toList = capitalizeChars (lowerChar c) ++ cs := by
    have hT' : capitalize (decapitalize T) = T := (capitalize_decapitalize_iff hT hd).mpr hkept
    rw [← capitalizeChars_append hne, ← hname]
    conv_lhs => rw [← hT', capitalize, decapitalize, String.toList_ofList, String.toList_ofList]
  rcases hmade with ⟨hlower, himage⟩ | ⟨e, he, rfl, himage⟩
  · -- two capital letters are made of the sharp S, and they would have stayed
    have hacronym : isUppercase 'S' := by decide
    rw [hback, himage, hlower] at hname
    simp [decapitalizeChars, hacronym] at hname
  · exact ⟨e, he, cs, hS, by rw [hback, himage, List.cons_append], hnext⟩

/-- **Two suffixes share a name only if one loses its capital to the other.** -/
theorem decapitalize_eq_iff {d : Char} {ds : List Char} (hS : S.toList = c :: cs)
    (hT : T.toList = d :: ds) (hc : startsWord c) (hd : startsWord d) (hne : S ≠ T) :
    decapitalize S = decapitalize T ↔ Twins S T ∨ Twins T S := by
  constructor
  · intro h
    by_cases hlostS : losesCapital S <;> by_cases hlostT : losesCapital T
    · exact absurd (eq_of_losesCapital hS hT hlostS hlostT h) hne
    · exact .inl (twins_of_decapitalize_eq hS hT hd hlostS hlostT h)
    · exact .inr (twins_of_decapitalize_eq hT hS hc hlostT hlostS h.symm)
    · have hbackS := (capitalize_decapitalize_iff hS hc).mpr hlostS
      have hbackT := (capitalize_decapitalize_iff hT hd).mpr hlostT
      exact absurd (hbackS.symm.trans ((congrArg capitalize h).trans hbackT)) hne
  · rintro (h | h)
    · exact h.decapitalize_eq
    · exact h.decapitalize_eq.symm

/-- Twins start with capital letters. -/
theorem Twins.exists_startsWord (h : Twins S T) :
    (∃ c cs, S.toList = c :: cs ∧ startsWord c) ∧ ∃ d ds, T.toList = d :: ds ∧ startsWord d := by
  obtain ⟨e, he, rest, hS, hT, -⟩ := h
  obtain ⟨hfirst, hsecond, -⟩ := spec_of_twin he
  exact ⟨⟨_, _, hS, hfirst⟩, _, _, hT, hsecond⟩

/-! ### Accessors -/

/-- The words that accessors start with. -/
def accessorWords : List String := ["get", "is"]

/-- An accessor is called one of the words, and then a suffix that starts a new word. -/
theorem suffix?_eq_some_iff {name : String} : suffix? name = some S ↔
    (∃ word ∈ accessorWords, name = word ++ S) ∧ ∃ c cs, S.toList = c :: cs ∧ startsWord c := by
  have hchars : suffix? name = some S ↔
      (rest? "get".toList name.toList).or (rest? "is".toList name.toList) = some S.toList := by
    rw [suffix?, Option.map_eq_some_iff]
    constructor
    · rintro ⟨cs, hcs, rfl⟩
      rw [hcs, String.toList_ofList]
    · exact fun h => ⟨S.toList, h, String.ofList_toList⟩
  have hname (word : String) : name.toList = word.toList ++ S.toList ↔ name = word ++ S := by
    rw [← String.toList_append, String.toList_inj]
  rw [hchars, Option.or_eq_some_iff, rest?_eq_some_iff, rest?_eq_some_iff, hname, hname]
  constructor
  · rintro (⟨hget, hstart⟩ | ⟨-, his, hstart⟩)
    · exact ⟨⟨"get", by decide, hget⟩, hstart⟩
    · exact ⟨⟨"is", by decide, his⟩, hstart⟩
  · rintro ⟨⟨word, hword, heq⟩, hstart⟩
    rcases List.mem_pair.mp hword with rfl | rfl
    · exact .inl ⟨heq, hstart⟩
    · -- no name starts with both words
      have happart : Apart "get" "is" := by decide
      have hget : startsWith "get" name = false := heq ▸ happart.startsWith_eq_false S
      exact .inr ⟨Option.isNone_iff_eq_none.mp (Option.isSome_eq_false_iff.mp hget), heq, hstart⟩

/-- The property of an accessor, told from the two parts of its name. -/
theorem propertyOf?_append_eq_some_iff {word id : String} (hword : word ∈ accessorWords) :
    propertyOf? (word ++ S) = some id ↔
      decapitalize S = id ∧ ∃ c cs, S.toList = c :: cs ∧ startsWord c := by
  have happart : ∀ v ∈ accessorWords, ∀ w ∈ accessorWords, v = w ∨ Apart v w := by decide
  rw [propertyOf?_eq, Option.map_eq_some_iff]
  constructor
  · rintro ⟨S', hS', rfl⟩
    obtain ⟨⟨word', hword', hsplit⟩, hstart⟩ := suffix?_eq_some_iff.mp hS'
    rcases happart word hword word' hword' with rfl | happart
    · obtain rfl : S = S' := by
        have hlists := congrArg String.toList hsplit
        rw [String.toList_append, String.toList_append] at hlists
        exact String.toList_inj.mp (List.append_cancel_left hlists)
      exact ⟨rfl, hstart⟩
    · exact absurd hsplit (happart.append_ne S S')
  · rintro ⟨rfl, hstart⟩
    exact ⟨S, suffix?_eq_some_iff.mpr ⟨⟨word, hword, rfl⟩, hstart⟩, rfl⟩

/-- **Accessors and what supports their properties.** The methods that support a property are called
their own words and the suffix of its accessor, unless that suffix loses its capital; and two accessors
with the same word are of the same property only if one loses its capital to the other. -/
theorem recovered_iff {name id : String} (h : propertyOf? name = some id) :
    ∃ word ∈ accessorWords, ∃ S, name = word ++ S ∧ (∃ c cs, S.toList = c :: cs ∧ startsWord c) ∧
      (capitalize id = S ↔ ¬ losesCapital S) ∧
      (∀ (f : Factory) (m : MemberContext) (facets : FacetHolder), m.id = id →
        ∀ t ∈ f.takesOnMember m facets, ∃ support ∈ f.words,
          t.name = support ++ capitalize id ∧ (t.name = support ++ S ↔ ¬ losesCapital S)) ∧
      ∀ T ≠ S, propertyOf? (word ++ T) = some id ↔ Twins S T ∨ Twins T S := by
  obtain ⟨S, hS, hid⟩ := Option.map_eq_some_iff.mp (propertyOf?_eq name ▸ h)
  obtain ⟨⟨word, hword, rfl⟩, c, cs, hchars, hc⟩ := suffix?_eq_some_iff.mp hS
  have hback : capitalize id = S ↔ ¬ losesCapital S :=
    hid ▸ capitalize_decapitalize_iff hchars hc
  refine ⟨word, hword, S, rfl, ⟨c, cs, hchars, hc⟩, hback, ?_, ?_⟩
  · intro f m facets hm t ht
    obtain ⟨support, hsupport, hname⟩ := Factory.exists_word_of_mem_takesOnMember t ht
    rw [MemberContext.supporting, hm] at hname
    refine ⟨support, hsupport, hname, ?_⟩
    rw [hname, ← hback, ← String.toList_inj, String.toList_append, String.toList_append,
      List.append_cancel_left_eq, String.toList_inj]
  · intro T hne
    rw [propertyOf?_append_eq_some_iff hword, ← hid]
    constructor
    · rintro ⟨hsame, d, ds, hT, hd⟩
      exact (decapitalize_eq_iff hchars hT hc hd hne.symm).mp hsame.symm
    · intro htwins
      obtain ⟨d, ds, hT, hd⟩ : ∃ d ds, T.toList = d :: ds ∧ startsWord d :=
        htwins.elim (·.exists_startsWord.2) (·.exists_startsWord.1)
      exact ⟨((decapitalize_eq_iff hchars hT hc hd hne.symm).mpr htwins).symm, d, ds, hT, hd⟩

/-- The suffix `FirstName` comes back from the name of its property, which no other suffix makes. -/
theorem recovered_first_name :
    propertyOf? "getFirstName" = some "firstName" ∧ capitalize "firstName" = "FirstName" ∧
      ∃ word ∈ accessorWords, "getFirstName" = word ++ "FirstName" ∧
        ∀ T ≠ "FirstName", propertyOf? (word ++ T) ≠ some "firstName" := by
  obtain ⟨hname, hthis, hkept⟩ : propertyOf? "getFirstName" = some "firstName" ∧
      suffix? "getFirstName" = some "FirstName" ∧ ¬ losesCapital "FirstName" := by decide +kernel
  have hF : ∀ e ∈ twinStarts, e.1 ≠ 'F' ∧ e.2.1 ≠ 'F' := by decide
  obtain ⟨word, hword, S, hsplit, hstart, hback, -, hshared⟩ := recovered_iff hname
  have hsuffix : suffix? "getFirstName" = some S :=
    suffix?_eq_some_iff.mpr ⟨⟨word, hword, hsplit⟩, hstart⟩
  obtain rfl : "FirstName" = S := Option.some.inj (hthis.symm.trans hsuffix)
  refine ⟨hname, hback.mpr hkept, word, hword, hsplit, fun T hT hid => ?_⟩
  rcases (hshared T hT).mp hid with ⟨e, he, rest, hfirst, -⟩ | ⟨e, he, rest, -, hfirst, -⟩
  · exact (hF e he).1 (List.cons.inj hfirst).1.symm
  · exact (hF e he).2 (List.cons.inj hfirst).1.symm

/-- A suffix that starts with the kelvin sign is not made again: what is made starts with the letter K.
So the accessors with the sign and with the letter are of the same property. -/
theorem kelvin_suffix_not_recovered :
    propertyOf? "get\u212Aelvin" = some "kelvin" ∧ capitalize "kelvin" ≠ "\u212Aelvin" ∧
      propertyOf? "getKelvin" = propertyOf? "get\u212Aelvin" ∧ "Kelvin" ≠ "\u212Aelvin" := by
  decide +kernel

end Naming
end Facetry
