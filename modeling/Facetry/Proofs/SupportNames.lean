/-
# Names that words make

An accessor has its name from a word and a suffix, a property its name from the suffix, and the
methods that support the property theirs from other words and the capitalized name of the property.
The suffix is not handed on; it is made again. Nothing is lost on the way if it starts with an
upper-case letter of ASCII or with a digit: such a character is the upper case of its lower case.

Words of which none is the start of another never make the same name (`Naming.Apart`). The words
`modify`, `set`, `clear`, `addTo` and `removeFrom` are apart from all others that a factory puts
before a name, from the names of the methods that every object has, and from those of accessors.

Key definitions: `Naming.suffix?`, `Naming.startsPlain`, `Naming.Apart`, `apartWords`.
Key theorems: `Naming.capitalize_decapitalize`, `Naming.Apart.append_ne`,
`Factory.apart_of_mem_words`, `Factory.name_ne_onMember`.
-/
import Facetry.Proofs.HiddenActions

namespace Facetry

/-! ### Names of accessors -/

namespace Naming

/-- What follows the word in the name of an accessor. -/
def suffix? (name : String) : Option String :=
  ((rest? "get".toList name.toList).or (rest? "is".toList name.toList)).map String.ofList

/-- A property has its name from what follows the word. -/
theorem propertyOf?_eq (name : String) : propertyOf? name = (suffix? name).map decapitalize := by
  unfold propertyOf? propertyChars? suffix?
  rw [Option.map_map, Option.map_map]
  refine congrArg (Option.map · _) (funext fun cs => ?_)
  simp [decapitalize]

/-- Whether a name starts with an upper-case letter of ASCII or with a digit. -/
def startsPlain (name : String) : Bool := name.toList.head?.any fun c => c.isUpper || c.isDigit

/-- Such a character is the upper case of itself and of its lower case. -/
theorem upperChar_of_plain {c : Char} (h : c.isUpper || c.isDigit) :
    Text.upperChar c = [c] ∧ ∃ d, Text.lowerChar c = [d] ∧ Text.upperChar d = [c] := by
  have hall : ∀ n < 128, (Char.ofNat n).isUpper || (Char.ofNat n).isDigit →
      Text.upperChar (Char.ofNat n) = [Char.ofNat n] ∧
        (Text.lowerChar (Char.ofNat n)).length = 1 ∧
        (Text.lowerChar (Char.ofNat n)).flatMap Text.upperChar = [Char.ofNat n] := by
    decide +kernel
  have hlt : c.toNat < 128 := by
    rcases Bool.or_eq_true_iff.mp h with h | h
    · have hle : c.val ≤ 'Z'.val := (of_decide_eq_true h).2
      exact Nat.lt_of_le_of_lt (UInt32.le_iff_toNat_le.mp hle) (by decide)
    · have hle : c.val ≤ '9'.val := of_decide_eq_true (Bool.and_eq_true_iff.mp h).2
      exact Nat.lt_of_le_of_lt (UInt32.le_iff_toNat_le.mp hle) (by decide)
  obtain ⟨hupper, hlength, hback⟩ := hall c.toNat hlt (by rwa [Char.ofNat_toNat])
  rw [Char.ofNat_toNat] at hupper hlength hback
  obtain ⟨d, hd⟩ := List.length_eq_one_iff.mp hlength
  exact ⟨hupper, d, hd, by simpa [hd] using hback⟩

/-- **A suffix that starts with a plain character can be made again** from the name of the
property, whether its first letter was changed or not. -/
theorem capitalize_decapitalize {name : String} (h : startsPlain name) :
    capitalize (decapitalize name) = name := by
  have hchars : capitalizeChars (decapitalizeChars name.toList) = name.toList := by
    unfold startsPlain at h
    cases hname : name.toList with
    | nil => rfl
    | cons c cs =>
      rw [hname, List.head?_cons, Option.any_some] at h
      obtain ⟨hupper, d, hlower, hback⟩ := upperChar_of_plain h
      cases cs with
      | nil => simp [decapitalizeChars, capitalizeChars, hlower, hback]
      | cons e cs =>
        rw [decapitalizeChars]
        split
        · simp [capitalizeChars, hupper]
        · simp [capitalizeChars, hlower, hback]
  rw [capitalize, decapitalize, String.toList_ofList, hchars, String.ofList_toList]

theorem rest?_eq_some_iff {word name cs : List Char} : rest? word name = some cs ↔
    name = word ++ cs ∧ ∃ d ds, cs = d :: ds ∧ startsWord d := by
  unfold rest?
  constructor
  · intro h
    split at h
    · rename_i d ds hfound
      split at h
      · obtain rfl := Option.some.inj h
        exact ⟨(List.isPrefixOf?_eq_some_iff_append_eq.mp hfound).symm, d, ds, rfl, ‹_›⟩
      · cases h
    · cases h
  · rintro ⟨rfl, d, ds, rfl, hd⟩
    have hfound : word.isPrefixOf? (word ++ d :: ds) = some (d :: ds) :=
      List.isPrefixOf?_eq_some_iff_append_eq.mpr rfl
    rw [hfound]
    exact if_pos hd

/-- What follows the word in the name of an accessor starts a new word. -/
theorem exists_of_suffix? {name S : String} (h : suffix? name = some S) :
    ∃ c cs, S = String.ofList (c :: cs) ∧ startsWord c := by
  obtain ⟨cs, hcs, rfl⟩ := Option.map_eq_some_iff.mp h
  obtain ⟨d, ds, rfl, hd⟩ : ∃ d ds, cs = d :: ds ∧ startsWord d := by
    rcases Option.or_eq_some_iff.mp hcs with hcs | ⟨-, hcs⟩
    · exact (rest?_eq_some_iff.mp hcs).2
    · exact (rest?_eq_some_iff.mp hcs).2
  exact ⟨d, ds, rfl, hd⟩

theorem startsWith_of_startsWord {c : Char} {cs : List Char} (h : startsWord c) (word : String) :
    startsWith word (word ++ String.ofList (c :: cs)) := by
  have hrest : rest? word.toList (word ++ String.ofList (c :: cs)).toList = some (c :: cs) := by
    rw [String.toList_append, String.toList_ofList]
    exact rest?_eq_some_iff.mpr ⟨rfl, c, cs, rfl, h⟩
  rw [startsWith, hrest]
  rfl

/-- What follows a word starts a new word, after any other word too. -/
theorem startsWith_append {name S : String} (h : suffix? name = some S) (word : String) :
    startsWith word (word ++ S) := by
  obtain ⟨c, cs, rfl, hc⟩ := exists_of_suffix? h
  exact startsWith_of_startsWord hc word

/-! ### Words apart

Two words are apart if neither is the start of the other. Names that start with them are
different, whatever follows. -/

/-- Neither word is the start of the other. -/
def Apart (v w : String) : Prop := ¬ v.toList <+: w.toList ∧ ¬ w.toList <+: v.toList

instance (v w : String) : Decidable (Apart v w) :=
  inferInstanceAs (Decidable (¬ v.toList <+: w.toList ∧ ¬ w.toList <+: v.toList))

variable {v w : String}

/-- No name starts with both. -/
theorem Apart.not_prefix (h : Apart v w) (s : String) : ¬ v.toList <+: (w ++ s).toList := by
  rw [String.toList_append]
  intro hv
  exact (List.prefix_or_prefix_of_prefix hv (List.prefix_append _ _)).elim h.1 h.2

theorem Apart.append_ne (h : Apart v w) (s t : String) : v ++ s ≠ w ++ t := by
  intro heq
  refine h.not_prefix t ?_
  rw [← heq, String.toList_append]
  exact List.prefix_append _ _

theorem Apart.ne (h : Apart v w) (t : String) : v ≠ w ++ t := by
  rintro rfl
  exact h.2 (by simp [String.toList_append])

theorem Apart.startsWith_eq_false (h : Apart v w) (s : String) : startsWith v (w ++ s) = false := by
  have hprefix : v.toList.isPrefixOf? (w ++ s).toList = none := by
    refine Option.eq_none_iff_forall_ne_some.mpr fun cs hcs => h.not_prefix s ?_
    exact ⟨cs, List.isPrefixOf?_eq_some_iff_append_eq.mp hcs⟩
  rw [startsWith, rest?, hprefix]
  rfl

end Naming

/-! ### The words of the takes -/

/-- The words before the names of the methods that change a property. -/
def changeWords : List String := ["modify", "set", "clear"]

/-- The words before the names of the methods that add to a collection and remove from it. -/
def elementWords : List String := ["addTo", "removeFrom"]

/-- The words that are apart from all others. -/
def apartWords : List String := changeWords ++ elementWords

namespace Factory

open Naming (Apart)

variable {f : Factory} {w : String}

/-- The words are apart from all other words. -/
theorem apart_of_mem_words (hw : w ∈ apartWords) : ∀ word ∈ f.words, word = w ∨ Apart word w := by
  have hall : ∀ word ∈ f.words, ∀ w ∈ apartWords, word = w ∨ Apart word w := by
    cases f <;> decide
  exact fun word hword => hall word hword w hw

/-- What a factory takes for a member starts with a word that the factory reserves. -/
theorem exists_word_of_mem_takesOnMember {m : MemberContext} {facets : FacetHolder} :
    ∀ t ∈ f.takesOnMember m facets, ∃ word ∈ f.words, t.name = m.supporting word := by
  cases f <;> simp [takesOnMember, words]

/-- What a factory takes for a parameter starts with one of the other words. -/
theorem name_ne_onParameter (hw : w ∈ apartWords) (S : String) (p : ParameterContext) :
    ∀ t ∈ f.takesOnParameter p, t.name ≠ w ++ S := by
  have happart : ∀ word ∈ ["choices", "default", "autoComplete"], ∀ w ∈ apartWords,
      Apart word w := by decide
  have hwords : ∀ t ∈ f.takesOnParameter p, ∃ word ∈ ["choices", "default", "autoComplete"],
      ∃ rest, t.name = word ++ rest := by
    cases f <;> simp [takesOnParameter, ParameterContext.supporting, String.append_assoc]
  intro t ht
  obtain ⟨word, hword, rest, hname⟩ := hwords t ht
  rw [hname]
  exact (happart word hword w hw).append_ne rest S

/-- What a factory takes for a class has another name. -/
theorem name_ne_onClass (hw : w ∈ apartWords) (S : String) :
    ∀ t ∈ f.takesOnClass, t.name ≠ w ++ S := by
  have happart : ∀ word ∈ ["title", "iconName"], ∀ w ∈ apartWords, Apart word w := by decide
  have hnames : ∀ t ∈ f.takesOnClass, t.name ∈ ["title", "iconName"] := by
    cases f <;> simp [takesOnClass]
  exact fun t ht => (happart t.name (hnames t ht) w hw).ne S

/-- A factory takes a method with such a name only for the word and the member. -/
theorem name_ne_onMember (hw : w ∈ apartWords) {m : MemberContext} {facets : FacetHolder}
    {S : String} (h : w ∉ f.words ∨ Naming.capitalize m.id ≠ S) :
    ∀ t ∈ f.takesOnMember m facets, t.name ≠ w ++ S := by
  intro t ht heq
  obtain ⟨word, hword, hname⟩ := exists_word_of_mem_takesOnMember t ht
  rw [hname, MemberContext.supporting] at heq
  rcases apart_of_mem_words hw word hword with rfl | happart
  · refine h.resolve_left (not_not_intro hword) (String.toList_inj.mp ?_)
    simpa using congrArg String.toList heq
  · exact happart.append_ne _ _ heq

end Factory

namespace Introspection

variable {m : Method} {w S : String}

/-- No method that every object has is called so. -/
theorem isFrameworkMethod_change (hw : w ∈ apartWords) (h : m.name = w ++ S) :
    isFrameworkMethod m = false := by
  have happart : ∀ name ∈ frameworkMethods, ∀ w ∈ apartWords, Naming.Apart name w := by decide
  refine Bool.eq_false_iff.mpr fun hmem => ?_
  exact (happart m.name (List.contains_iff_mem.mp hmem) w hw).ne S h

/-- No accessor has a name that starts with a word apart from those of accessors. -/
theorem isAccessor_eq_false (hw : ∀ word ∈ ["get", "is"], Naming.Apart word w)
    (h : m.name = w ++ S) : isAccessor m = false := by
  have hget := (hw "get" (by simp)).startsWith_eq_false S
  have his := (hw "is" (by simp)).startsWith_eq_false S
  simp [isAccessor, h, hget, his]

theorem isAccessor_change (hw : w ∈ apartWords) (h : m.name = w ++ S) : isAccessor m = false := by
  have happart : ∀ w ∈ apartWords, ∀ word ∈ ["get", "is"], Naming.Apart word w := by decide
  exact isAccessor_eq_false (happart w hw) h

end Introspection
end Facetry
