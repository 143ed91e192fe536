/-
# Values are told apart by their compact texts

A compact text spells one value, and where the value ends shows in the text. The first
character tells what the value is. A string ends with the first quote that is not escaped,
and the reader gets every escaped character back. A number ends where no character goes on
with it. Items and fields have a comma between them, and a bracket after the last.

So two values with one text are equal, if all of them can be read and their decimals are in
lowest terms. Whatever is read from a text is like that.

Key definitions: `Json.isReduced`, `Json.IsProper`, `Json.shape?`.
Key theorems: `Text.intercalate_append_inj`, `Json.quote_append_inj`,
`Json.compactChars_append_inj`, `Json.isProper_of_readAny`, `Json.isReduced_of_parse?`.
-/
import Facetry.Proofs.CanonicalJson
import Facetry.Proofs.WrittenNumbers

namespace Facetry

/-! ### Lists of texts -/

namespace Text

theorem intercalate_cons {α : Type} (sep first : List α) (rest : List (List α)) :
    sep.intercalate (first :: rest) = first ++ rest.flatMap (sep ++ ·) := by
  induction rest generalizing first with
  | nil => rw [List.intercalate_singleton, List.flatMap_nil, List.append_nil]
  | cons second rest ih =>
    rw [List.intercalate_cons_cons, ih, List.flatMap_cons, List.append_assoc, List.append_assoc]

section Intercalate

variable {α : Type} {write : α → List Char} {Ends : List Char → Prop} {mark close : Char}
  {sep : List Char} (hmark : ∀ rest, Ends (mark :: rest)) (hclose : ∀ rest, Ends (close :: rest))
include hmark hclose

theorem ends_flatMap (zs : List α) (rest : List Char) :
    Ends ((zs.map write).flatMap (mark :: sep ++ ·) ++ close :: rest) := by
  cases zs with
  | nil => exact hclose rest
  | cons z zs => exact hmark _

variable (hdiffer : mark ≠ close) {xs ys : List α}
  (hwrite : ∀ x ∈ xs, ∀ y ∈ ys, ∀ rest rest', Ends rest → Ends rest' →
    write x ++ rest = write y ++ rest' → x = y ∧ rest = rest')
include hdiffer hwrite

/-- Further texts are told apart, up to the end of all. -/
theorem flatMap_append_inj {rest rest' : List Char}
    (h : (xs.map write).flatMap (mark :: sep ++ ·) ++ close :: rest =
      (ys.map write).flatMap (mark :: sep ++ ·) ++ close :: rest') : xs = ys ∧ rest = rest' := by
  induction xs generalizing ys with
  | nil =>
    cases ys with
    | nil => exact ⟨rfl, List.tail_eq_of_cons_eq h⟩
    | cons y ys => exact absurd (List.head_eq_of_cons_eq h).symm hdiffer
  | cons x xs ih =>
    cases ys with
    | nil => exact absurd (List.head_eq_of_cons_eq h) hdiffer
    | cons y ys =>
      simp only [List.map_cons, List.flatMap_cons, List.cons_append, List.append_assoc,
        List.cons.injEq, true_and, List.append_cancel_left_eq] at h
      obtain ⟨rfl, hrest⟩ := hwrite x List.mem_cons_self y List.mem_cons_self _ _
        (ends_flatMap hmark hclose xs rest) (ends_flatMap hmark hclose ys rest') h
      obtain ⟨rfl, rfl⟩ := ih (fun x hx y hy =>
        hwrite x (List.mem_cons_of_mem _ hx) y (List.mem_cons_of_mem _ hy)) hrest
      exact ⟨rfl, rfl⟩

/-- **Texts with a mark between them and another one after the last are told apart**, if each of
them is told apart from the others before either mark, and none starts with the last one. -/
theorem intercalate_append_inj
    (hstart : ∀ z ∈ xs ++ ys, ∀ rest, (write z ++ rest).head? ≠ some close) {rest rest' : List Char}
    (h : (mark :: sep).intercalate (xs.map write) ++ close :: rest =
      (mark :: sep).intercalate (ys.map write) ++ close :: rest') : xs = ys ∧ rest = rest' := by
  cases xs with
  | nil =>
    cases ys with
    | nil => exact ⟨rfl, List.tail_eq_of_cons_eq h⟩
    | cons y ys =>
      refine absurd ?_ (hstart y (by simp) ((ys.map write).flatMap (mark :: sep ++ ·) ++
        close :: rest'))
      rw [← List.append_assoc, ← intercalate_cons, ← List.map_cons, ← h]
      rfl
  | cons x xs =>
    cases ys with
    | nil =>
      refine absurd ?_ (hstart x (by simp) ((xs.map write).flatMap (mark :: sep ++ ·) ++
        close :: rest))
      rw [← List.append_assoc, ← intercalate_cons, ← List.map_cons, h]
      rfl
    | cons y ys =>
      rw [List.map_cons, List.map_cons, intercalate_cons, intercalate_cons, List.append_assoc,
        List.append_assoc] at h
      obtain ⟨rfl, hrest⟩ := hwrite x List.mem_cons_self y List.mem_cons_self _ _
        (ends_flatMap hmark hclose xs rest) (ends_flatMap hmark hclose ys rest') h
      obtain ⟨rfl, rfl⟩ := flatMap_append_inj hmark hclose hdiffer (fun x hx y hy =>
        hwrite x (List.mem_cons_of_mem _ hx) y (List.mem_cons_of_mem _ hy)) hrest
      exact ⟨rfl, rfl⟩

end Intercalate

end Text

open Text

namespace Json

/-! ### Strings -/

theorem hexWord?_hexDigits : ∀ n < 0x20,
    hexWord? '0' '0' (hexDigit (n / 16)) (hexDigit (n % 16)) = some n := by
  decide +kernel

theorem stringBody?_shortEscape {c c' : Char} (hc : c ≠ 'u') (h : shortEscape? c = some c')
    (done : Option (List Char)) (rest : List Char) :
    stringBody? done ('\\' :: c :: rest) = stringBody? (done.map (c' :: ·)) rest := by
  rw [stringBody?.eq_def]
  simp [hc, h]

/-- An escaped character is read as the character. -/
theorem stringBody?_escapeChar (done : Option (List Char)) (c : Char) (rest : List Char) :
    stringBody? done (escapeChar c ++ rest) = stringBody? (done.map (c :: ·)) rest := by
  unfold escapeChar
  split
  iterate 7 exact stringBody?_shortEscape (by decide) rfl done rest
  split
  · rename_i h
    have hlow : c.toNat < 0xD800 ∨ 0xE000 ≤ c.toNat := .inl (Nat.lt_trans h (by decide))
    simp only [List.cons_append, List.nil_append]
    rw [stringBody?.eq_def]
    simp only [hexWord?_hexDigits c.toNat h, if_pos hlow, Char.ofNat_toNat]
  · rw [List.singleton_append, stringBody?.eq_def]
    split <;> simp_all

/-- **A string is read back from its quoted text**, and what follows is left. -/
theorem stringBody?_quoted (done : List Char) (cs rest : List Char) :
    stringBody? (some done) (cs.flatMap escapeChar ++ '"' :: rest) =
      some (some (cs.reverse ++ done), rest) := by
  induction cs generalizing done with
  | nil =>
    rw [List.flatMap_nil, List.nil_append, stringBody?.eq_def]
    rfl
  | cons c cs ih =>
    rw [List.flatMap_cons, List.append_assoc, stringBody?_escapeChar, Option.map_some, ih,
      List.reverse_cons, List.append_assoc, List.singleton_append]

theorem quote_append_inj {s t : String} {rest rest' : List Char}
    (h : quote s ++ rest = quote t ++ rest') : s = t ∧ rest = rest' := by
  simp only [quote, List.cons_append, List.append_assoc, List.nil_append, List.cons.injEq,
    true_and] at h
  have hread := stringBody?_quoted [] s.toList rest
  rw [h, stringBody?_quoted] at hread
  simp only [List.append_nil, Option.some.injEq, Prod.mk.injEq, List.reverse_inj,
    String.toList_inj] at hread
  exact ⟨hread.1.symm, hread.2.symm⟩

/-! ### Proper values -/

/-- An induction on values, with all items of an array and all fields of an object at once. -/
theorem induction {P : Json → Prop} (unreadable : P unreadable) (null : P null)
    (bool : ∀ b, P (bool b)) (number : ∀ n, P (number n)) (string : ∀ s, P (string s))
    (array : ∀ items, (∀ x ∈ items, P x) → P (array items))
    (object : ∀ fields, (∀ f ∈ fields, P f.2) → P (object fields)) (j : Json) : P j :=
  @Json.rec P (fun items => ∀ x ∈ items, P x) (fun fields => ∀ f ∈ fields, P f.2) (fun f => P f.2)
    unreadable null bool number string array object (fun _ h => nomatch h)
    (fun _ _ hx hxs => List.forall_mem_cons.mpr ⟨hx, hxs⟩) (fun _ h => nomatch h)
    (fun _ _ hf hfs => List.forall_mem_cons.mpr ⟨hf, hfs⟩) (fun _ _ h => h) j

mutual

/-- Whether all decimals in the value are in lowest terms. -/
def isReduced : Json → Bool
  | number n => n.isReduced
  | array items => areReducedItems items
  | object fields => areReducedFields fields
  | _ => true

/-- Whether all decimals in the items are in lowest terms. -/
def areReducedItems : List Json → Bool
  | [] => true
  | x :: xs => x.isReduced && areReducedItems xs

/-- Whether all decimals in the fields' values are in lowest terms. -/
def areReducedFields : List (String × Json) → Bool
  | [] => true
  | (_, x) :: xs => x.isReduced && areReducedFields xs

end

/-- The value is one: all of it can be read, and its decimals are in lowest terms. -/
structure IsProper (j : Json) : Prop where
  readable : j.isReadable
  reduced : j.isReduced

theorem areReadableItems_iff {items : List Json} :
    areReadableItems items ↔ ∀ x ∈ items, x.isReadable := by
  induction items with
  | nil => simp [areReadableItems]
  | cons x items ih => rw [areReadableItems, Bool.and_eq_true, ih, List.forall_mem_cons]

theorem areReducedItems_iff {items : List Json} :
    areReducedItems items ↔ ∀ x ∈ items, x.isReduced := by
  induction items with
  | nil => simp [areReducedItems]
  | cons x items ih => rw [areReducedItems, Bool.and_eq_true, ih, List.forall_mem_cons]

theorem areReducedFields_iff {fields : List (String × Json)} :
    areReducedFields fields ↔ ∀ f ∈ fields, f.2.isReduced := by
  induction fields with
  | nil => simp [areReducedFields]
  | cons f fields ih => rw [areReducedFields, Bool.and_eq_true, ih, List.forall_mem_cons]

theorem isProper_array_iff {items : List Json} :
    (array items).IsProper ↔ ∀ x ∈ items, x.IsProper := by
  constructor
  · rintro ⟨hreadable, hreduced⟩ x hx
    rw [isReadable, areReadableItems_iff] at hreadable
    rw [isReduced, areReducedItems_iff] at hreduced
    exact ⟨hreadable x hx, hreduced x hx⟩
  · intro h
    refine ⟨?_, ?_⟩
    · rw [isReadable, areReadableItems_iff]
      exact fun x hx => (h x hx).readable
    · rw [isReduced, areReducedItems_iff]
      exact fun x hx => (h x hx).reduced

theorem isProper_object_iff {fields : List (String × Json)} :
    (object fields).IsProper ↔ ∀ f ∈ fields, f.2.IsProper := by
  constructor
  · rintro ⟨hreadable, hreduced⟩ f hf
    rw [isReadable, areReadableFields_iff] at hreadable
    rw [isReduced, areReducedFields_iff] at hreduced
    exact ⟨hreadable f hf, hreduced f hf⟩
  · intro h
    refine ⟨?_, ?_⟩
    · rw [isReadable, areReadableFields_iff]
      exact fun f hf => (h f hf).readable
    · rw [isReduced, areReducedFields_iff]
      exact fun f hf => (h f hf).reduced

/-! ### Compact texts -/

/-- What a value is, as far as its first character tells. -/
inductive Shape
  | null
  | bool (b : Bool)
  | number
  | string
  | array
  | object
  deriving DecidableEq

/-- What the value is, if it can be read. -/
def shape? : Json → Option Shape
  | unreadable => none
  | null => some .null
  | bool b => some (.bool b)
  | number _ => some .number
  | string _ => some .string
  | array _ => some .array
  | object _ => some .object

/-- What a value is that starts with the character. -/
def shapeOf? : Char → Option Shape
  | 'n' => some .null
  | 't' => some (.bool true)
  | 'f' => some (.bool false)
  | '"' => some .string
  | '[' => some .array
  | '\x7b' => some .object
  | c => if c.isDigit || c == '-' then some .number else none

theorem shapeOf?_of_isDigit {c : Char} (h : c.isDigit) : shapeOf? c = some .number := by
  unfold shapeOf?
  split <;> first | exact absurd h (by decide) | skip
  rw [if_pos (by simp [h])]

theorem Number.exists_text_eq_cons (n : Number) :
    ∃ c cs, n.text = c :: cs ∧ shapeOf? c = some .number := by
  obtain ⟨l, hl, htext, -⟩ := exists_literal n
  obtain ⟨c, digits, hwhole⟩ := List.exists_cons_of_ne_nil hl.whole.1
  rw [htext, Literal.chars, hwhole]
  cases l.negative with
  | true => exact ⟨_, _, rfl, rfl⟩
  | false => exact ⟨_, _, rfl, shapeOf?_of_isDigit (hl.whole.2 c (hwhole ▸ List.mem_cons_self))⟩

/-- **The first character tells what a value is.** -/
theorem exists_compactChars_eq_cons {j : Json} (h : j.IsProper) :
    ∃ c cs, j.compactChars = c :: cs ∧ (shapeOf? c).isSome ∧ shapeOf? c = j.shape? := by
  cases j with
  | unreadable => exact absurd h.readable Bool.false_ne_true
  | null => exact ⟨_, _, by rw [compactChars]; rfl, rfl, rfl⟩
  | bool b => cases b <;> exact ⟨_, _, by rw [compactChars]; rfl, rfl, rfl⟩
  | number n =>
    obtain ⟨c, cs, htext, hshape⟩ := n.exists_text_eq_cons
    exact ⟨c, cs, by rw [compactChars, htext], by rw [hshape]; rfl, hshape⟩
  | string s => exact ⟨_, _, by rw [compactChars, quote]; rfl, rfl, rfl⟩
  | array items => exact ⟨_, _, by rw [compactChars]; rfl, rfl, rfl⟩
  | object fields => exact ⟨_, _, by rw [compactChars]; rfl, rfl, rfl⟩

theorem compactItems_eq (items : List Json) :
    compactItems items = [','].intercalate (items.map compactChars) := by
  induction items with
  | nil => rfl
  | cons x items ih =>
    cases items with
    | nil => rw [compactItems, List.map_singleton, List.intercalate_singleton]
    | cons y items =>
      rw [compactItems, ih]
      · simp only [List.map_cons, List.intercalate_cons_cons, List.append_assoc,
          List.singleton_append]
      · exact List.cons_ne_nil _ _

/-- The text of a field. -/
def fieldChars (f : String × Json) : List Char := quote f.1 ++ ':' :: f.2.compactChars

theorem compactFields_eq (fields : List (String × Json)) :
    compactFields fields = [','].intercalate (fields.map fieldChars) := by
  induction fields with
  | nil => rfl
  | cons f fields ih =>
    obtain ⟨name, x⟩ := f
    cases fields with
    | nil => rw [compactFields, List.map_singleton, List.intercalate_singleton, fieldChars]
    | cons f fields =>
      rw [compactFields, ih]
      · simp only [List.map_cons, List.intercalate_cons_cons, List.append_assoc,
          List.singleton_append, fieldChars]
      · exact List.cons_ne_nil _ _

open Number (Ends)

theorem ends_cons {c : Char} (h : isNumberChar c = false) (rest : List Char) : Ends (c :: rest) := by
  rintro _ ⟨⟩
  simp [h]

theorem shape?_eq_of_append_eq {a b : Json} (ha : a.IsProper) (hb : b.IsProper)
    {rest rest' : List Char} (h : a.compactChars ++ rest = b.compactChars ++ rest') :
    a.shape? = b.shape? := by
  obtain ⟨c, cs, hc, -, hshape⟩ := exists_compactChars_eq_cons ha
  obtain ⟨c', cs', hc', -, hshape'⟩ := exists_compactChars_eq_cons hb
  rw [hc, hc'] at h
  rw [← hshape, ← hshape', List.head_eq_of_cons_eq h]

/-- No value starts with a closing bracket. -/
theorem head?_append_ne_close {j : Json} (h : j.IsProper) (rest : List Char) :
    (j.compactChars ++ rest).head? ≠ some ']' := by
  obtain ⟨c, cs, hc, hsome, -⟩ := exists_compactChars_eq_cons h
  rw [hc]
  rintro ⟨⟩
  cases hsome

/-- **A value is told from its compact text**, whatever follows that does not go on with it. -/
theorem compactChars_append_inj {a b : Json} (ha : a.IsProper) (hb : b.IsProper)
    {rest rest' : List Char} (hrest : Ends rest) (hrest' : Ends rest')
    (h : a.compactChars ++ rest = b.compactChars ++ rest') : a = b ∧ rest = rest' := by
  induction a using Json.induction generalizing b rest rest' with
  | unreadable => exact absurd ha.readable Bool.false_ne_true
  | null =>
    have hshape := shape?_eq_of_append_eq ha hb h
    cases b with
    | null => exact ⟨rfl, List.append_cancel_left h⟩
    | _ => cases hshape
  | bool a =>
    have hshape := shape?_eq_of_append_eq ha hb h
    cases b with
    | bool b =>
      cases hshape
      exact ⟨rfl, List.append_cancel_left h⟩
    | _ => cases hshape
  | number a =>
    have hshape := shape?_eq_of_append_eq ha hb h
    cases b with
    | number b =>
      rw [compactChars, compactChars] at h
      obtain ⟨rfl, hrest⟩ := Number.text_append_inj ha.reduced hb.reduced hrest hrest' h
      exact ⟨rfl, hrest⟩
    | _ => cases hshape
  | string s =>
    have hshape := shape?_eq_of_append_eq ha hb h
    cases b with
    | string t =>
      rw [compactChars, compactChars] at h
      obtain ⟨rfl, hrest⟩ := quote_append_inj h
      exact ⟨rfl, hrest⟩
    | _ => cases hshape
  | array xs ih =>
    have hshape := shape?_eq_of_append_eq ha hb h
    cases b with
    | array ys =>
      rw [isProper_array_iff] at ha hb
      rw [compactChars, compactChars, compactItems_eq, compactItems_eq] at h
      simp only [List.cons_append, List.append_assoc, List.nil_append, List.cons.injEq,
        true_and] at h
      obtain ⟨rfl, hrest⟩ := intercalate_append_inj (ends_cons rfl) (ends_cons rfl) (by decide)
        (fun x hx y hy _ _ => ih x hx (ha x hx) (hb y hy))
        (fun z hz => head?_append_ne_close ((List.mem_append.mp hz).elim (ha z) (hb z))) h
      exact ⟨rfl, hrest⟩
    | _ => cases hshape
  | object fields ih =>
    have hshape := shape?_eq_of_append_eq ha hb h
    cases b with
    | object fields' =>
      rw [isProper_object_iff] at ha hb
      rw [compactChars, compactChars, compactFields_eq, compactFields_eq] at h
      simp only [List.cons_append, List.append_assoc, List.nil_append, List.cons.injEq,
        true_and] at h
      have hfield : ∀ f ∈ fields, ∀ f' ∈ fields', ∀ rest rest', Ends rest → Ends rest' →
          fieldChars f ++ rest = fieldChars f' ++ rest' → f = f' ∧ rest = rest' := by
        rintro ⟨name, x⟩ hf ⟨name', y⟩ hf' rest rest' hrest hrest' h
        simp only [fieldChars, List.append_assoc, List.cons_append] at h
        obtain ⟨rfl, hvalue⟩ := quote_append_inj h
        obtain ⟨hxy, hrest⟩ :=
          ih _ hf (ha _ hf) (hb _ hf') hrest hrest' (List.tail_eq_of_cons_eq hvalue)
        exact ⟨Prod.ext rfl hxy, hrest⟩
      obtain ⟨rfl, hrest⟩ := intercalate_append_inj (ends_cons rfl) (ends_cons rfl) (by decide)
        hfield (fun f _ rest h => by cases h) h
      exact ⟨rfl, hrest⟩
    | _ => cases hshape

/-- Two values with one compact text are equal. -/
theorem compact_inj {a b : Json} (ha : a.IsProper) (hb : b.IsProper)
    (h : a.compact = b.compact) : a = b := by
  have hchars : a.compactChars = b.compactChars := String.ofList_injective h
  have hends : Ends [] := fun _ h => nomatch h
  refine (compactChars_append_inj ha hb hends hends ?_).1
  rw [hchars]

/-! ### Values that are read -/

theorem canonicalItems_eq_map (items : List Json) : canonicalItems items = items.map canonical := by
  induction items with
  | nil => rfl
  | cons x items ih => rw [canonicalItems, ih, List.map_cons]

theorem canonicalFields_eq_map (fields : List (String × Json)) :
    canonicalFields fields = fields.map fun f => (f.1, f.2.canonical) := by
  induction fields with
  | nil => rfl
  | cons f fields ih => rw [canonicalFields, ih, List.map_cons]

theorem isReduced_canonical {j : Json} (h : j.isReduced) : j.canonical.isReduced := by
  induction j using Json.induction with
  | array items ih =>
    rw [isReduced, areReducedItems_iff] at h
    rw [canonical, isReduced, areReducedItems_iff, canonicalItems_eq_map, List.forall_mem_map]
    exact fun x hx => ih x hx (h x hx)
  | object fields ih =>
    rw [isReduced, areReducedFields_iff] at h
    rw [canonical, isReduced, areReducedFields_iff]
    intro f hf
    have hmem := NameMap.mem_of_mem_ofList hf
    rw [canonicalFields_eq_map] at hmem
    obtain ⟨f', hf', rfl⟩ := List.mem_map.mp hmem
    exact ih f' hf' (h f' hf')
  | number n => exact h
  | _ => rfl

/-- What is read as a value is one, if the decimals of the text are in lowest terms. -/
theorem isProper_of_readAny {j value : Json} (hj : j.isReduced) (h : readAny j = .ok value) :
    value.IsProper := by
  unfold readAny at h
  split at h <;> cases h
  exact ⟨isReadable_canonical ‹_›, isReduced_canonical hj⟩

/-- The token has no decimal but in lowest terms. -/
def Token.IsReduced : Token → Prop
  | .scalar j => j.isReduced
  | _ => True

theorem Number.Literal.isReduced_value (l : Literal) : l.value.isReduced := by
  unfold Number.Literal.value
  cases h : ofLiteral l with
  | none => rfl
  | some n => exact isReduced_ofLiteral h

/-- One more token in front of a text's tokens. -/
theorem isReduced_of_map_cons {t : Token} {more : Option (List Token)} {tokens : List Token}
    (h : more.map (t :: ·) = some tokens)
    (hmore : ∀ {tokens}, more = some tokens → ∀ t ∈ tokens, t.IsReduced) (ht : t.IsReduced) :
    ∀ t ∈ tokens, t.IsReduced := by
  obtain ⟨rest, hrest, rfl⟩ := Option.map_eq_some_iff.mp h
  exact List.forall_mem_cons.mpr ⟨ht, hmore hrest⟩

theorem isReduced_of_tokens? {cs : List Char} {tokens : List Token} (h : tokens? cs = some tokens) :
    ∀ t ∈ tokens, t.IsReduced := by
  fun_induction tokens? cs generalizing tokens with
  | case1 =>
    cases h
    exact fun _ h => nomatch h
  | case2 _ _ _ ih => exact ih h
  | case3 _ _ _ _ ih => exact isReduced_of_map_cons h ih trivial
  | case4 _ _ _ _ _ ih => exact isReduced_of_map_cons h ih trivial
  | case5 _ _ _ _ _ _ ih => exact isReduced_of_map_cons h ih trivial
  | case6 _ _ _ _ _ _ _ ih => exact isReduced_of_map_cons h ih trivial
  | case7 _ _ _ _ _ _ _ _ ih => exact isReduced_of_map_cons h ih trivial
  | case8 _ _ _ _ _ _ _ _ _ ih => exact isReduced_of_map_cons h ih trivial
  | case10 =>
    rename_i ih
    exact isReduced_of_map_cons h ih trivial
  | case11 =>
    rename_i ih
    exact isReduced_of_map_cons h ih rfl
  | case12 =>
    rename_i ih
    exact isReduced_of_map_cons h ih rfl
  | case13 =>
    rename_i ih
    exact isReduced_of_map_cons h ih rfl
  | case15 =>
    rename_i l _ _ ih
    exact isReduced_of_map_cons h ih l.isReduced_value
  | _ => cases h

/-- What an open array or object holds so far is in lowest terms. -/
def Frame.IsReduced : Frame → Prop
  | .items held => ∀ x ∈ held, x.isReduced
  | .fields held _ => ∀ f ∈ held, f.2.isReduced

/-- What a reading has read so far is in lowest terms. -/
def Progress.IsReduced : Progress → Prop
  | .reading frames _ => ∀ frame ∈ frames, frame.IsReduced
  | .complete j => j.isReduced

namespace Progress

theorem isReduced_ended {j : Json} {frames : List Frame} (hj : j.isReduced)
    (h : ∀ frame ∈ frames, frame.IsReduced) : (ended j frames).IsReduced := by
  rcases frames with _ | ⟨held | ⟨held, name⟩, frames⟩
  · exact hj
  · obtain ⟨hheld, hframes⟩ := List.forall_mem_cons.mp h
    exact List.forall_mem_cons.mpr ⟨List.forall_mem_cons.mpr ⟨hj, hheld⟩, hframes⟩
  · obtain ⟨hheld, hframes⟩ := List.forall_mem_cons.mp h
    exact List.forall_mem_cons.mpr ⟨List.forall_mem_cons.mpr ⟨hj, hheld⟩, hframes⟩

theorem isReduced_closed {j : Json} {frames : List Frame} (hj : j.isReduced)
    (h : ∀ frame ∈ frames, frame.IsReduced) : (closed j frames).IsReduced := by
  refine isReduced_ended ?_ h
  split
  · exact hj
  · rfl

theorem isReduced_ofFields {fields : List (Option String × Json)}
    (h : ∀ f ∈ fields, f.2.isReduced) : (ofFields fields).isReduced := by
  unfold ofFields
  split
  · rename_i named hnamed
    rw [isReduced, areReducedFields_iff]
    induction fields generalizing named with
    | nil =>
      cases hnamed
      exact fun _ h => nomatch h
    | cons f fields ih =>
      obtain ⟨hf, hfields⟩ := List.forall_mem_cons.mp h
      rw [List.mapM_cons] at hnamed
      obtain ⟨f', hf', hnamed⟩ := Option.bind_eq_some_iff.mp hnamed
      obtain ⟨named', hnamed', hcons⟩ := Option.bind_eq_some_iff.mp hnamed
      obtain ⟨name, -, rfl⟩ := Option.map_eq_some_iff.mp hf'
      cases hcons
      exact List.forall_mem_cons.mpr ⟨hf, ih hfields named' hnamed'⟩
  · rfl

/-- One token keeps what has been read in lowest terms. -/
theorem IsReduced.step {p p' : Progress} {t : Token} (hp : p.IsReduced) (ht : t.IsReduced)
    (h : p.step t = some p') : p'.IsReduced := by
  unfold Progress.step at h
  split at h
  · cases h
  split at h <;> cases h
  case h_1 | h_2 => exact isReduced_ended ht hp
  case h_3 | h_4 =>
    rename_i s
    refine isReduced_ended ?_ hp
    cases s <;> rfl
  case h_5 | h_6 | h_7 | h_8 =>
    exact List.forall_mem_cons.mpr ⟨(fun _ h => nomatch h), hp⟩
  case h_9 | h_10 =>
    obtain ⟨hheld, houter⟩ := List.forall_mem_cons.mp hp
    refine isReduced_closed ?_ houter
    rw [isReduced, areReducedItems_iff]
    exact fun x hx => hheld x (List.mem_reverse.mp hx)
  case h_11 | h_12 =>
    obtain ⟨hheld, houter⟩ := List.forall_mem_cons.mp hp
    exact isReduced_closed (isReduced_ofFields fun f hf => hheld f (List.mem_reverse.mp hf)) houter
  case h_13 | h_14 | h_17 => exact hp
  case h_15 | h_16 =>
    obtain ⟨hheld, houter⟩ := List.forall_mem_cons.mp hp
    exact List.forall_mem_cons.mpr ⟨hheld, houter⟩

/-- So does the whole text. -/
theorem IsReduced.run {p : Progress} {tokens : List Token} {j : Json} (hp : p.IsReduced)
    (htokens : ∀ t ∈ tokens, t.IsReduced) (h : p.run tokens = some j) : j.isReduced := by
  induction tokens generalizing p with
  | nil =>
    cases p with
    | complete j' =>
      cases h
      exact hp
    | reading frames next => cases h
  | cons t tokens ih =>
    obtain ⟨ht, hrest⟩ := List.forall_mem_cons.mp htokens
    rw [Progress.run] at h
    obtain ⟨p', hstep, hrun⟩ := Option.bind_eq_some_iff.mp h
    exact ih (hp.step ht hstep) hrest hrun

end Progress

/-- **What a text spells is in lowest terms.** -/
theorem isReduced_of_parse? {s : String} {j : Json} (h : parse? s = some j) : j.isReduced := by
  obtain ⟨tokens, htokens, hrun⟩ := Option.bind_eq_some_iff.mp h
  exact Progress.IsReduced.run (p := .reading [] .value) (fun _ h => nomatch h)
    (isReduced_of_tokens? htokens) hrun

end Json
end Facetry
