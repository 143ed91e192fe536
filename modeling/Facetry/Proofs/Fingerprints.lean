/-
# A fingerprint misses no change

The fingerprint of a class is the digest of its canonical text. Classes with one canonical text
are equal, so whatever changes in a declaration changes the bytes that are digested. The
argument goes from the text to the class: the text is the one of one value only
(`Json.compact_inj`), the fields of that value are those of one class only, a field that is
left out being none that is written, and the written form of a type is that of one type only.

For the last it is enough that the names in a type have none of the marks that stand between
names, which is so for every type that was read. It does not matter whether the written form
can be read again: an array of `List<Order>` is written as no type is spelled, but as no other
type is written either.

Key definitions: `TypeRef.hasNames`, `Class.IsProper`.
Key theorems: `TypeRef.chars_append_inj`, `Class.toJson_inj`, `Class.gives_ofJson`,
`Class.isProper_of_text`, `Class.eq_iff_digested_bytes_eq`.
-/
import Facetry.Proofs.ClassRoundTrip
import Facetry.Proofs.WrittenValues

namespace Facetry

open Text

/-! ### Types -/

namespace TypeRef

/-- An induction on types, with all arguments at once. -/
theorem induction {P : TypeRef → Prop}
    (type : ∀ name args, (∀ t ∈ args, P t) → P ⟨name, args⟩) (t : TypeRef) : P t :=
  @TypeRef.rec P (fun args => ∀ t ∈ args, P t) type (fun _ h => nomatch h)
    (fun _ _ ht hts => List.forall_mem_cons.mpr ⟨ht, hts⟩) t

/-- Whether the character stands between names in the written form of a type. -/
def isMark (c : Char) : Bool := c == '<' || c == ',' || c == '>'

mutual

/-- Whether no name in the type is empty or has a mark. -/
def hasNames : TypeRef → Bool
  | ⟨name, args⟩ => !name.toList.isEmpty && name.toList.all (!isMark ·) && allHaveNames args

/-- Whether no name in one of the types is empty or has a mark. -/
def allHaveNames : List TypeRef → Bool
  | [] => true
  | t :: ts => t.hasNames && allHaveNames ts

end

theorem allHaveNames_iff {ts : List TypeRef} : allHaveNames ts ↔ ∀ t ∈ ts, t.hasNames := by
  induction ts with
  | nil => simp [allHaveNames]
  | cons t ts ih => rw [allHaveNames, Bool.and_eq_true, ih, List.forall_mem_cons]

theorem hasNames_iff {name : String} {args : List TypeRef} :
    hasNames ⟨name, args⟩ ↔
      name.toList ≠ [] ∧ (∀ c ∈ name.toList, ¬ isMark c) ∧ ∀ t ∈ args, t.hasNames := by
  simp [hasNames, allHaveNames_iff, and_assoc]

theorem not_isMark_of_isNameChar {c : Char} (h : isNameChar c) : ¬ isMark c := by
  simp only [isMark, Bool.or_eq_true, beq_iff_eq]
  rintro ((rfl | rfl) | rfl) <;> exact absurd h (by decide +kernel)

theorem name_withSuffixes {name : List Char} (hname : IsName name) (count : Nat) :
    (withSuffixes name count).toList ≠ [] ∧ ∀ c ∈ (withSuffixes name count).toList, ¬ isMark c := by
  rw [toList_withSuffixes]
  refine ⟨by simp [hname.1], List.forall_mem_append.mpr
    ⟨fun c hc => not_isMark_of_isNameChar (hname.2 c hc), fun c hc => ?_⟩⟩
  obtain ⟨suffix, hsuffix, hc⟩ := List.mem_flatten.mp hc
  rw [(List.mem_replicate.mp hsuffix).2] at hc
  have hbrackets : ∀ c ∈ ['[', ']'], ¬ isMark c := by simp [isMark]
  exact hbrackets c hc

mutual

/-- The names of a type that is spelled are names. -/
theorem hasNames_of_spells {cs : List Char} {t : TypeRef} (h : Spells cs t) : t.hasNames := by
  cases h with
  | @plain before name after suffixes count hbefore hname hafter hsuffixes =>
    obtain ⟨hne, hmarks⟩ := name_withSuffixes hname count
    exact hasNames_iff.mpr ⟨hne, hmarks, fun _ h => nomatch h⟩
  | @generic before name after inside blanks suffixes args count hbefore hname hafter hinside
      hblanks hsuffixes =>
    obtain ⟨hne, hmarks⟩ := name_withSuffixes hname count
    exact hasNames_iff.mpr ⟨hne, hmarks, hasNames_of_spellsAll hinside⟩

theorem hasNames_of_spellsAll {cs : List Char} {ts : List TypeRef} (h : SpellsAll cs ts) :
    ∀ t ∈ ts, t.hasNames := by
  cases h with
  | one htype => exact List.forall_mem_singleton.mpr (hasNames_of_spells htype)
  | more htype hblanks hall =>
    exact List.forall_mem_cons.mpr ⟨hasNames_of_spells htype, hasNames_of_spellsAll hall⟩

end

theorem hasNames_of_parse {s : String} {t : TypeRef} (h : parse s = .ok t) : t.hasNames := by
  obtain ⟨type, blanks, -, htype, -⟩ := parseChars_iff_isSpelling.mp (parse_eq_ok_iff.mp h)
  exact hasNames_of_spells htype

theorem charsOfArgs_eq (ts : List TypeRef) :
    charsOfArgs ts = [',', ' '].intercalate (ts.map chars) := by
  induction ts with
  | nil => rfl
  | cons t ts ih =>
    cases ts with
    | nil => rw [charsOfArgs, List.map_singleton, List.intercalate_singleton]
    | cons u ts =>
      rw [charsOfArgs_cons t (List.cons_ne_nil u ts), ih]
      simp only [List.map_cons, List.intercalate_cons_cons, List.append_assoc, List.cons_append,
        List.nil_append]

/-- What follows a type among arguments, or at the end of the text. -/
def Follows (rest : List Char) : Prop := ∀ c ∈ rest.head?, c = ',' ∨ c = '>'

theorem follows_comma (rest : List Char) : Follows (',' :: rest) := fun _ h => by
  cases h
  exact .inl rfl

theorem follows_close (rest : List Char) : Follows ('>' :: rest) := fun _ h => by
  cases h
  exact .inr rfl

/-- A name is told from what begins with a mark. -/
theorem name_append_inj {name name' : String} (hname : ∀ c ∈ name.toList, ¬ isMark c)
    (hname' : ∀ c ∈ name'.toList, ¬ isMark c) {rest rest' : List Char}
    (hrest : ∀ c ∈ rest.head?, isMark c) (hrest' : ∀ c ∈ rest'.head?, isMark c)
    (h : name.toList ++ rest = name'.toList ++ rest') : name = name' ∧ rest = rest' := by
  have hspan : ∀ {name : String} {rest : List Char}, (∀ c ∈ name.toList, ¬ isMark c) →
      (∀ c ∈ rest.head?, isMark c) →
      (name.toList ++ rest).takeWhile (!isMark ·) = name.toList := by
    intro name rest hname hrest
    have hnone : rest.takeWhile (!isMark ·) = [] := by
      cases rest with
      | nil => rfl
      | cons c rest => exact List.takeWhile_cons_of_neg (by simpa using hrest c rfl)
    rw [List.takeWhile_append_of_pos (fun c hc => by simpa using hname c hc), hnone,
      List.append_nil]
  have hnames : name.toList = name'.toList := by
    rw [← hspan hname hrest, h, hspan hname' hrest']
  rw [hnames] at h
  exact ⟨String.toList_inj.mp hnames, List.append_cancel_left h⟩

/-- The arguments of a type with their brackets. -/
def argsChars : List TypeRef → List Char
  | [] => []
  | args => '<' :: charsOfArgs args ++ ['>']

theorem chars_eq (name : String) (args : List TypeRef) :
    chars ⟨name, args⟩ = name.toList ++ argsChars args := by
  cases args with
  | nil => rw [chars_plain, argsChars, List.append_nil]
  | cons t ts =>
    rw [chars_generic name (List.cons_ne_nil t ts), List.append_assoc]
    rfl

theorem isMark_head?_argsChars {args : List TypeRef} {rest : List Char} (hrest : Follows rest) :
    ∀ c ∈ (argsChars args ++ rest).head?, isMark c := by
  cases args with
  | nil =>
    intro c hc
    rcases hrest c hc with rfl | rfl <;> rfl
  | cons t ts =>
    rintro _ ⟨⟩
    rfl

/-- **A type is told from its written form**, whatever follows that does not belong to it. -/
theorem chars_append_inj {a b : TypeRef} (ha : a.hasNames) (hb : b.hasNames)
    {rest rest' : List Char} (hrest : Follows rest) (hrest' : Follows rest')
    (h : a.chars ++ rest = b.chars ++ rest') : a = b ∧ rest = rest' := by
  induction a using TypeRef.induction generalizing b rest rest' with
  | type name args ih =>
    obtain ⟨name', args'⟩ := b
    obtain ⟨-, hname, hargs⟩ := hasNames_iff.mp ha
    obtain ⟨-, hname', hargs'⟩ := hasNames_iff.mp hb
    rw [chars_eq, chars_eq, List.append_assoc, List.append_assoc] at h
    obtain ⟨rfl, hrests⟩ := name_append_inj hname hname' (isMark_head?_argsChars hrest)
      (isMark_head?_argsChars hrest') h
    cases args with
    | nil =>
      cases args' with
      | nil => exact ⟨rfl, hrests⟩
      | cons u us =>
        have hopen : rest.head? = some '<' := congrArg List.head? hrests
        rcases hrest '<' hopen with h | h <;> cases h
    | cons t ts =>
      cases args' with
      | nil =>
        have hopen : rest'.head? = some '<' := congrArg List.head? hrests.symm
        rcases hrest' '<' hopen with h | h <;> cases h
      | cons u us =>
        simp only [argsChars, List.cons_append,
          List.append_assoc, List.nil_append, List.cons.injEq, true_and, charsOfArgs_eq] at hrests
        have hstart : ∀ v ∈ (t :: ts) ++ (u :: us), ∀ rest, (v.chars ++ rest).head? ≠ some '>' := by
          rintro ⟨name, args⟩ hv rest hhead
          have hnames := (List.mem_append.mp hv).elim (hargs _) (hargs' _)
          obtain ⟨hne, hmarks, -⟩ := hasNames_iff.mp hnames
          obtain ⟨c, cs, hname⟩ := List.exists_cons_of_ne_nil hne
          rw [chars_eq, hname] at hhead
          cases hhead
          exact hmarks '>' (hname ▸ List.mem_cons_self) rfl
        obtain ⟨hall, hend⟩ := intercalate_append_inj follows_comma follows_close (by decide)
          (fun v hv w hw _ _ => ih v hv (hargs v hv) (hargs' w hw)) hstart hrests
        exact ⟨congrArg (TypeRef.mk name) hall, hend⟩

/-- **Types with one written form are equal**, if they were read. -/
theorem text_inj {a b : TypeRef} (ha : a.hasNames) (hb : b.hasNames) (h : a.text = b.text) :
    a = b := by
  have hchars : a.chars = b.chars := String.ofList_injective h
  have hend : Follows [] := fun _ h => nomatch h
  refine (chars_append_inj ha hb hend hend ?_).1
  rw [hchars]

/-- The type was read from a text. -/
def IsRead (t : TypeRef) : Prop := ∃ s, parse s = .ok t

theorem IsRead.toJson_inj {a b : TypeRef} (ha : a.IsRead) (hb : b.IsRead)
    (h : a.toJson = b.toJson) : a = b := by
  obtain ⟨s, hs⟩ := ha
  obtain ⟨s', hs'⟩ := hb
  exact text_inj (hasNames_of_parse hs) (hasNames_of_parse hs') (Json.string.inj h)

end TypeRef

/-! ### Canonical forms -/

/-- Lists with one image are equal, if their items with one image are. -/
theorem eq_of_map_eq {α β : Type} {f : α → β} {as bs : List α}
    (hinj : ∀ a ∈ as, ∀ b ∈ bs, f a = f b → a = b) (h : as.map f = bs.map f) : as = bs := by
  induction as generalizing bs with
  | nil => exact (List.map_eq_nil_iff.mp h.symm).symm
  | cons a as ih =>
    cases bs with
    | nil => cases h
    | cons b bs =>
      obtain ⟨hhead, htail⟩ := List.cons.inj h
      rw [hinj a List.mem_cons_self b List.mem_cons_self hhead,
        ih (fun a ha b hb => hinj a (List.mem_cons_of_mem _ ha) b (List.mem_cons_of_mem _ hb)) htail]

/-- What is in a field, or that it is left out, is told from the fields, if no other one of the
name comes next. -/
theorem Json.fieldOf_append_inj {α : Type} {name : String} {f : α → Json} {a b : Option α}
    {rest rest' : List (String × Json)} (hrest : ∀ e ∈ rest.head?, e.1 ≠ name)
    (hrest' : ∀ e ∈ rest'.head?, e.1 ≠ name)
    (h : fieldOf name f a ++ rest = fieldOf name f b ++ rest') :
    a.map f = b.map f ∧ rest = rest' := by
  cases a with
  | none =>
    cases b with
    | none => exact ⟨rfl, h⟩
    | some b => exact absurd rfl (hrest (name, f b) (congrArg List.head? h))
  | some a =>
    cases b with
    | none => exact absurd rfl (hrest' (name, f a) (congrArg List.head? h.symm))
    | some b =>
      obtain ⟨hfield, hrests⟩ := List.cons.inj h
      exact ⟨congrArg some (Prod.mk.inj hfield).2, hrests⟩

/-- The annotation's attributes are values. -/
def Annotation.IsProper (a : Annotation) : Prop := ∀ e ∈ a.attributes.entries, e.2.IsProper

/-- The parameter's type was read, and its annotations have values. -/
structure Parameter.IsProper (p : Parameter) : Prop where
  type : p.type.IsRead
  annotations : ∀ a ∈ p.annotations, a.IsProper

/-- The types that the method names were read, and its annotations have values. -/
structure Method.IsProper (m : Method) : Prop where
  returnType : m.returnType.IsRead
  parameters : ∀ p ∈ m.parameters, p.IsProper
  annotations : ∀ a ∈ m.annotations, a.IsProper

/-- The types that the class names were read, and its annotations have values. -/
structure Class.IsProper (c : Class) : Prop where
  annotations : ∀ a ∈ c.annotations, a.IsProper
  methods : ∀ m ∈ c.methods, m.IsProper
  component : ∀ t ∈ c.component, t.IsRead

theorem Annotation.toJson_inj {a b : Annotation} (h : a.toJson = b.toJson) : a = b := by
  obtain ⟨name, attributes⟩ := a
  obtain ⟨name', attributes'⟩ := b
  simp only [toJson, Json.object.injEq, List.cons.injEq, Prod.mk.injEq, Json.string.injEq,
    true_and] at h
  obtain ⟨rfl, hrest⟩ := h
  have hentries : attributes.entries = attributes'.entries := by
    cases hempty : attributes.isEmpty <;> cases hempty' : attributes'.isEmpty <;>
      simp [hempty, hempty'] at hrest
    · exact hrest
    · rw [List.isEmpty_iff.mp hempty, List.isEmpty_iff.mp hempty']
  rw [NameMap.ext_entries hentries]

theorem Annotation.eq_of_map_toJson_eq {as bs : List Annotation}
    (h : as.map toJson = bs.map toJson) : as = bs :=
  eq_of_map_eq (fun _ _ _ _ => toJson_inj) h

theorem Parameter.toJson_inj {p q : Parameter} (hp : p.IsProper) (hq : q.IsProper)
    (h : p.toJson = q.toJson) : p = q := by
  obtain ⟨type, name, annotations⟩ := p
  obtain ⟨type', name', annotations'⟩ := q
  simp only [toJson, Json.object.injEq, List.cons_append, List.cons.injEq, Prod.mk.injEq,
    true_and] at h
  obtain ⟨htype, hrest⟩ := h
  obtain rfl : type = type' := hp.type.toJson_inj hq.type htype
  obtain ⟨hname, hannotations⟩ := Json.fieldOf_append_inj (by simp) (by simp) hrest
  obtain rfl : name = name' := Option.map_injective (fun _ _ => Json.string.inj) hname
  simp only [List.cons.injEq, Prod.mk.injEq, Json.array.injEq, true_and, and_true] at hannotations
  obtain rfl : annotations = annotations' := Annotation.eq_of_map_toJson_eq hannotations
  rfl

theorem Method.toJson_inj {m n : Method} (hm : m.IsProper) (hn : n.IsProper)
    (h : m.toJson = n.toJson) : m = n := by
  obtain ⟨name, returnType, parameters, annotations, isStatic, isPublic⟩ := m
  obtain ⟨name', returnType', parameters', annotations', isStatic', isPublic'⟩ := n
  simp only [toJson, Json.object.injEq, List.cons.injEq, Prod.mk.injEq, Json.string.injEq,
    Json.array.injEq, Json.bool.injEq, true_and, and_true] at h
  obtain ⟨rfl, htype, hparameters, hannotations, rfl, rfl⟩ := h
  obtain rfl : returnType = returnType' := hm.returnType.toJson_inj hn.returnType htype
  obtain rfl : parameters = parameters' := eq_of_map_eq (fun p hp q hq =>
    Parameter.toJson_inj (hm.parameters p hp) (hn.parameters q hq)) hparameters
  obtain rfl : annotations = annotations' := Annotation.eq_of_map_toJson_eq hannotations
  rfl

theorem Class.Kind.name_inj {a b : Class.Kind} (h : a.name = b.name) : a = b := by
  cases a <;> cases b <;> first | rfl | exact absurd h (by decide)

/-- **Classes with one canonical form are equal.** -/
theorem Class.toJson_inj {c d : Class} (hc : c.IsProper) (hd : d.IsProper)
    (h : c.toJson = d.toJson) : c = d := by
  obtain ⟨name, kind, superclass, interfaces, annotations, methods, component⟩ := c
  obtain ⟨name', kind', superclass', interfaces', annotations', methods', component'⟩ := d
  simp only [toJson, Json.object.injEq, List.cons_append, List.nil_append, List.append_assoc,
    List.cons.injEq, Prod.mk.injEq, Json.string.injEq, true_and] at h
  obtain ⟨rfl, hkind, hrest⟩ := h
  obtain rfl : kind = kind' := Kind.name_inj hkind
  obtain ⟨hsuperclass, hlists⟩ := Json.fieldOf_append_inj (by simp) (by simp) hrest
  obtain rfl : superclass = superclass' :=
    Option.map_injective (fun _ _ => Json.string.inj) hsuperclass
  simp only [List.cons.injEq, Prod.mk.injEq, Json.ofStrings, Json.array.injEq, true_and] at hlists
  obtain ⟨hinterfaces, hannotations, hmethods, hfield⟩ := hlists
  obtain rfl : interfaces = interfaces' := eq_of_map_eq (fun _ _ _ _ => Json.string.inj) hinterfaces
  obtain rfl : annotations = annotations' := Annotation.eq_of_map_toJson_eq hannotations
  obtain rfl : methods = methods' := eq_of_map_eq (fun m hm n hn =>
    Method.toJson_inj (hc.methods m hm) (hd.methods n hn)) hmethods
  rw [← List.append_nil (Json.fieldOf _ _ component),
    ← List.append_nil (Json.fieldOf _ _ component')] at hfield
  obtain ⟨hcomponent, -⟩ := Json.fieldOf_append_inj (by simp) (by simp) hfield
  cases component with
  | none =>
    cases component' with
    | none => rfl
    | some t' => cases hcomponent
  | some t =>
    cases component' with
    | none => cases hcomponent
    | some t' =>
      rw [(hc.component t rfl).toJson_inj (hd.component t' rfl) (Option.some.inj hcomponent)]

/-! ### Canonical forms are values -/

namespace Json

theorem isProper_string (s : String) : (string s).IsProper := ⟨rfl, rfl⟩

theorem isProper_bool (b : Bool) : (bool b).IsProper := ⟨rfl, rfl⟩

theorem isProper_map {α : Type} {f : α → Json} {as : List α} (h : ∀ a ∈ as, (f a).IsProper) :
    (array (as.map f)).IsProper :=
  isProper_array_iff.mpr (List.forall_mem_map.mpr h)

theorem isProper_of_mem_fieldOf {α : Type} {name : String} {f : α → Json} {a : Option α}
    (h : ∀ b ∈ a, (f b).IsProper) : ∀ e ∈ fieldOf name f a, e.2.IsProper := by
  cases a with
  | none => exact fun _ h => nomatch h
  | some a => exact List.forall_mem_singleton.mpr (h a rfl)

end Json

open Json (isProper_string isProper_bool isProper_map isProper_of_mem_fieldOf)

theorem Annotation.IsProper.toJson {a : Annotation} (h : a.IsProper) : a.toJson.IsProper := by
  unfold Annotation.toJson
  rw [Json.isProper_object_iff, List.forall_mem_cons]
  refine ⟨isProper_string _, ?_⟩
  split
  · exact fun _ h => nomatch h
  · exact List.forall_mem_singleton.mpr (Json.isProper_object_iff.mpr h)

theorem Parameter.IsProper.toJson {p : Parameter} (h : p.IsProper) : p.toJson.IsProper := by
  rw [Parameter.toJson, Json.isProper_object_iff, List.cons_append, List.forall_mem_cons,
    List.forall_mem_append, List.forall_mem_singleton]
  exact ⟨isProper_string _, isProper_of_mem_fieldOf fun _ _ => isProper_string _,
    isProper_map fun a ha => (h.annotations a ha).toJson⟩

theorem Method.IsProper.toJson {m : Method} (h : m.IsProper) : m.toJson.IsProper := by
  rw [Method.toJson, Json.isProper_object_iff]
  simp only [List.forall_mem_cons]
  exact ⟨isProper_string _, isProper_string _,
    isProper_map fun p hp => (h.parameters p hp).toJson,
    isProper_map fun a ha => (h.annotations a ha).toJson, isProper_bool _, isProper_bool _,
    fun _ h => nomatch h⟩

theorem Class.IsProper.toJson {c : Class} (h : c.IsProper) : c.toJson.IsProper := by
  rw [Class.toJson, Json.isProper_object_iff]
  simp only [List.forall_mem_append, List.forall_mem_cons]
  exact ⟨⟨⟨⟨isProper_string _, isProper_string _, fun _ h => nomatch h⟩,
    isProper_of_mem_fieldOf fun _ _ => isProper_string _⟩,
    isProper_map fun _ _ => isProper_string _,
    isProper_map fun a ha => (h.annotations a ha).toJson,
    isProper_map fun m hm => (h.methods m hm).toJson, fun _ h => nomatch h⟩,
    isProper_of_mem_fieldOf fun _ _ => isProper_string _⟩

/-! ### Classes that are read -/

namespace Json

/-- What the reader gives of a value with decimals in lowest terms is like that. -/
def Gives {α : Type} (read : Reader α) (P : α → Prop) : Prop :=
  ∀ {j : Json} {a : α}, j.isReduced → read j = .ok a → P a

/-- The record has values with decimals in lowest terms. -/
def Record.IsReduced (r : Record) : Prop := ∀ f ∈ r, f.2.isReduced

variable {α : Type} {read : Reader α} {P : α → Prop}

theorem isReduced_record {names : List String} {j : Json} {r : Record} (hj : j.isReduced)
    (h : record names j = .ok r) : r.IsReduced := by
  unfold record at h
  split at h
  · rw [isReduced, areReducedFields_iff] at hj
    dsimp only at h
    split at h <;> cases h
    exact fun f hf => hj f (List.mem_filter.mp hf).1
  · rw [isReduced, areReducedItems_iff] at hj
    split at h <;> cases h
    exact fun f hf => hj f.2 (List.of_mem_zip hf).2
  · cases h

theorem Record.IsReduced.of_lookup {r : Record} (hr : r.IsReduced) {name : String} {j : Json}
    (h : r.lookup name = some j) : j.isReduced := by
  obtain ⟨before, after, rfl, -⟩ := List.lookup_eq_some_iff.mp h
  exact hr (name, j) (by simp)

theorem Record.IsReduced.required {r : Record} (hr : r.IsReduced) (hread : Gives read P)
    {name : String} {a : α} (h : r.required name read = .ok a) : P a := by
  unfold Record.required at h
  split at h
  · exact hread (hr.of_lookup ‹_›) h
  · cases h

theorem Record.IsReduced.withDefault {r : Record} (hr : r.IsReduced) (hread : Gives read P)
    {name : String} {default a : α} (hdefault : P default)
    (h : r.withDefault name read default = .ok a) : P a := by
  unfold Record.withDefault at h
  split at h
  · exact hread (hr.of_lookup ‹_›) h
  · cases h
    exact hdefault

theorem Gives.list (hread : Gives read P) : Gives (readList read) fun as => ∀ a ∈ as, P a := by
  intro j as hj h
  unfold readList at h
  split at h
  · rw [isReduced, areReducedItems_iff] at hj
    intro a ha
    obtain ⟨item, hitem, hok⟩ := exists_of_mem_mapM h a ha
    exact hread (hj item hitem) hok
  · cases h

theorem Gives.option (hread : Gives read P) : Gives (readOption read) fun o => ∀ a ∈ o, P a := by
  intro j o hj h
  unfold readOption at h
  split at h
  · cases h
    exact fun _ h => nomatch h
  · cases hvalue : read j <;> rw [hvalue] at h <;> cases h
    rintro _ ⟨⟩
    exact hread hj hvalue

theorem Gives.map (hread : Gives read P) : Gives (readMap read) fun m => ∀ e ∈ m.entries, P e.2 := by
  intro j m hj h
  unfold readMap at h
  split at h
  · rename_i fields
    rw [isReduced, areReducedFields_iff] at hj
    cases hfields : fields.mapM fun e => (read e.2).map (e.1, ·) <;> rw [hfields] at h <;> cases h
    intro e he
    obtain ⟨field, hfield, hok⟩ := exists_of_mem_mapM hfields e (NameMap.mem_of_mem_ofList he)
    cases hvalue : read field.2 <;> rw [hvalue] at hok <;> cases hok
    exact hread (hj field hfield) hvalue
  · cases h

theorem gives_any : Gives readAny IsProper := isProper_of_readAny

theorem gives_type : Gives readType TypeRef.IsRead := fun _ h => TypeRef.exists_of_readType h

end Json

open Json (exists_of_bind_eq_ok)

theorem Annotation.gives_ofJson : Json.Gives ofJson IsProper := by
  intro j a hj h
  obtain ⟨r, hr, h⟩ := exists_of_bind_eq_ok h
  have hr := Json.isReduced_record hj hr
  obtain ⟨name, -, h⟩ := exists_of_bind_eq_ok h
  obtain ⟨attributes, hattributes, h⟩ := exists_of_bind_eq_ok h
  cases h
  exact hr.withDefault Json.gives_any.map (by simp [NameMap.empty]) hattributes

theorem Parameter.gives_ofJson : Json.Gives ofJson IsProper := by
  intro j p hj h
  obtain ⟨r, hr, h⟩ := exists_of_bind_eq_ok h
  have hr := Json.isReduced_record hj hr
  obtain ⟨type, htype, h⟩ := exists_of_bind_eq_ok h
  obtain ⟨name, -, h⟩ := exists_of_bind_eq_ok h
  obtain ⟨annotations, hannotations, h⟩ := exists_of_bind_eq_ok h
  cases h
  exact ⟨hr.required Json.gives_type htype,
    hr.withDefault Annotation.gives_ofJson.list (by simp) hannotations⟩

theorem Method.gives_ofJson : Json.Gives ofJson IsProper := by
  intro j m hj h
  obtain ⟨r, hr, h⟩ := exists_of_bind_eq_ok h
  have hr := Json.isReduced_record hj hr
  obtain ⟨name, -, h⟩ := exists_of_bind_eq_ok h
  obtain ⟨returnType, hreturnType, h⟩ := exists_of_bind_eq_ok h
  obtain ⟨parameters, hparameters, h⟩ := exists_of_bind_eq_ok h
  obtain ⟨annotations, hannotations, h⟩ := exists_of_bind_eq_ok h
  obtain ⟨isStatic, -, h⟩ := exists_of_bind_eq_ok h
  obtain ⟨isPublic, -, h⟩ := exists_of_bind_eq_ok h
  cases h
  exact ⟨hr.withDefault Json.gives_type ⟨"void", TypeRef.parse_void⟩ hreturnType,
    hr.withDefault Parameter.gives_ofJson.list (by simp) hparameters,
    hr.withDefault Annotation.gives_ofJson.list (by simp) hannotations⟩

/-- **A class that is read names types that were read, and has annotations with values.** -/
theorem Class.gives_ofJson : Json.Gives ofJson IsProper := by
  intro j c hj h
  obtain ⟨r, hr, h⟩ := exists_of_bind_eq_ok h
  have hr := Json.isReduced_record hj hr
  obtain ⟨name, -, h⟩ := exists_of_bind_eq_ok h
  obtain ⟨kind, -, h⟩ := exists_of_bind_eq_ok h
  obtain ⟨superclass, -, h⟩ := exists_of_bind_eq_ok h
  obtain ⟨interfaces, -, h⟩ := exists_of_bind_eq_ok h
  obtain ⟨annotations, hannotations, h⟩ := exists_of_bind_eq_ok h
  obtain ⟨methods, hmethods, h⟩ := exists_of_bind_eq_ok h
  obtain ⟨component, hcomponent, h⟩ := exists_of_bind_eq_ok h
  cases h
  exact ⟨hr.withDefault Annotation.gives_ofJson.list (by simp) hannotations,
    hr.withDefault Method.gives_ofJson.list (by simp) hmethods,
    hr.withDefault Json.gives_type.option (by simp) hcomponent⟩

theorem Class.isProper_of_text {text : String} {j : Json} {c : Class}
    (hj : Json.parse? text = some j) (h : ofJson j = .ok c) : c.IsProper :=
  gives_ofJson (Json.isReduced_of_parse? hj) h

/-! ### Bytes -/

theorem toList_eq_data (bytes : ByteArray) : bytes.toList = bytes.data.toList := by
  have hloop : ∀ (left i : Nat) (done : List UInt8), bytes.size - i = left →
      ByteArray.toList.loop bytes i done = done.reverse ++ bytes.data.toList.drop i := by
    intro left
    induction left with
    | zero =>
      intro i done hleft
      rw [ByteArray.toList.loop.eq_def, if_neg (by omega), List.drop_eq_nil_of_le, List.append_nil]
      have hsize : bytes.data.toList.length = bytes.size := Array.length_toList
      omega
    | succ left ih =>
      intro i done hleft
      have hi : i < bytes.size := by omega
      have hi' : i < bytes.data.toList.length := Array.length_toList.symm ▸ hi
      have hget : bytes.get! i = bytes.data.toList[i] := by
        show bytes.data[i]! = _
        rw [getElem!_pos bytes.data i hi, Array.getElem_toList]
      rw [ByteArray.toList.loop.eq_def, if_pos hi, ih (i + 1) _ (by omega), hget,
        List.drop_eq_getElem_cons hi', List.reverse_cons, List.append_assoc, List.singleton_append]
  exact hloop _ 0 [] rfl

/-- Texts with the same bytes are equal. -/
theorem eq_of_toUTF8_eq {s t : String} (h : s.toUTF8.toList = t.toUTF8.toList) : s = t := by
  rw [toList_eq_data, toList_eq_data] at h
  have hdata : s.toUTF8.data = t.toUTF8.data := Array.toList_inj.mp h
  exact String.toByteArray_inj.mp (ByteArray.ext hdata)

namespace Class

/-- **A fingerprint misses no change.** It is the digest of the bytes of the canonical text, and two
classes have the same such bytes only if they are equal. So any difference between two
declarations changes what is digested: in names, kinds, annotations and the values nested in them,
methods, parameters, or in the arguments and arrays of a type. -/
theorem eq_iff_digested_bytes_eq {c d : Class} (hc : c.IsProper) (hd : d.IsProper) :
    c.fingerprint = Digest.hex c.canonicalText.toUTF8.toList ∧
      (c.canonicalText.toUTF8.toList = d.canonicalText.toUTF8.toList ↔ c = d) := by
  refine ⟨rfl, fun h => ?_, fun h => by rw [h]⟩
  have htext : c.toJson.compact = d.toJson.compact := eq_of_toUTF8_eq h
  exact toJson_inj hc hd (Json.compact_inj hc.toJson hd.toJson htext)

open TypeRef (IsName Blank Spells Suffixes isName_of_all spells_name parse_of_spells)

/-- A method that returns an array of lists is told from one that returns a list of arrays. -/
theorem digested_bytes_of_arrays_differ :
    (classReturning ⟨"List[]", [⟨"Order", []⟩]⟩).IsProper ∧
      (classReturning ⟨"List", [⟨"Order[]", []⟩]⟩).IsProper ∧
      (classReturning ⟨"List[]", [⟨"Order", []⟩]⟩).canonicalText.toUTF8.toList ≠
        (classReturning ⟨"List", [⟨"Order[]", []⟩]⟩).canonicalText.toUTF8.toList := by
  have hlist : IsName "List".toList := isName_of_all (by decide) (by decide +kernel)
  have horder : IsName "Order".toList := isName_of_all (by decide) (by decide +kernel)
  have harray : TypeRef.parse "List<Order>[]" = .ok ⟨"List[]", [⟨"Order", []⟩]⟩ :=
    parse_of_spells (Spells.generic .nil hlist .nil (.one (spells_name horder)) .nil
      (.more .nil .none) :)
  have hargument : TypeRef.parse "List<Order[]>" = .ok ⟨"List", [⟨"Order[]", []⟩]⟩ :=
    parse_of_spells (Spells.generic .nil hlist .nil
      (.one (Spells.plain .nil horder .nil (.more .nil .none))) .nil .none :)
  have hc : (classReturning ⟨"List[]", [⟨"Order", []⟩]⟩).IsProper :=
    gives_ofJson (by rfl) (ofJson_classWritten harray)
  have hd : (classReturning ⟨"List", [⟨"Order[]", []⟩]⟩).IsProper :=
    gives_ofJson (by rfl) (ofJson_classWritten hargument)
  refine ⟨hc, hd, fun hbytes => ?_⟩
  have hequal := (eq_iff_digested_bytes_eq hc hd).2.mp hbytes
  exact absurd hequal (by decide +kernel)

end Class
end Facetry
