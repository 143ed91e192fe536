/-
# A class is read again from its canonical form

Every part of a class that was read is read again from the canonical form of the class, but
for one: a type with an array that has arguments (`TypeRef.parse_text_error`). A class that
names no such type is recovered as it was; the canonical form of any other class is refused,
for such a type.

The argument follows the reader. For a value that was read from any text, `Recovers` says
what reading its canonical form gives, and it is carried from the parts to the whole: through
lists, and through the fields of records.

Key definitions: `Json.Recovers`, `Class.plainArrays`.
Key theorems: `Method.recovers`, `Class.recovers`.
-/
import Facetry.Class.Json
import Facetry.Proofs.CanonicalJson
import Facetry.Proofs.TypeRoundTrip

namespace Facetry

namespace Json

/-! ### What was read -/

section Inversion

variable {α β : Type}

theorem exists_of_bind_eq_ok {x : Except ReadError α} {f : α → Except ReadError β} {b : β}
    (h : (x >>= f) = .ok b) : ∃ a, x = .ok a ∧ f a = .ok b := by
  cases x with
  | error e => cases h
  | ok a => exact ⟨a, rfl, h⟩

/-- The items of a list are read one by one. -/
theorem exists_of_mem_mapM {f : α → Except ReadError β} {as : List α} {bs : List β}
    (h : as.mapM f = .ok bs) : ∀ b ∈ bs, ∃ a ∈ as, f a = .ok b := by
  induction as generalizing bs with
  | nil =>
    cases h
    exact fun _ h => nomatch h
  | cons a as ih =>
    rw [List.mapM_cons] at h
    obtain ⟨b, hb, h⟩ := exists_of_bind_eq_ok h
    obtain ⟨bs', hbs, h⟩ := exists_of_bind_eq_ok h
    cases h
    rw [List.forall_mem_cons]
    refine ⟨⟨a, List.mem_cons_self, hb⟩, fun b' hb' => ?_⟩
    obtain ⟨a', ha', hread⟩ := ih hbs b' hb'
    exact ⟨a', List.mem_cons_of_mem _ ha', hread⟩

theorem exists_of_readList {read : Reader α} {j : Json} {as : List α}
    (h : readList read j = .ok as) : ∀ a ∈ as, ∃ j, read j = .ok a := by
  unfold readList at h
  split at h
  · intro a ha
    obtain ⟨j, -, hj⟩ := exists_of_mem_mapM h a ha
    exact ⟨j, hj⟩
  · cases h

theorem exists_of_readOption {read : Reader α} {j : Json} {a : Option α}
    (h : readOption read j = .ok a) : ∀ b ∈ a, ∃ j, read j = .ok b := by
  unfold readOption at h
  split at h
  · cases h
    exact fun _ h => nomatch h
  · cases hread : read j with
    | error e =>
      rw [hread] at h
      cases h
    | ok b =>
      rw [hread] at h
      cases h
      rintro _ ⟨⟩
      exact ⟨j, hread⟩

theorem Record.exists_of_required {r : Record} {name : String} {read : Reader α} {a : α}
    (h : r.required name read = .ok a) : ∃ j, read j = .ok a := by
  unfold Record.required at h
  split at h
  · exact ⟨_, h⟩
  · cases h

theorem Record.exists_of_withDefault {r : Record} {name : String} {read : Reader α}
    {default a : α} (h : r.withDefault name read default = .ok a) :
    a = default ∨ ∃ j, read j = .ok a := by
  unfold Record.withDefault at h
  split at h
  · exact .inr ⟨_, h⟩
  · cases h
    exact .inl rfl

/-- What is left out is an empty list. -/
theorem Record.exists_of_withDefault_readList {r : Record} {name : String} {read : Reader α}
    {as : List α} (h : r.withDefault name (readList read) [] = .ok as) :
    ∀ a ∈ as, ∃ j, read j = .ok a := by
  rcases exists_of_withDefault h with rfl | ⟨j, hj⟩
  · exact fun _ h => nomatch h
  · exact exists_of_readList hj

end Inversion

/-! ### What is read again -/

/-- A reading recovers the value if its types are plain, and refuses a type if they are not. -/
def Recovers {α : Type} (reading : Except ReadError α) (a : α) (plain : Bool) : Prop :=
  if plain then reading = .ok a else ∃ e, reading = .error (.type e)

namespace Recovers

variable {α β : Type}

theorem ok (a : α) : Recovers (.ok a) a true := rfl

theorem bind {x : Except ReadError α} {a : α} {plain : Bool} {f : α → Except ReadError β} {b : β}
    {plain' : Bool} (hx : Recovers x a plain) (hf : Recovers (f a) b plain') :
    Recovers (x >>= f) b (plain && plain') := by
  cases plain with
  | true =>
    obtain rfl : x = .ok a := hx
    exact hf
  | false =>
    obtain ⟨e, rfl⟩ : ∃ e, x = .error (.type e) := hx
    exact ⟨e, rfl⟩

theorem map {x : Except ReadError α} {a : α} {plain : Bool} (f : α → β)
    (hx : Recovers x a plain) : Recovers (x.map f) (f a) plain := by
  cases plain with
  | true =>
    obtain rfl : x = .ok a := hx
    rfl
  | false =>
    obtain ⟨e, rfl⟩ : ∃ e, x = .error (.type e) := hx
    exact ⟨e, rfl⟩

/-- A list is recovered if its items are. -/
theorem readList {read : Reader α} {write : α → Json} {plain : α → Bool} {as : List α}
    (h : ∀ a ∈ as, Recovers (read (write a)) a (plain a)) :
    Recovers (Json.readList read (.array (as.map write))) as (as.all plain) := by
  rw [Json.readList]
  induction as with
  | nil => exact ok []
  | cons a as ih =>
    obtain ⟨ha, has⟩ := List.forall_mem_cons.mp h
    rw [List.map_cons, List.mapM_cons, List.all_cons]
    have hrest : Recovers (List.mapM read (as.map write) >>= fun as => pure (a :: as)) (a :: as)
        (as.all plain && true) := (ih has).bind (ok (a :: as))
    rw [Bool.and_true] at hrest
    exact ha.bind hrest

/-- A list of values that are all recovered is recovered. -/
theorem readList_of_ok {read : Reader α} {write : α → Json} {as : List α}
    (h : ∀ a ∈ as, read (write a) = .ok a) :
    Json.readList read (.array (as.map write)) = .ok as := by
  have hlist : Recovers (Json.readList read (.array (as.map write))) as (as.all fun _ => true) :=
    readList h
  rwa [List.all_eq_true.mpr fun _ _ => rfl] at hlist

end Recovers

end Json

open Json (Reader Recovers)

/-! ### Types, annotations and parameters -/

/-- A type that was read is recovered if its arrays are plain. -/
theorem TypeRef.recovers {s : String} {t : TypeRef} (h : TypeRef.parse s = .ok t) :
    Recovers (Json.readType t.toJson) t t.plainArrays := by
  rw [toJson, Json.readType]
  cases hplain : t.plainArrays with
  | true =>
    rw [parse_text h hplain]
    rfl
  | false =>
    obtain ⟨e, he⟩ := parse_text_error h hplain
    rw [he]
    exact ⟨e, rfl⟩

/-- What is read as a type is spelled by a text. -/
theorem TypeRef.exists_of_readType {j : Json} {t : TypeRef} (h : Json.readType j = .ok t) :
    ∃ s, TypeRef.parse s = .ok t := by
  unfold Json.readType at h
  split at h
  · rename_i s
    refine ⟨s, ?_⟩
    cases hparse : TypeRef.parse s <;> rw [hparse] at h <;> cases h
    rfl
  · cases h

/-- Also the type of methods that return nothing is spelled by a text. -/
theorem TypeRef.parse_void : TypeRef.parse "void" = .ok .void :=
  parse_of_spells (spells_name (isName_of_all (by decide) (by decide +kernel)))

/-- The entries of a map are read as the map, if each value is read as it is. -/
theorem Json.readMap_entries {read : Reader Json} {m : NameMap Json}
    (h : ∀ e ∈ m.entries, read e.2 = .ok e.2) : readMap read (.object m.entries) = .ok m := by
  have hmapM : ∀ entries : List (String × Json), (∀ e ∈ entries, read e.2 = .ok e.2) →
      entries.mapM (fun e => (read e.2).map (e.1, ·)) = .ok entries := by
    intro entries hall
    induction entries with
    | nil => rfl
    | cons e entries ih =>
      obtain ⟨he, hrest⟩ := List.forall_mem_cons.mp hall
      rw [List.mapM_cons, he, ih hrest]
      rfl
  rw [readMap, hmapM _ h, Except.map, NameMap.ofList_entries]

/-- The values of a map that was read were read. -/
theorem Json.exists_of_readMap {α : Type} {read : Reader α} {j : Json} {m : NameMap α}
    (h : readMap read j = .ok m) : ∀ e ∈ m.entries, ∃ j, read j = .ok e.2 := by
  unfold readMap at h
  split at h
  · rename_i fields
    cases hfields : fields.mapM fun e => (read e.2).map (e.1, ·) with
    | error e =>
      rw [hfields] at h
      cases h
    | ok entries =>
      rw [hfields] at h
      cases h
      intro e he
      obtain ⟨field, -, hfield⟩ := exists_of_mem_mapM hfields e (NameMap.mem_of_mem_ofList he)
      cases hread : read field.2 with
      | error e =>
        rw [hread] at hfield
        cases hfield
      | ok value =>
        rw [hread] at hfield
        cases hfield
        exact ⟨field.2, hread⟩
  · cases h

/-- **An annotation that was read is recovered.** -/
theorem Annotation.ofJson_toJson {j : Json} {a : Annotation} (h : ofJson j = .ok a) :
    ofJson a.toJson = .ok a := by
  obtain ⟨r, -, h⟩ := Json.exists_of_bind_eq_ok h
  obtain ⟨name, -, h⟩ := Json.exists_of_bind_eq_ok h
  obtain ⟨attributes, hattributes, h⟩ := Json.exists_of_bind_eq_ok h
  cases h
  have hvalues : ∀ e ∈ attributes.entries, Json.readAny e.2 = .ok e.2 := by
    rcases Json.Record.exists_of_withDefault hattributes with rfl | ⟨j, hj⟩
    · exact fun _ h => nomatch h
    · intro e he
      obtain ⟨j, hj⟩ := Json.exists_of_readMap hj e he
      exact Json.readAny_of_readAny hj
  have hread := Json.readMap_entries hvalues
  cases hempty : attributes.isEmpty with
  | true =>
    have : attributes = .empty := NameMap.ext_entries (List.isEmpty_iff.mp hempty)
    subst this
    rfl
  | false =>
    have hwritten : ofJson (toJson ⟨name, attributes⟩) =
        (Json.readMap Json.readAny (.object attributes.entries)).map (⟨name, ·⟩) := by
      rw [ofJson, toJson, hempty]
      rfl
    rw [hwritten, hread]
    rfl

theorem Annotation.readList_ofJson {as : List Annotation} (h : ∀ a ∈ as, ∃ j, ofJson j = .ok a) :
    Json.readList ofJson (.array (as.map toJson)) = .ok as :=
  Recovers.readList_of_ok fun a ha => (h a ha).elim fun _ => ofJson_toJson

/-! ### Parameters, methods and classes -/

/-- Whether no array in the type of the parameter has arguments. -/
def Parameter.plainArrays (p : Parameter) : Bool := p.type.plainArrays

/-- Whether no array in the types of the method has arguments. -/
def Method.plainArrays (m : Method) : Bool :=
  m.returnType.plainArrays && m.parameters.all Parameter.plainArrays

/-- Whether no array in the types that the class names has arguments. -/
def Class.plainArrays (c : Class) : Bool :=
  c.methods.all Method.plainArrays && c.component.all TypeRef.plainArrays

/-- The reader of a parameter goes through what the canonical form has of it. -/
theorem Parameter.ofJson_toJson (p : Parameter) :
    ofJson p.toJson = do
      let type ← Json.readType p.type.toJson
      let annotations ←
        Json.readList Annotation.ofJson (.array (p.annotations.map Annotation.toJson))
      return ⟨type, p.name, annotations⟩ := by
  obtain ⟨type, name, annotations⟩ := p
  cases name <;> rfl

/-- A parameter that was read is recovered if its arrays are plain. -/
theorem Parameter.recovers {j : Json} {p : Parameter} (h : ofJson j = .ok p) :
    Recovers (ofJson p.toJson) p p.plainArrays := by
  obtain ⟨r, -, h⟩ := Json.exists_of_bind_eq_ok h
  obtain ⟨type, htype, h⟩ := Json.exists_of_bind_eq_ok h
  obtain ⟨name, -, h⟩ := Json.exists_of_bind_eq_ok h
  obtain ⟨annotations, hannotations, h⟩ := Json.exists_of_bind_eq_ok h
  cases h
  obtain ⟨j, hj⟩ := Json.Record.exists_of_required htype
  obtain ⟨s, hs⟩ := TypeRef.exists_of_readType hj
  have hannotations := Json.Record.exists_of_withDefault_readList hannotations
  rw [ofJson_toJson, Annotation.readList_ofJson hannotations, plainArrays,
    ← Bool.and_true type.plainArrays]
  exact (TypeRef.recovers hs).bind (.ok _)

/-- The reader of a method goes through what the canonical form has of it. -/
theorem Method.ofJson_toJson (m : Method) :
    ofJson m.toJson = do
      let returnType ← Json.readType m.returnType.toJson
      let parameters ←
        Json.readList Parameter.ofJson (.array (m.parameters.map Parameter.toJson))
      let annotations ←
        Json.readList Annotation.ofJson (.array (m.annotations.map Annotation.toJson))
      return ⟨m.name, returnType, parameters, annotations, m.isStatic, m.isPublic⟩ := by
  rfl

/-- A method that was read is recovered if its arrays are plain. -/
theorem Method.recovers {j : Json} {m : Method} (h : ofJson j = .ok m) :
    Recovers (ofJson m.toJson) m m.plainArrays := by
  obtain ⟨r, -, h⟩ := Json.exists_of_bind_eq_ok h
  obtain ⟨name, -, h⟩ := Json.exists_of_bind_eq_ok h
  obtain ⟨returnType, hreturnType, h⟩ := Json.exists_of_bind_eq_ok h
  obtain ⟨parameters, hparameters, h⟩ := Json.exists_of_bind_eq_ok h
  obtain ⟨annotations, hannotations, h⟩ := Json.exists_of_bind_eq_ok h
  obtain ⟨isStatic, -, h⟩ := Json.exists_of_bind_eq_ok h
  obtain ⟨isPublic, -, h⟩ := Json.exists_of_bind_eq_ok h
  cases h
  have htype : ∃ s, TypeRef.parse s = .ok returnType := by
    rcases Json.Record.exists_of_withDefault hreturnType with rfl | ⟨j, hj⟩
    · exact ⟨"void", TypeRef.parse_void⟩
    · exact TypeRef.exists_of_readType hj
  obtain ⟨s, hs⟩ := htype
  have hannotations := Json.Record.exists_of_withDefault_readList hannotations
  have hparameters : Recovers _ parameters (parameters.all Parameter.plainArrays) :=
    Recovers.readList fun p hp =>
      (Json.Record.exists_of_withDefault_readList hparameters p hp).elim fun _ => Parameter.recovers
  rw [ofJson_toJson, Annotation.readList_ofJson hannotations, plainArrays]
  dsimp only
  rw [← Bool.and_true (parameters.all _)]
  exact (TypeRef.recovers hs).bind (hparameters.bind (.ok _))

/-- The name of a kind is read as the kind. -/
theorem Class.Kind.readVariant_name (kind : Class.Kind) :
    Json.readVariant choices (.string kind.name) = .ok kind := by
  have hlookup : choices.lookup (Variant.normalize kind.name) = some kind := by
    cases kind <;> decide +kernel
  rw [Json.readVariant, Variant.read, hlookup]
  rfl

/-- The reader of a class goes through what the canonical form has of it. -/
theorem Class.ofJson_toJson (c : Class) :
    ofJson c.toJson = do
      let kind ← Json.readVariant Kind.choices (.string c.kind.name)
      let interfaces ← Json.readList Json.readString (.ofStrings c.interfaces)
      let annotations ←
        Json.readList Annotation.ofJson (.array (c.annotations.map Annotation.toJson))
      let methods ←
        Json.readList Method.ofJson (.array (c.methods.map Method.toJson))
      let component ← Json.readOption Json.readType (Json.ofOption TypeRef.toJson c.component)
      return ⟨c.name, kind, c.superclass, interfaces, annotations, methods, component⟩ := by
  obtain ⟨name, kind, superclass, interfaces, annotations, methods, component⟩ := c
  cases superclass <;> cases component <;> rfl

/-- **A class that was read is recovered if its arrays are plain.** -/
theorem Class.recovers {j : Json} {c : Class} (h : ofJson j = .ok c) :
    Recovers (ofJson c.toJson) c c.plainArrays := by
  obtain ⟨r, -, h⟩ := Json.exists_of_bind_eq_ok h
  obtain ⟨name, -, h⟩ := Json.exists_of_bind_eq_ok h
  obtain ⟨kind, -, h⟩ := Json.exists_of_bind_eq_ok h
  obtain ⟨superclass, -, h⟩ := Json.exists_of_bind_eq_ok h
  obtain ⟨interfaces, -, h⟩ := Json.exists_of_bind_eq_ok h
  obtain ⟨annotations, hannotations, h⟩ := Json.exists_of_bind_eq_ok h
  obtain ⟨methods, hmethods, h⟩ := Json.exists_of_bind_eq_ok h
  obtain ⟨component, hcomponent, h⟩ := Json.exists_of_bind_eq_ok h
  cases h
  have hinterfaces : Json.readList Json.readString (.ofStrings interfaces) = .ok interfaces :=
    Recovers.readList_of_ok fun _ _ => rfl
  have hannotations := Json.Record.exists_of_withDefault_readList hannotations
  have hmethods : Recovers _ methods (methods.all Method.plainArrays) :=
    Recovers.readList fun m hm =>
      (Json.Record.exists_of_withDefault_readList hmethods m hm).elim fun _ => Method.recovers
  have hcomponent : Recovers (Json.readOption Json.readType (.ofOption TypeRef.toJson component))
      component (component.all TypeRef.plainArrays) := by
    cases component with
    | none => exact .ok none
    | some t =>
      rcases Json.Record.exists_of_withDefault hcomponent with h | ⟨j, hj⟩
      · cases h
      · obtain ⟨j', hj'⟩ := Json.exists_of_readOption hj t rfl
        obtain ⟨s, hs⟩ := TypeRef.exists_of_readType hj'
        exact (TypeRef.recovers hs).map some
  rw [ofJson_toJson, Kind.readVariant_name, hinterfaces, Annotation.readList_ofJson hannotations, plainArrays]
  dsimp only
  rw [← Bool.and_true (Option.all _ _)]
  exact hmethods.bind (hcomponent.bind (.ok _))

/-! ### Written forms -/

/-- **What was read is read again from what is written of it, unless an array has arguments.** A
type that was read is recovered from its written form, and a class that was read is recovered from
its canonical form, if no array in the type, or in the types that the class names, has arguments;
otherwise the written form is refused. -/
theorem recovered_if_plainArrays (s : String) (j : Json) :
    (∀ t, TypeRef.parse s = .ok t →
      if t.plainArrays then TypeRef.parse t.text = .ok t
      else ∃ e, TypeRef.parse t.text = .error e) ∧
    (∀ c, Class.ofJson j = .ok c →
      if c.plainArrays then Class.ofJson c.toJson = .ok c
      else ∃ e, Class.ofJson c.toJson = .error (.type e)) := by
  refine ⟨fun t h => ?_, fun c h => Class.recovers h⟩
  split
  · exact TypeRef.parse_text h ‹_›
  · exact TypeRef.parse_text_error h (Bool.eq_false_iff.mpr ‹_›)

open TypeRef (IsName Blank Spells isName_of_all spells_name parse_of_spells)

/-- The class with one method of a type. -/
def classReturning (type : TypeRef) : Class :=
  { Class.named "Basket" with methods := [{ Method.named "getContents" with returnType := type }] }

/-- The class as a text has it, with the type as it is spelled there. -/
def classWritten (type : String) : Json :=
  .object [("name", .string "Basket"),
    ("methods", .array [.object [("name", .string "getContents"), ("return_type", .string type)]])]

theorem ofJson_classWritten {type : String} {t : TypeRef} (h : TypeRef.parse type = .ok t) :
    Class.ofJson (classWritten type) = .ok (classReturning t) := by
  have htype : Json.readType (.string type) = .ok t := by
    rw [Json.readType, h]
    rfl
  have hmethod : Method.ofJson
      (.object [("name", .string "getContents"), ("return_type", .string type)]) =
        .ok { Method.named "getContents" with returnType := t } := by
    show (Json.readType (.string type) >>= fun t => _) = _
    rw [htype]
    rfl
  show ([Json.object [("name", .string "getContents"), ("return_type", .string type)]].mapM
    Method.ofJson >>= fun methods => _) = _
  rw [List.mapM_cons, hmethod]
  rfl

/-- Arrays among the arguments are recovered, in a type and in a class that names it. -/
theorem map_of_arrays_recovered :
    TypeRef.parse (TypeRef.text ⟨"Map", [⟨"String", []⟩, ⟨"List", [⟨"Order[][]", []⟩]⟩]⟩) =
        .ok ⟨"Map", [⟨"String", []⟩, ⟨"List", [⟨"Order[][]", []⟩]⟩]⟩ ∧
      Class.ofJson (classReturning
          ⟨"Map", [⟨"String", []⟩, ⟨"List", [⟨"Order[][]", []⟩]⟩]⟩).toJson =
        .ok (classReturning ⟨"Map", [⟨"String", []⟩, ⟨"List", [⟨"Order[][]", []⟩]⟩]⟩) := by
  have hmap : IsName "Map".toList := isName_of_all (by decide) (by decide +kernel)
  have hstring : IsName "String".toList := isName_of_all (by decide) (by decide +kernel)
  have hlist : IsName "List".toList := isName_of_all (by decide) (by decide +kernel)
  have horder : IsName "Order".toList := isName_of_all (by decide) (by decide +kernel)
  have hspace : Blank [' '] := .cons (by decide) .nil
  have hspells := Spells.generic .nil hmap hspace
    (.more (spells_name hstring) .nil
      (.one (.generic hspace hlist .nil
        (.one (.plain .nil horder hspace (.more .nil (.more .nil .none)))) .nil .none)))
    .nil .none
  have hparse : TypeRef.parse "Map <String, List<Order [][]>>" =
      .ok ⟨"Map", [⟨"String", []⟩, ⟨"List", [⟨"Order[][]", []⟩]⟩]⟩ :=
    parse_of_spells hspells
  obtain ⟨htype, hclass⟩ := recovered_if_plainArrays "Map <String, List<Order [][]>>"
    (classWritten "Map <String, List<Order [][]>>")
  exact ⟨htype _ hparse, hclass _ (ofJson_classWritten hparse)⟩

/-- An array of lists that have arguments is refused as it is written, in a type and in a class
that names it. -/
theorem array_of_lists_refused :
    TypeRef.parse "List<Order>[]" = .ok ⟨"List[]", [⟨"Order", []⟩]⟩ ∧
      TypeRef.text ⟨"List[]", [⟨"Order", []⟩]⟩ = "List[]<Order>" ∧
      (∃ e, TypeRef.parse "List[]<Order>" = .error e) ∧
      Class.ofJson (classWritten "List<Order>[]") =
        .ok (classReturning ⟨"List[]", [⟨"Order", []⟩]⟩) ∧
      ∃ e, Class.ofJson (classReturning ⟨"List[]", [⟨"Order", []⟩]⟩).toJson =
        .error (.type e) := by
  have hlist : IsName "List".toList := isName_of_all (by decide) (by decide +kernel)
  have horder : IsName "Order".toList := isName_of_all (by decide) (by decide +kernel)
  have hspells := Spells.generic .nil hlist .nil (.one (spells_name horder)) .nil (.more .nil .none)
  have hparse : TypeRef.parse "List<Order>[]" = .ok ⟨"List[]", [⟨"Order", []⟩]⟩ :=
    parse_of_spells hspells
  have htext : TypeRef.text ⟨"List[]", [⟨"Order", []⟩]⟩ = "List[]<Order>" := by decide +kernel
  have hclass := ofJson_classWritten hparse
  exact ⟨hparse, htext, htext ▸ TypeRef.parse_text_error hparse (by decide +kernel), hclass,
    Class.recovers hclass⟩

end Facetry
