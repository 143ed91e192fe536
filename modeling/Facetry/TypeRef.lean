/-
# References to types

A reference names a type and its arguments, such as
`java.util.List<com.acme.Order>`. An array is part of the name: each `[]` that
follows a type is moved to the end of its name, also across the arguments.

`TypeRef.read` reads a type from the left and gives it with what follows; the
rest is always shorter, which is why reading ends. What is left of the text
when reading fails tells where it failed.

Key definitions: `TypeRef`, `TypeRef.text`, `TypeRef.parse`, `TypeRef.ParseError`.
Key theorems: `TypeRef.componentName?_eq_some_iff`.
-/
import Facetry.Naming
import Facetry.Text.Alphabetic
import Facetry.Text.Blank
import Facetry.Text.Numeral

namespace Facetry

open Text

/-- A reference to a type: its name, with a `[]` at the end for each array, and its arguments. -/
structure TypeRef where
  name : String
  args : List TypeRef
  deriving Repr, Inhabited

namespace TypeRef

mutual

/-- Whether two references are equal. -/
def decEq : (a b : TypeRef) → Decidable (a = b)
  | ⟨n, as⟩, ⟨m, bs⟩ =>
    match decEqList as bs with
    | .isTrue h => if hn : n = m then .isTrue (h ▸ hn ▸ rfl) else .isFalse (by simp [hn])
    | .isFalse h => .isFalse (by simp [h])

/-- Whether two lists of references are equal. -/
def decEqList : (as bs : List TypeRef) → Decidable (as = bs)
  | [], [] => .isTrue rfl
  | a :: as, b :: bs =>
    match decEq a b, decEqList as bs with
    | .isTrue h, .isTrue h' => .isTrue (h ▸ h' ▸ rfl)
    | .isFalse h, _ => .isFalse (by simp [h])
    | _, .isFalse h => .isFalse (by simp [h])
  | [], _ :: _ | _ :: _, [] => .isFalse (by simp)

end

instance : DecidableEq TypeRef := decEq

/-- The reference to the type called `name`, without arguments. -/
def simple (name : String) : TypeRef := ⟨name, []⟩

/-- The type of methods that return nothing. -/
def void : TypeRef := simple "void"

/-- The array of a component; the arguments of the component are dropped. -/
def arrayOf (component : TypeRef) : TypeRef := simple (component.name ++ "[]")

/-- Whether nothing is returned. -/
def isVoid (t : TypeRef) : Bool := t.name == "void"

/-- The name without the last `[]`, if it ends with one. -/
def componentName? (name : String) : Option String :=
  match name.toList.reverse with
  | ']' :: '[' :: rest => some (String.ofList rest.reverse)
  | _ => none

/-- A name has a component if it is the component's name followed by `[]`. -/
theorem componentName?_eq_some_iff {name component : String} :
    componentName? name = some component ↔ name = component ++ "[]" := by
  unfold componentName?
  constructor
  · intro h
    split at h
    · rename_i rest hrest
      cases h
      have : name.toList = rest.reverse ++ ['[', ']'] := by
        rw [← List.reverse_reverse name.toList, hrest]
        simp
      rw [← String.ofList_toList (s := name), this, String.ofList_append]
    · simp at h
  · rintro rfl
    simp

/-- Whether the type is an array. -/
def isArray (t : TypeRef) : Bool := (componentName? t.name).isSome

/-- The component of an array. -/
def component? (t : TypeRef) : Option TypeRef := (componentName? t.name).map simple

/-- The first argument. -/
def firstArg? (t : TypeRef) : Option TypeRef := t.args.head?

/-- The name without package and enclosing classes. -/
def simpleName (t : TypeRef) : String := Naming.simpleName t.name

mutual

/-- The characters of the written form. -/
def chars : TypeRef → List Char
  | ⟨name, []⟩ => name.toList
  | ⟨name, args⟩ => name.toList ++ '<' :: charsOfArgs args ++ ['>']

/-- The written forms of the arguments, separated by commas. -/
def charsOfArgs : List TypeRef → List Char
  | [] => []
  | [t] => chars t
  | t :: ts => chars t ++ ',' :: ' ' :: charsOfArgs ts

end

/-- The written form. -/
def text (t : TypeRef) : String := String.ofList t.chars

/-! ### Reading -/

/-- Why a text is no type reference. -/
inductive Reason
  | expectedName
  | expectedSeparator
  | unexpectedTrailing
  deriving DecidableEq, Repr

/-- The wording of a reason. -/
def Reason.text : Reason → String
  | expectedName => "expected a type name"
  | expectedSeparator => "expected ',' or '>'"
  | unexpectedTrailing => "unexpected trailing characters"

/-- A failed reading: the reason, and what is left of the text from the failure on. -/
structure Fault where
  reason : Reason
  left : List Char
  deriving DecidableEq, Repr

/-- A text that is no type reference; the offset counts the bytes before the failure. -/
structure ParseError where
  input : String
  reason : Reason
  offset : Nat
  deriving DecidableEq, Repr

/-- The wording of the error. -/
def ParseError.message (e : ParseError) : String :=
  "Invalid type reference '" ++ e.input ++ "': " ++ e.reason.text ++ " at offset " ++
    natText e.offset

/-- Whether `c` can stand in a name. -/
def isNameChar (c : Char) : Bool := isAlphanumeric c || c == '.' || c == '_' || c == '$'

/-- The text from its first character that is no white space. -/
def skipBlanks (cs : List Char) : List Char := cs.dropWhile isBlank

/-- The number of array suffixes at the start of the text, and what follows them and the white
space around them. -/
def arraySuffixes : List Char → Nat × List Char
  | '[' :: ']' :: cs => ((arraySuffixes cs).1 + 1, (arraySuffixes cs).2)
  | c :: cs => if isBlank c then arraySuffixes cs else (0, c :: cs)
  | [] => (0, [])

theorem arraySuffixes_length (cs : List Char) : (arraySuffixes cs).2.length ≤ cs.length := by
  fun_induction arraySuffixes cs <;> simp_all <;> omega

theorem skipBlanks_length (cs : List Char) : (skipBlanks cs).length ≤ cs.length :=
  (cs.dropWhile_sublist isBlank).length_le

/-- The name with `count` array suffixes. -/
def withSuffixes (name : List Char) (count : Nat) : String :=
  String.ofList (name ++ (List.replicate count ['[', ']']).flatten)

/-- A value that was read from `cs`, with the rest of the text, which is shorter. -/
abbrev Read (α : Type) (cs : List Char) : Type :=
  Except Fault { r : α × List Char // r.2.length < cs.length }

mutual

/-- Reads a type at the start of the text. -/
def read (cs : List Char) : Read TypeRef cs :=
  let start := skipBlanks cs
  let name := start.takeWhile isNameChar
  let after := start.dropWhile isNameChar
  if hname : name = [] then .error ⟨.expectedName, start⟩
  else
    have hafter : after.length < cs.length := by
      have h₁ : start.length = name.length + after.length := by
        rw [← List.length_append, List.takeWhile_append_dropWhile]
      have h₂ := List.length_pos_iff.mpr hname
      have h₃ := skipBlanks_length cs
      have : start.length ≤ cs.length := h₃
      omega
    match h : skipBlanks after with
    | '<' :: inside =>
      have hinside : inside.length < cs.length := by
        have := skipBlanks_length after
        rw [h] at this
        simp at this
        omega
      match readArgs inside with
      | .error fault => .error fault
      | .ok ⟨(args, rest), hrest⟩ =>
        .ok ⟨(⟨withSuffixes name (arraySuffixes rest).1, args⟩, (arraySuffixes rest).2), by
          have := arraySuffixes_length rest
          simp only at hrest ⊢
          omega⟩
    | _ =>
      .ok ⟨(⟨withSuffixes name (arraySuffixes after).1, []⟩, (arraySuffixes after).2), by
        have := arraySuffixes_length after
        simp only
        omega⟩
termination_by (cs.length, 1)

/-- Reads arguments up to the closing bracket. -/
def readArgs (cs : List Char) : Read (List TypeRef) cs :=
  match read cs with
  | .error fault => .error fault
  | .ok ⟨(first, rest), hrest⟩ =>
    match h : skipBlanks rest with
    | '>' :: after => .ok ⟨([first], after), by
        have := skipBlanks_length rest
        rw [h] at this
        simp at this hrest ⊢
        omega⟩
    | ',' :: after =>
      have hafter : after.length < cs.length := by
        have := skipBlanks_length rest
        rw [h] at this
        simp at this hrest
        omega
      match readArgs after with
      | .error fault => .error fault
      | .ok ⟨(others, rest'), hrest'⟩ =>
        .ok ⟨(first :: others, rest'), by simp only at hrest' ⊢; omega⟩
    | left => .error ⟨.expectedSeparator, left⟩
termination_by (cs.length, 2)

end

/-- The type that the whole text spells. -/
def parseChars (cs : List Char) : Except Fault TypeRef :=
  match read cs with
  | .error fault => .error fault
  | .ok ⟨(t, rest), _⟩ =>
    match skipBlanks rest with
    | [] => .ok t
    | left => .error ⟨.unexpectedTrailing, left⟩

/-- The number of bytes of the characters in UTF-8. -/
def byteCount (cs : List Char) : Nat := cs.foldr (fun c n => c.utf8Size + n) 0

/-- The type that the whole text spells. -/
def parse (input : String) : Except ParseError TypeRef :=
  match parseChars input.toList with
  | .ok t => .ok t
  | .error fault => .error ⟨input, fault.reason, byteCount input.toList - byteCount fault.left⟩

/-- The type that the text spells, or else the type whose name is that very text. -/
def ofText (s : String) : TypeRef := (parse s).toOption.getD (simple s)

end TypeRef
end Facetry
