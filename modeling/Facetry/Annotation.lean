/-
# Annotations

An annotation has a name and attributes. It is looked up by its simple name,
so that a class may write the name with its package or without; of several
with one simple name the first counts.

Key definitions: `Annotation`, `Annotation.find?`, `Annotation.natAttr?`.
-/
import Facetry.Json
import Facetry.Naming
import Facetry.Text.Blank
import Facetry.Text.Numeral

namespace Facetry

open Text

/-- An annotation on a class, a method or a parameter. -/
structure Annotation where
  name : String
  attributes : NameMap Json
  deriving DecidableEq

namespace Annotation

/-- An annotation without attributes. -/
def named (name : String) : Annotation := ⟨name, .empty⟩

/-- The annotation with an attribute set. -/
def withAttr (a : Annotation) (key : String) (value : Json) : Annotation :=
  { a with attributes := a.attributes.insert key value }

/-- The name without its package and enclosing classes. -/
def simpleName (a : Annotation) : String := Naming.simpleName a.name

/-- The value of an attribute. -/
def attr? (a : Annotation) (key : String) : Option Json := a.attributes.get? key

/-- The value of an attribute that is a text. -/
def textAttr? (a : Annotation) (key : String) : Option String := (a.attr? key).bind Json.string?

/-- The value of an attribute that is a truth value. -/
def boolAttr? (a : Annotation) (key : String) : Option Bool := (a.attr? key).bind Json.bool?

/-- The value of an attribute that is a number from zero on, or a text that is one of 64 bits. -/
def natAttr? (a : Annotation) (key : String) : Option Nat :=
  match a.attr? key with
  | some (.number (.natural n)) => some n
  | some (.string s) => readNatBelow? (Nat.pow 2 64) (trimChars s.toList)
  | _ => none

/-- The text of the attribute `value`. -/
def value? (a : Annotation) : Option String := a.textAttr? "value"

/-- The first annotation with the simple name. -/
def find? (annotations : List Annotation) (simpleName : String) : Option Annotation :=
  annotations.find? (·.simpleName == simpleName)

/-- The text `value` of the first annotation with the simple name. -/
def valueIn? (annotations : List Annotation) (simpleName : String) : Option String :=
  find? annotations simpleName >>= value?

/-- Whether there is an annotation with the simple name. -/
def isPresent (annotations : List Annotation) (simpleName : String) : Bool :=
  (find? annotations simpleName).isSome

end Annotation
end Facetry
