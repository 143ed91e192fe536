/-
# What a class is

A class can be one of values, one of collections, immutable, or never stored.
A class of values shows its objects as the value kind does; that title is
inferred, and so is the element type of a class of arrays.

Key definitions: `Analysis.valueClass`, `Analysis.collectionClass`,
`Analysis.immutableClass`, `Analysis.notPersistableClass`.
-/
import Facetry.Analysis

namespace Facetry.Analysis

/-- The value kind that an annotation declares, as a text. -/
def declaredValueKind (mark : Annotation) : String :=
  ((mark.textAttr? "type").or mark.value?).getD ""

/-- Attaches a value kind and the title that goes with it. -/
def attachValueKind (kind : Value.Kind) (a : Analysis) : Analysis :=
  (a.attach (.value kind)).attachDerived (.title (.valueKind kind))

/-- Attaches the value kind that is declared, or known for the class. -/
def valueClass (c : Class) (a : Analysis) : Analysis :=
  match c.annotation? "Value" with
  | some mark =>
    match Variant.read Value.Kind.choices (declaredValueKind mark) with
    | .ok kind => a.attachValueKind kind
    | .error _ => a.report (.unknownValueKind (declaredValueKind mark))
  | none =>
    match Value.Kind.ofClass? c.name with
    | some kind => a.attachValueKind kind
    | none => a

/-- Marks a class of collections, with its element type if the class is one of arrays. -/
def collectionClass (env : Environment) (c : Class) (a : Analysis) : Analysis :=
  if env.isCollectionType c.name then
    match c.component with
    | some component => (a.attach .collectionType).attachDerived (.typeOf component)
    | none => a.attach .collectionType
  else a

/-- Whether two texts differ in the case of ASCII letters at most. -/
def equalButForCase (s t : String) : Bool :=
  s.toList.map Char.toLower == t.toList.map Char.toLower

/-- Whether an annotation of the class makes its objects immutable. -/
def isDeclaredImmutable (c : Class) : Bool :=
  c.isAnnotated "Immutable" ||
    ((c.annotation? "DomainObject").bind (·.textAttr? "editing")).any (equalButForCase "disabled")

/-- Marks an immutable class. -/
def immutableClass (c : Class) (a : Analysis) : Analysis :=
  if isDeclaredImmutable c then a.attach .immutable else a

/-- Marks a class whose objects are not stored; the annotation is deprecated. -/
def notPersistableClass (c : Class) (a : Analysis) : Analysis :=
  if c.isAnnotated "NotPersistable" then
    (a.attach .notPersistable).report .deprecatedNotPersistable
  else a

end Facetry.Analysis
