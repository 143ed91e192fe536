/-
# Titles

The title of an object is made from the accessors marked for it, in the order
of their sequences, or by a method. A method called `title` is claimed also
where another title wins; the general text of an object is the last resort.

Key definitions: `Analysis.sequence?`, `Analysis.titleFromMembers`,
`Analysis.titleFromMethod`.
-/
import Facetry.Analysis
import Facetry.Sequence

namespace Facetry.Analysis

/-- The sequence that an annotation gives: a text, or a number. -/
def sequence? (mark : Annotation) : Option String :=
  (mark.textAttr? "sequence").or ((mark.natAttr? "sequence").map Text.natText)

/-- Whether the method is marked as part of the title. -/
def isTitlePart (m : Method) : Bool := m.isAnnotated "Title" && m.isGetter

/-- The place of a method in the title. -/
def titleSequence (m : Method) : String :=
  ((m.annotation? "Title").bind sequence?).getD "1"

/-- The name of the member that a method reads, or of the method itself. -/
def memberName (m : Method) : String := (Naming.propertyOf? m.name).getD m.name

/-- The marked methods in the order of their sequences; of equal ones the first declared comes
first. As for members (`Member.inOrder`), there is no order to sort by where three sequences go round
in a circle, so that any order will do and a sort may also fail. -/
def titleParts (p : MethodPool) : List Method :=
  (p.methods.filter isTitlePart).mergeSort fun m n =>
    Sequence.compare (titleSequence m) (titleSequence n) != .gt

/-- Attaches the title made of the marked members, if there are any. -/
def titleFromMembers (a : Analysis) : Analysis :=
  let parts := titleParts a.pool
  if parts.isEmpty then a else a.attach (.title (.annotated (parts.map memberName)))

/-- Attaches the title that a method makes, unless there is one. -/
def titleFromMethod (a : Analysis) : Analysis :=
  match a.take "title" Method.isGetter with
  | (some m, a) => a.attachIfAbsent (.title (.method m.name))
  | (none, a) =>
    if (a.pool.peek? "toString" Method.hasNoParameters).isSome then
      a.attachDerivedIfAbsent (.title .toStringMethod)
    else a

end Facetry.Analysis
