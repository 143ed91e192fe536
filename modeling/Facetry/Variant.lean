/-
# Names of choices

Where a text chooses one of several names, it may be written in any case and
with hyphens or spaces for the underscores of the name. A text that names none
of them is refused with the list of the names.

Key definitions: `Variant.normalize`, `Variant.read`, `Variant.Error`.
-/
import Facetry.Text.Case

namespace Facetry.Variant

/-- A text that names none of the expected choices. -/
structure Error where
  text : String
  expected : List String
  deriving DecidableEq, Repr

/-- The wording of the error. -/
def Error.message (e : Error) : String :=
  "unknown variant '" ++ e.text ++ "', expected one of: " ++ ", ".intercalate e.expected

/-- The text in lower case with underscores for hyphens and spaces. -/
def normalize (text : String) : String :=
  (Text.lower text).map fun c => if c == '-' || c == ' ' then '_' else c

/-- The choice that the text names. -/
def read {α : Type} (choices : List (String × α)) (text : String) : Except Error α :=
  match choices.lookup (normalize text) with
  | some choice => .ok choice
  | none => .error ⟨text, choices.map (·.1)⟩

end Facetry.Variant
