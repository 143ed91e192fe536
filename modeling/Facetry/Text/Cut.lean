/-
# Cutting text at a mark

`cut` gives the parts of a text between the occurrences of a mark, so that
joining them with the mark gives the text back. There is one part more than
there are marks.

Key definitions: `cut`.
-/
namespace Facetry.Text

/-- The parts of the text between the occurrences of `mark`. -/
def cut (mark : Char) : List Char → List (List Char)
  | [] => [[]]
  | c :: cs =>
    if c = mark then [] :: cut mark cs
    else
      match cut mark cs with
      | [] => [[c]]
      | part :: parts => (c :: part) :: parts

end Facetry.Text
