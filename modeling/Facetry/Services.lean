/-
# Services

What others contribute to a metamodel: layouts for classes and texts in the
language of the reader. Both may be missing, and both are functions of what they are asked.

Key definitions: `Services`, `Services.localize`.
-/
import Facetry.Class
import Facetry.Facet.Data

namespace Facetry

/-- The services at hand: the layout of a class, and the wording of a text in a context. -/
structure Services where
  grid : Option (Class → Option Facet.Grid) := none
  localizer : Option (String → String → String) := none

namespace Services

/-- The wording of a text in the context of a class; the text itself without a service. -/
def localize (s : Services) (context text : String) : String :=
  match s.localizer with
  | some localizer => localizer context text
  | none => text

/-- The service that knows the layouts of some classes, by name. -/
def gridsByName (grids : NameMap Facet.Grid) (c : Class) : Option Facet.Grid := grids.get? c.name

end Services
end Facetry
