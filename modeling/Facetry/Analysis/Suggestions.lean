/-
# Suggestions for entries

Supporting methods offer what can be entered: a fixed list of choices, the
results of a search, or a default. Choices and a search exclude each other:
both are attached, but the use of both is reported.

Key definitions: `Analysis.propertyChoices`, `Analysis.propertySearch`,
`Analysis.propertyDefault`, `Analysis.parameterChoices`, `Analysis.parameterSearch`,
`Analysis.parameterDefault`.
-/
import Facetry.Analysis.Rules

namespace Facetry.Analysis

/-- The length from which a search starts: as the method is annotated, or as configured. -/
def minSearchLength (env : Environment) (s : Method) : Nat :=
  (((s.annotation? "MinLength").bind (·.natAttr? "value")).filter (· < Nat.pow 2 32)).getD
    env.config.autoCompleteMinLength

/-- Whether a method takes the text of a search and returns something. -/
def searches (s : Method) : Bool := s.hasParameterTypes [.simple textClass] && !s.isVoid

/-- Claims a search method, and reports it if there are choices. -/
def search (env : Environment) (name : String) (choices : Facet.Kind)
    (facet : String → Nat → Facet.Data) (a : Analysis) : Analysis :=
  match a.take name searches with
  | (none, a) => a
  | (some s, a) =>
    let a := if a.facets.contains choices then a.report (.choicesAndSearch s.name) else a
    a.attach (facet s.name (minSearchLength env s))

/-- Claims the method that lists the choices for a property. -/
def propertyChoices (m : MemberContext) (a : Analysis) : Analysis :=
  a.attachClaimed (m.supporting "choices") Method.isGetter fun s => .propertyChoices s.name

/-- Claims the method that searches values for a property. -/
def propertySearch (env : Environment) (m : MemberContext) (a : Analysis) : Analysis :=
  a.search env (m.supporting "autoComplete") .propertyChoices .autoComplete

/-- Claims the method that gives the default of a property. -/
def propertyDefault (m : MemberContext) (a : Analysis) : Analysis :=
  a.attachClaimed (m.supporting "default") Method.isGetter fun s => .propertyDefault s.name

/-- Claims the method that lists the choices for a parameter. -/
def parameterChoices (p : ParameterContext) (a : Analysis) : Analysis :=
  a.attachClaimed (p.supporting "choices") Method.returnsValue
    fun s => .actionParameterChoices s.name

/-- Claims the method that searches values for a parameter. -/
def parameterSearch (env : Environment) (p : ParameterContext) (a : Analysis) : Analysis :=
  a.search env (p.supporting "autoComplete") .actionParameterChoices .actionParameterAutoComplete

/-- Claims the method that gives the default of a parameter. -/
def parameterDefault (p : ParameterContext) (a : Analysis) : Analysis :=
  a.attachClaimed (p.supporting "default") Method.returnsValue
    fun s => .actionParameterDefaults s.name

end Facetry.Analysis
