/-
# The analysis of elements

An analysis is the state of looking at one element of a class: the facets the
element has so far, the methods that are still unclaimed, and the failures
recorded so far. Factories change it one after another; the pool and the
failures go on from element to element.

What an analysis may ask about other classes is in its environment: whether a
type is one of collections, and whether it is primitive.

Key definitions: `Environment`, `Analysis`, `MemberContext`, `ParameterContext`,
`Analysis.attachClaimed`.
-/
import Facetry.Configuration
import Facetry.Facet
import Facetry.Failure
import Facetry.Feature
import Facetry.MethodPool
import Facetry.Repository
import Facetry.Services

namespace Facetry

/-- What an analysis can consult besides the class itself. -/
structure Environment where
  config : Configuration
  services : Services
  isCollectionType : String → Bool
  isPrimitive : String → Bool

/-- The environment in which a repository answers about other classes. -/
def Environment.ofRepository (config : Configuration) (services : Services) (r : Repository) :
    Environment :=
  ⟨config, services, r.isCollectionType, r.isPrimitive⟩

/-- The state of looking at one element. -/
structure Analysis where
  facets : FacetHolder
  pool : MethodPool
  failures : List Failure

namespace Analysis

/-- Turns to another element, which has no facets yet. -/
def turnTo (a : Analysis) (element : Identifier) : Analysis := { a with facets := .empty element }

/-- Attaches a declared facet. -/
def attach (a : Analysis) (d : Facet.Data) : Analysis := { a with facets := a.facets.attach d }

/-- Attaches an inferred facet. -/
def attachDerived (a : Analysis) (d : Facet.Data) : Analysis :=
  { a with facets := a.facets.attachDerived d }

/-- Attaches a declared facet unless there is one of its kind. -/
def attachIfAbsent (a : Analysis) (d : Facet.Data) : Analysis :=
  { a with facets := a.facets.attachIfAbsent d }

/-- Attaches an inferred facet unless there is one of its kind. -/
def attachDerivedIfAbsent (a : Analysis) (d : Facet.Data) : Analysis :=
  { a with facets := a.facets.attachDerivedIfAbsent d }

/-- Records a problem with the element. -/
def report (a : Analysis) (p : Problem) : Analysis :=
  { a with failures := a.failures ++ [⟨a.facets.owner, p⟩] }

/-- Claims the first method that has the name and is acceptable. -/
def take (a : Analysis) (name : String) (accept : Method → Bool) : Option Method × Analysis :=
  let (m, pool) := a.pool.take name accept
  (m, { a with pool := pool })

/-- Claims a method and, if there is one, attaches the facet that it gives rise to. -/
def attachClaimed (a : Analysis) (name : String) (accept : Method → Bool)
    (facet : Method → Facet.Data) : Analysis :=
  match a.take name accept with
  | (some m, a) => a.attach (facet m)
  | (none, a) => a

end Analysis

/-- A member of a class, as the factories see it: the class with its facets, and the method that
is the accessor or the action itself. -/
structure MemberContext where
  owner : Class
  classFacets : FacetHolder
  method : Method
  id : String
  feature : Feature

/-- The name of the member's supporting method that starts with a word. -/
def MemberContext.supporting (m : MemberContext) (word : String) : String :=
  word ++ Naming.capitalize m.id

/-- A parameter of an action, as the factories see it. -/
structure ParameterContext where
  owner : Class
  method : Method
  id : String
  index : Nat
  parameter : Parameter

/-- The name of the parameter's supporting method that starts with a word. -/
def ParameterContext.supporting (p : ParameterContext) (word : String) : String :=
  word ++ Text.natText p.index ++ Naming.capitalize p.id

/-- Whether a method has no parameters. -/
def Method.hasNoParameters (m : Method) : Bool := m.parameters.isEmpty

/-- Whether a method has no parameters and returns something. -/
def Method.isGetter (m : Method) : Bool := m.hasNoParameters && !m.isVoid

/-- Whether a method returns something. -/
def Method.returnsValue (m : Method) : Bool := !m.isVoid

end Facetry
