/-
# Programming models

A programming model is the registry of the factories that analyse a class, in the
order in which they run. It is put together step by step, and each step moves or
removes only the factory that it names. No two factories have the same name, so a
factory is its own key.

A method whose name starts with a word that one of the factories reserves is a
supporting method, and no action.

Key definitions: `ProgrammingModel`, `ProgrammingModel.withFactory`, `ProgrammingModel.before`,
`ProgrammingModel.without`, `ProgrammingModel.register`, `ProgrammingModel.isReserved`,
`ProgrammingModel.analyseClass`, `ProgrammingModel.analyseMember`.
-/
import Facetry.Factory
import Facetry.Registry

namespace Facetry

/-- The factories that analyse a class, in the order in which they run. -/
structure ProgrammingModel where
  factories : List Factory
  deriving DecidableEq

namespace ProgrammingModel

/-- The model without factories. -/
def empty : ProgrammingModel := ⟨[]⟩

/-- The model with a factory in the place of the one of its name, or at the end. -/
def withFactory (m : ProgrammingModel) (f : Factory) : ProgrammingModel :=
  ⟨Registry.put id f m.factories⟩

/-- The model with the standard factories in their places, and those that it lacks at its end. -/
def withStandard (m : ProgrammingModel) : ProgrammingModel :=
  Factory.standard.foldl withFactory m

/-- The model with a factory moved before the one called `place`, or to the end. -/
def before (m : ProgrammingModel) (place : String) (f : Factory) : ProgrammingModel :=
  ⟨Registry.putBefore id Factory.name place f m.factories⟩

/-- The model without the factory called `name`. -/
def without (m : ProgrammingModel) (name : String) : ProgrammingModel :=
  ⟨Registry.drop Factory.name name m.factories⟩

/-- The model with a factory moved to the end. -/
def register (m : ProgrammingModel) (f : Factory) : ProgrammingModel :=
  ⟨Registry.putLast id f m.factories⟩

/-- The model of all factories in their standard order. -/
def standard : ProgrammingModel := empty.withStandard

/-- The standard model without the factories that the configuration excludes. -/
def ofConfiguration (c : Configuration) : ProgrammingModel :=
  c.excludedFactories.foldl without standard

/-- The names of the factories, in order. -/
def names (m : ProgrammingModel) : List String := m.factories.map (·.name)

/-- Whether there is a factory called `name`. -/
def contains (m : ProgrammingModel) (name : String) : Bool := m.names.contains name

/-- The factories that look at a feature, in order. -/
def factoriesFor (m : ProgrammingModel) (feature : Feature) : List Factory :=
  m.factories.filter (·.appliesTo feature)

/-- The words that the factories reserve, in order, each once. -/
def reservedWords (m : ProgrammingModel) : List String :=
  (NameMap.ofList ((m.factories.flatMap (·.words)).map fun word => (word, ()))).keys

/-- Whether a method called `name` supports a member. -/
def isReserved (m : ProgrammingModel) (name : String) : Bool :=
  m.factories.any fun f => f.words.any fun word => Naming.startsWith word name

/-- Runs the factories that look at classes. -/
def analyseClass (m : ProgrammingModel) (env : Environment) (c : Class) (a : Analysis) : Analysis :=
  (m.factoriesFor .object).foldl (fun a f => f.onClass env c a) a

/-- Runs the factories that look at members of the kind. -/
def analyseMember (m : ProgrammingModel) (env : Environment) (member : MemberContext)
    (a : Analysis) : Analysis :=
  (m.factoriesFor member.feature).foldl (fun a f => f.onMember env member a) a

/-- Runs the factories that look at parameters. -/
def analyseParameter (m : ProgrammingModel) (env : Environment) (p : ParameterContext)
    (a : Analysis) : Analysis :=
  (m.factoriesFor .parameter).foldl (fun a f => f.onParameter env p a) a

end ProgrammingModel
end Facetry
