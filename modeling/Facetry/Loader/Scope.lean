/-
# The names that loading can meet

A repository makes a class of arrays for any name, and a substitution can
lengthen a name, so there is no end to the classes that could be loaded. But
loading starts from a name and goes on with the names that the classes mention.
A name that is met is one of those followed by some number of `[]`, and there
is a bound for that number: each `[]` either comes from a name that is mentioned, or
is put back by a substitution that has taken it off, in one of its few steps.

Key definitions: `Loader.mentioned`, `Loader.scope`, `Loader.scopeSize`.
-/
import Facetry.Analysis.Editing
import Facetry.Substitutor

namespace Facetry

/-- The names of a type and of its arguments. -/
def TypeRef.mentioned (t : TypeRef) : List String := t.name :: t.args.map (·.name)

/-- The names of the types that a method mentions. -/
def Method.mentioned (m : Method) : List String :=
  m.returnType.mentioned ++ m.parameters.map (·.type.name) ++
    match Analysis.declaredElement? m with
    | some (.ok element) => [element.name]
    | _ => []

/-- The names that a class mentions, and its own. -/
def Class.mentioned (c : Class) : List String :=
  c.name :: c.superclass.toList ++ c.interfaces ++ c.component.toList.map (·.name) ++
    c.methods.flatMap Method.mentioned

namespace Loader

/-- How often `[]` ends a name whose characters are given from the last to the first, and what
stands before. -/
def splitArray : List Char → Nat × List Char
  | ']' :: '[' :: rest =>
    let (depth, base) := splitArray rest
    (depth + 1, base)
  | cs => (0, cs)

/-- How often `[]` ends the name. -/
def arrayDepth (name : String) : Nat := (splitArray name.toList.reverse).1

/-- The name without the `[]` at its end. -/
def baseName (name : String) : String :=
  String.ofList (splitArray name.toList.reverse).2.reverse

/-- The name followed by `[]` as often as `depth` says. -/
def arrayName (base : String) : Nat → String
  | 0 => base
  | depth + 1 => arrayName base depth ++ "[]"

/-- The names that occur in the repository, those of the classes that it makes, and the requested
one. -/
def mentioned (r : Repository) (requested : String) : List String :=
  requested :: "java.lang.Object" :: r.classes.values.flatMap Class.mentioned

/-- The largest number of `[]` at the end of a name that loading can meet. -/
def maxDepth (names : List String) : Nat :=
  (names.map arrayDepth).foldl max 0 + Substitutor.maxSteps

/-- All names that loading can meet when it starts with the requested one. -/
def scope (r : Repository) (requested : String) : List String :=
  let names := mentioned r requested
  names.flatMap fun name =>
    (List.range (maxDepth names + 1)).map (arrayName (baseName name))

/-- How many names the scope lists. -/
def scopeSize (r : Repository) (requested : String) : Nat :=
  let names := mentioned r requested
  names.length * (maxDepth names + 1)

/-- The size of the scope is the length of its list. -/
theorem length_scope (r : Repository) (requested : String) :
    (scope r requested).length = scopeSize r requested := by
  rw [scope, scopeSize, List.length_flatMap]
  simp only [List.length_map, List.length_range, List.map_const', List.sum_replicate_nat]

end Loader
end Facetry
