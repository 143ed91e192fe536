/-
# Failures

What can be wrong with a metamodel, and the element that it is wrong with. A
failure does not stop the building of the metamodel: it is recorded and
reported.

Key definitions: `Problem`, `Problem.message`, `Failure`.
-/
import Facetry.Identifier
import Facetry.TypeRef

namespace Facetry

/-- What is wrong with an element. -/
inductive Problem
  | deprecatedNotPersistable
  | unknownValueKind (declared : String)
  | unknownPlace (text : String)
  | missingSequence
  | optionalPrimitive (type : TypeRef)
  | badMaxLength
  | badPattern (pattern : String)
  | badElementType (error : TypeRef.ParseError)
  | choicesAndSearch (method : String)
  | duplicateMember (id : String) (methods : List String)
  | orphanedMethod (method : String)
  | sharedObjectType (id : String) (classes : List String)
  deriving DecidableEq

/-- The wording of a problem. What the reader of patterns has to say about a bad one, which would
follow after a colon, is left out. -/
def Problem.message : Problem → String
  | deprecatedNotPersistable =>
    "@NotPersistable is deprecated; use @DomainObject(nature = VIEW_MODEL) instead"
  | unknownValueKind declared => "@Value declares unknown value type '" ++ declared ++ "'"
  | unknownPlace text => "@Hidden has unknown where '" ++ text ++ "'"
  | missingSequence => "@MemberOrder has no sequence"
  | optionalPrimitive type =>
    "@Optional cannot be applied to primitive type '" ++ type.text ++ "'"
  | badMaxLength => "@MaxLength requires a non-negative length"
  | badPattern pattern => "@RegEx pattern '" ++ pattern ++ "' is invalid"
  | badElementType error => "@TypeOf is invalid: " ++ error.message
  | choicesAndSearch method => "has both choices and " ++ method ++ "(); use one or the other"
  | duplicateMember id methods =>
    "duplicate member '" ++ id ++ "' from methods " ++ ", ".intercalate methods
  | orphanedMethod method =>
    method ++ "() looks like a supporting method but matches no member"
  | sharedObjectType id classes =>
    "object type '" ++ id ++ "' is shared by " ++ ", ".intercalate classes

/-- A problem with an element. -/
structure Failure where
  element : Identifier
  problem : Problem
  deriving DecidableEq

namespace Failure

/-- The wording of the problem. -/
def message (f : Failure) : String := f.problem.message

/-- The element and what is wrong with it. -/
def text (f : Failure) : String := f.element.text ++ ": " ++ f.message

end Failure
end Facetry
