/-
# Features

The kinds of elements that facets are attached to: the object itself, its
members (properties, collections and actions), and the parameters of actions.

Key definitions: `Feature`, `Feature.name`, `Feature.ofName?`, `Feature.label`.
-/
namespace Facetry

/-- A kind of element that carries facets. -/
inductive Feature
  | object
  | property
  | collection
  | action
  | parameter
  deriving DecidableEq, Repr

namespace Feature

/-- Whether the element refers to other objects that an object holds. -/
def isAssociation : Feature → Bool
  | property | collection => true
  | _ => false

/-- The name in data. -/
def name : Feature → String
  | object => "object"
  | property => "property"
  | collection => "collection"
  | action => "action"
  | parameter => "action_parameter"

/-- The name in texts for people. -/
def label : Feature → String
  | parameter => "parameter"
  | other => other.name

/-- Everything but parameters. -/
def classLevel : List Feature := [object, property, collection, action]

/-- The members of an object. -/
def members : List Feature := [property, collection, action]

/-- All features. -/
def all : List Feature := [object, property, collection, action, parameter]

/-- The feature with a name in data. -/
def ofName? (s : String) : Option Feature := all.find? (·.name == s)

end Feature
end Facetry
