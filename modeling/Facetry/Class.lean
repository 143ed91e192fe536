/-
# Classes as they are declared

What is known of a class before it is introspected: its kind, its place among
the other classes, its annotations and its methods, in the order of their
declaration. This is the input of everything else.

Key definitions: `Parameter`, `Method`, `Class.Kind`, `Class`.
-/
import Facetry.Annotation
import Facetry.TypeRef

namespace Facetry

/-- A parameter of a method. -/
structure Parameter where
  type : TypeRef
  name : Option String
  annotations : List Annotation
  deriving DecidableEq

/-- The first annotation of the parameter with the simple name. -/
def Parameter.annotation? (p : Parameter) (simpleName : String) : Option Annotation :=
  Annotation.find? p.annotations simpleName

/-- A method of a class. -/
structure Method where
  name : String
  returnType : TypeRef
  parameters : List Parameter
  annotations : List Annotation
  isStatic : Bool
  isPublic : Bool
  deriving DecidableEq

namespace Method

/-- A public method without parameters that returns nothing. -/
def named (name : String) : Method := ⟨name, .void, [], [], false, true⟩

/-- The number of parameters. -/
def arity (m : Method) : Nat := m.parameters.length

/-- Whether the method returns nothing. -/
def isVoid (m : Method) : Bool := m.returnType.isVoid

/-- Whether the parameters have exactly these types, compared by name. -/
def hasParameterTypes (m : Method) (types : List TypeRef) : Bool :=
  m.parameters.map (·.type.name) == types.map (·.name)

/-- The first annotation of the method with the simple name. -/
def annotation? (m : Method) (simpleName : String) : Option Annotation :=
  Annotation.find? m.annotations simpleName

/-- Whether the method has an annotation with the simple name. -/
def isAnnotated (m : Method) (simpleName : String) : Bool :=
  Annotation.isPresent m.annotations simpleName

end Method

/-- What sort of type a class describes. -/
inductive Class.Kind
  | ordinary
  | abstract
  | interface
  | enum
  | array
  | primitive
  deriving DecidableEq, Repr

/-- A class as it is declared. -/
structure Class where
  name : String
  kind : Class.Kind
  superclass : Option String
  interfaces : List String
  annotations : List Annotation
  methods : List Method
  component : Option TypeRef
  deriving DecidableEq

namespace Class

/-- An ordinary class with nothing declared. -/
def named (name : String) : Class := ⟨name, .ordinary, none, [], [], [], none⟩

/-- The class of arrays of a component. -/
def arrayOf (component : TypeRef) : Class :=
  { named (component.name ++ "[]") with
    kind := .array, superclass := some "java.lang.Object", component := some component }

/-- The name without package and enclosing classes. -/
def simpleName (c : Class) : String := Naming.simpleName c.name

/-- Whether the part of the name after its last dollar sign is a number, as it is for a class
that has no name of its own. -/
def isAnonymous (c : Class) : Bool :=
  let chars := c.name.toList
  let tail := Naming.afterLast '$' chars
  chars.contains '$' && !tail.isEmpty && tail.all Char.isDigit

/-- Whether the class is one of arrays. -/
def isArray (c : Class) : Bool := c.kind == .array || (TypeRef.componentName? c.name).isSome

/-- The first annotation of the class with the simple name. -/
def annotation? (c : Class) (simpleName : String) : Option Annotation :=
  Annotation.find? c.annotations simpleName

/-- Whether the class has an annotation with the simple name. -/
def isAnnotated (c : Class) (simpleName : String) : Bool :=
  Annotation.isPresent c.annotations simpleName

end Class
end Facetry
