/-
# How members are read and changed

A property is read by its accessor, changed by a `modify` or a `set` method,
and cleared by a `clear` method or by setting it to nothing; without a way to
change it, it is disabled. A collection is changed by its own methods, or in
the collection that its accessor returns. An action is invoked.

Key definitions: `Analysis.propertyAccessor`, `Analysis.propertySetAndClear`,
`Analysis.collectionAccessor`, `Analysis.elementType`, `Analysis.collectionChanges`,
`Analysis.actionInvocation`.
-/
import Facetry.Analysis

namespace Facetry.Analysis

/-- Attaches the accessor of a property. -/
def propertyAccessor (m : MemberContext) (a : Analysis) : Analysis :=
  a.attach (.propertyAccessor m.method.name)

/-- Attaches how the property is changed, given the methods found for it. -/
def attachSetter (modify setter : Option Method) (a : Analysis) : Analysis :=
  match modify, setter with
  | some s, _ => a.attach (.propertySetter (.modifyMethod s.name))
  | none, some s => a.attach (.propertySetter (.setter s.name))
  | none, none => a.attachDerivedIfAbsent (.disabled (some "No setter"))

/-- Attaches how the property is cleared, given the methods found for it. -/
def attachClearing (clear setter : Option Method) (a : Analysis) : Analysis :=
  match clear, setter with
  | some s, _ => a.attach (.propertyClear (.method s.name))
  | none, some s => a.attachDerived (.propertyClear (.setterWithNull s.name))
  | none, none => a

/-- Claims the methods that change and clear a property. -/
def propertySetAndClear (m : MemberContext) (a : Analysis) : Analysis :=
  let takesValue (s : Method) : Bool := s.hasParameterTypes [m.method.returnType]
  let (modify, a) := a.take (m.supporting "modify") takesValue
  let (setter, a) := a.take (m.supporting "set") takesValue
  let a := a.attachSetter modify setter
  let (clear, a) := a.take (m.supporting "clear") Method.hasNoParameters
  a.attachClearing clear setter

/-- Attaches the accessor of a collection. -/
def collectionAccessor (m : MemberContext) (a : Analysis) : Analysis :=
  a.attach (.collectionAccessor m.method.name)

/-- The element type that a return type shows: the component of an array, or the first
argument. -/
def shownElement? (t : TypeRef) : Option TypeRef := t.component?.or t.firstArg?

/-- Attaches the element type that the return type shows. -/
def inferredElement (env : Environment) (m : MemberContext) (a : Analysis) : Analysis :=
  if m.feature = .action ∧ !env.isCollectionType m.method.returnType.name then a
  else
    match shownElement? m.method.returnType with
    | some element => a.attachDerived (.typeOf element)
    | none => a

/-- The element type that the method declares, if it declares one. -/
def declaredElement? (m : Method) : Option (Except TypeRef.ParseError TypeRef) :=
  ((m.annotation? "TypeOf").bind Annotation.value?).map TypeRef.parse

/-- Attaches the declared element type, or else the inferred one. -/
def elementType (env : Environment) (m : MemberContext) (a : Analysis) : Analysis :=
  match declaredElement? m.method with
  | none => a.inferredElement env m
  | some (.ok element) => a.attach (.typeOf element)
  | some (.error e) => (a.report (.badElementType e)).inferredElement env m

/-- Whether a method takes one element of the collection. -/
def takesElement (element : Option TypeRef) (s : Method) : Bool :=
  match element with
  | some t => s.hasParameterTypes [t]
  | none => s.arity == 1

/-- Claims the method for a change of a collection; without one the change goes through the
accessor. -/
def collectionChange (m : MemberContext) (word : String) (accept : Method → Bool)
    (facet : Facet.Mutation → Facet.Data) (a : Analysis) : Analysis :=
  match a.take (m.supporting word) accept with
  | (some s, a) => a.attach (facet (.method s.name))
  | (none, a) => a.attachDerived (facet (.viaAccessor m.method.name))

/-- Claims the methods that add to, remove from and clear a collection. -/
def collectionChanges (m : MemberContext) (a : Analysis) : Analysis :=
  let accept := takesElement a.facets.elementType?
  ((a.collectionChange m "addTo" accept .collectionAddTo).collectionChange
    m "removeFrom" accept .collectionRemoveFrom).collectionChange
      m "clear" Method.hasNoParameters .collectionClear

/-- Attaches how an action is invoked. -/
def actionInvocation (m : MemberContext) (a : Analysis) : Analysis :=
  a.attach (.actionInvocation m.method.name m.method.returnType)

end Facetry.Analysis
