/-
# Introspection

Introspection finds the members of a class and attaches their facets. Every
method of the class is put to one use, in this order:

* methods that are static, not public or programmatic take no part;
* factories claim the methods that support the class itself;
* methods that every object has take no part either;
* accessors are claimed, all of them before the first is analysed, so that no
  factory takes one for a supporting method; each is a property or a collection;
* the methods whose name is not reserved are actions, unless a factory has
  claimed them in the meantime as support for another member;
* what is left is orphaned: it looks like support, but there is nothing that it
  supports.

Key definitions: `Introspection.ofClass`, `Introspection.specification`.
-/
import Facetry.ProgrammingModel
import Facetry.Specification

namespace Facetry

/-- What introspection found in a class: the members with the places of their methods, and the
state in which the last analysis ended. -/
structure Introspection where
  classFacets : FacetHolder
  associations : List (Nat × Member)
  actions : List (Nat × Member)
  last : Analysis

namespace Introspection

/-! ### What methods are for -/

/-- The methods that every object has. -/
def frameworkMethods : List String :=
  ["toString", "hashCode", "equals", "getClass", "clone", "finalize", "wait", "notify",
   "notifyAll"]

/-- Whether every object has a method of the name. -/
def isFrameworkMethod (m : Method) : Bool := frameworkMethods.contains m.name

/-- Whether the method takes no part. -/
def isExcluded (m : Method) : Bool := m.isStatic || !m.isPublic || m.isAnnotated "Programmatic"

/-- The names of the types of truth values. -/
def truthTypes : List String := ["boolean", "java.lang.Boolean"]

/-- Whether the method reads a property or a collection: `get` and something returned, or `is`
and a truth value returned. -/
def isAccessor (m : Method) : Bool :=
  m.hasNoParameters &&
    if Naming.startsWith "get" m.name then m.returnsValue
    else Naming.startsWith "is" m.name && truthTypes.contains m.returnType.name

/-! ### Members -/

/-- The parameters from the place `index` on, each with its facets. -/
def parametersFrom (model : ProgrammingModel) (env : Environment) (m : MemberContext) :
    Nat → List Parameter → Analysis → List ActionParameter × Analysis
  | _, [], a => ([], a)
  | index, p :: rest, a =>
    let a := model.analyseParameter env ⟨m.owner, m.method, m.id, index, p⟩
      (a.turnTo (.ofParameter m.owner.name m.id index))
    let (others, last) := parametersFrom model env m (index + 1) rest a
    (⟨index, p.type, p.name, a.facets⟩ :: others, last)

/-- The member with its facets; only actions have parameters. -/
def member (model : ProgrammingModel) (env : Environment) (m : MemberContext) (a : Analysis) :
    Member × Analysis :=
  let a := model.analyseMember env m (a.turnTo (.ofMember m.owner.name m.id))
  let parameters := if m.feature = .action then m.method.parameters else []
  let (found, last) := parametersFrom model env m 0 parameters a
  (⟨m.id, m.feature, m.method.name, m.method.returnType, a.facets, found⟩, last)

/-- Whether an accessor reads a property or a collection. -/
def featureOf (env : Environment) (accessor : Method) : Feature :=
  if env.isCollectionType accessor.returnType.name then .collection else .property

/-- The members that the accessors read. -/
def associationsOf (model : ProgrammingModel) (env : Environment) (c : Class)
    (classFacets : FacetHolder) : List (Nat × Method) → Analysis → List (Nat × Member) × Analysis
  | [], a => ([], a)
  | (index, accessor) :: rest, a =>
    match Naming.propertyOf? accessor.name with
    | none => associationsOf model env c classFacets rest a
    | some id =>
      let (found, a) :=
        member model env ⟨c, classFacets, accessor, id, featureOf env accessor⟩ a
      let (others, last) := associationsOf model env c classFacets rest a
      ((index, found) :: others, last)

/-- The members that are actions: each candidate that is still unclaimed when its turn comes. -/
def actionsOf (model : ProgrammingModel) (env : Environment) (c : Class)
    (classFacets : FacetHolder) : List (Nat × Method) → Analysis → List (Nat × Member) × Analysis
  | [], a => ([], a)
  | (index, method) :: rest, a =>
    if a.pool.contains index then
      let (found, a) := member model env ⟨c, classFacets, method, method.name, .action⟩
        { a with pool := a.pool.claim index }
      let (others, last) := actionsOf model env c classFacets rest a
      ((index, found) :: others, last)
    else actionsOf model env c classFacets rest a

/-! ### Classes -/

/-- The analysis of the class itself, ending with what can be members or their support. -/
def analyseClass (model : ProgrammingModel) (env : Environment) (c : Class) : Analysis :=
  let a := model.analyseClass env c
    ⟨.empty (.ofClass c.name), (MethodPool.ofClass c).discard isExcluded, []⟩
  { a with pool := a.pool.discard isFrameworkMethod }

/-- The introspection of a class. -/
def ofClass (model : ProgrammingModel) (env : Environment) (c : Class) : Introspection :=
  let a := analyseClass model env c
  let classFacets := a.facets
  let accessors := a.pool.unclaimed.filter fun e => isAccessor e.2
  let a := { a with pool := a.pool.discard isAccessor }
  let (associations, a) := associationsOf model env c classFacets accessors a
  let candidates := a.pool.unclaimed.filter fun e => !model.isReserved e.2.name
  let (actions, last) := actionsOf model env c classFacets candidates a
  ⟨classFacets, associations, actions, last⟩

/-- The members of a kind, in their order. -/
def membersOf (members : List (Nat × Member)) (feature : Feature) : List Member :=
  Member.inOrder ((members.map (·.2)).filter (·.feature == feature))

/-- The specification that states what was found in the class. -/
def specification (i : Introspection) (c : Class) : Specification :=
  { Specification.placeholder c with
    state := .introspected
    facets := i.classFacets
    properties := membersOf i.associations .property
    collections := membersOf i.associations .collection
    actions := membersOf i.actions .action
    orphans := i.last.pool.methods.map (·.name)
    failures := i.last.failures }

end Introspection
end Facetry
