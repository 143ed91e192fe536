/-
# How elements are presented

Names and descriptions come from annotations and are localized. The object
type is the stable name of a class in data: a declared one that is not blank,
or else the name of the class, unless it is anonymous. Icons and layouts belong
to classes.

Key definitions: `Analysis.localized`, `Analysis.objectType`, `Analysis.iconName`,
`Analysis.layout`.
-/
import Facetry.Analysis

namespace Facetry.Analysis

open Facet (Data)

/-- Attaches the localized value of an annotation with the simple name. -/
def localized (env : Environment) (owner : Class) (annotations : List Annotation)
    (simpleName : String) (facet : String → Data) (a : Analysis) : Analysis :=
  match Annotation.valueIn? annotations simpleName with
  | some text => a.attach (facet (env.services.localize owner.name text))
  | none => a

/-- The object type that the annotations declare, without the white space around it. -/
def declaredObjectType? (c : Class) : Option String :=
  ((((c.annotation? "ObjectType").bind Annotation.value?).or
    ((c.annotation? "DomainObject").bind (·.textAttr? "objectType"))).map Text.trim).filter
      (!·.isEmpty)

/-- Attaches the object type. -/
def objectType (c : Class) (a : Analysis) : Analysis :=
  match declaredObjectType? c with
  | some id => a.attach (.objectSpecId id)
  | none => if c.isAnonymous then a else a.attachDerived (.objectSpecId c.name)

/-- Claims the method that names the icon. -/
def iconName (a : Analysis) : Analysis :=
  a.attachClaimed "iconName" Method.isGetter fun m => .iconName m.name

/-- Attaches the layout that the grid service knows. -/
def layout (env : Environment) (c : Class) (a : Analysis) : Analysis :=
  match env.services.grid.bind fun grid => grid c with
  | some layout => a.attach (.grid layout env.config.layoutReload)
  | none => a

end Facetry.Analysis
