/-
# Rules for entries

What may be entered into a property or for a parameter: whether an entry is
needed, how long it may be, which pattern a text must match; and the methods
that validate a change. Everything is mandatory unless it is declared
optional, which a primitive cannot be.

Key definitions: `Analysis.mandatory`, `Analysis.maxLength`, `Analysis.pattern`,
`Analysis.propertyValidation`, `Analysis.collectionValidation`,
`Analysis.actionValidation`.
-/
import Facetry.Analysis

namespace Facetry.Analysis

/-- The class of texts. -/
def textClass : String := "java.lang.String"

/-- Attaches whether an entry is needed. -/
def mandatory (env : Environment) (annotations : List Annotation) (type : TypeRef)
    (a : Analysis) : Analysis :=
  if Annotation.isPresent annotations "Optional" then
    if env.isPrimitive type.name then
      (a.attachDerived (.mandatory true)).report (.optionalPrimitive type)
    else a.attach (.mandatory false)
  else if Annotation.isPresent annotations "Mandatory" then a.attach (.mandatory true)
  else a.attachDerived (.mandatory true)

/-- Attaches the largest length of an entry, a number of 32 bits. -/
def maxLength (annotations : List Annotation) (a : Analysis) : Analysis :=
  match Annotation.find? annotations "MaxLength" with
  | none => a
  | some mark =>
    match (mark.natAttr? "value").filter (· < Nat.pow 2 32) with
    | some length => a.attach (.maxLength length)
    | none => a.report .badMaxLength

/-- Attaches the pattern that a text must match. -/
def pattern (annotations : List Annotation) (type : TypeRef) (a : Analysis) : Analysis :=
  if type.name = textClass then
    match Annotation.find? annotations "RegEx" with
    | none => a
    | some mark =>
      match (mark.textAttr? "validation").or mark.value? with
      | none => a
      | some text =>
        match Facet.TextRule.ofText? text ((mark.boolAttr? "caseSensitive").getD true) with
        | some rule => a.attach (.regEx rule)
        | none => a.report (.badPattern text)
  else a

/-- Claims the method that validates a new value of a property. -/
def propertyValidation (m : MemberContext) (a : Analysis) : Analysis :=
  a.attachClaimed (m.supporting "validate") (·.hasParameterTypes [m.method.returnType])
    fun s => .propertyValidate s.name

/-- Whether a method takes one parameter and returns something. -/
def validatesOne (s : Method) : Bool := s.arity == 1 && !s.isVoid

/-- Claims the methods that validate adding to and removing from a collection. -/
def collectionValidation (m : MemberContext) (a : Analysis) : Analysis :=
  (a.attachClaimed (m.supporting "validateAddTo") validatesOne
    fun s => .collectionValidateAddTo s.name).attachClaimed
      (m.supporting "validateRemoveFrom") validatesOne
      fun s => .collectionValidateRemoveFrom s.name

/-- Claims the method that validates the arguments of an action. -/
def actionValidation (m : MemberContext) (a : Analysis) : Analysis :=
  a.attachClaimed (m.supporting "validate")
    (fun s => s.hasParameterTypes (m.method.parameters.map (·.type)) && !s.isVoid)
    fun s => .actionValidate s.name

end Facetry.Analysis
