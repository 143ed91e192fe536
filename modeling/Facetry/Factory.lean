/-
# Facet factories

A factory is one unit of analysis. It has a name, by which a configuration can
leave it out, the features it looks at, and the words that it reserves: a
method whose name starts with a reserved word supports a member and is never an
action. The factories are listed in their standard order.

Key definitions: `Factory`, `Factory.standard`, `Factory.name`, `Factory.features`,
`Factory.words`, `Factory.onClass`, `Factory.onMember`, `Factory.onParameter`.
-/
import Facetry.Analysis.Editing
import Facetry.Analysis.Nature
import Facetry.Analysis.Presentation
import Facetry.Analysis.Suggestions
import Facetry.Analysis.Visibility

namespace Facetry

/-- A unit of analysis. -/
inductive Factory
  | named
  | describedAs
  | plural
  | objectSpecId
  | value
  | collectionType
  | immutable
  | notPersistable
  | titleAnnotation
  | titleMethod
  | iconName
  | grid
  | memberOrder
  | hiddenAnnotation
  | disabledAnnotation
  | hideMethod
  | disableMethod
  | propertyAccessor
  | propertySetAndClear
  | mandatory
  | maxLength
  | regex
  | propertyChoices
  | propertyAutoComplete
  | propertyDefault
  | propertyValidate
  | collectionAccessor
  | typeOf
  | collectionAddRemoveClear
  | collectionValidate
  | filterVisibility
  | actionInvocation
  | actionValidate
  | actionParameterChoices
  | actionParameterDefault
  | actionParameterAutoComplete
  deriving DecidableEq, Repr

namespace Factory

/-- All factories, in the order in which they run. -/
def standard : List Factory :=
  [named, describedAs, plural, objectSpecId, value, collectionType, immutable, notPersistable,
   titleAnnotation, titleMethod, iconName, grid, memberOrder, hiddenAnnotation,
   disabledAnnotation, hideMethod, disableMethod, propertyAccessor, propertySetAndClear,
   mandatory, maxLength, regex, propertyChoices, propertyAutoComplete, propertyDefault,
   propertyValidate, collectionAccessor, typeOf, collectionAddRemoveClear, collectionValidate,
   filterVisibility, actionInvocation, actionValidate, actionParameterChoices,
   actionParameterDefault, actionParameterAutoComplete]

/-- The name of a factory. -/
def name : Factory → String
  | named => "named"
  | describedAs => "described-as"
  | plural => "plural"
  | objectSpecId => "object-spec-id"
  | value => "value"
  | collectionType => "collection-type"
  | immutable => "immutable"
  | notPersistable => "not-persistable"
  | titleAnnotation => "title-annotation"
  | titleMethod => "title-method"
  | iconName => "icon-name"
  | grid => "grid"
  | memberOrder => "member-order"
  | hiddenAnnotation => "hidden-annotation"
  | disabledAnnotation => "disabled-annotation"
  | hideMethod => "hide-method"
  | disableMethod => "disable-method"
  | propertyAccessor => "property-accessor"
  | propertySetAndClear => "property-set-and-clear"
  | mandatory => "mandatory"
  | maxLength => "max-length"
  | regex => "regex"
  | propertyChoices => "property-choices"
  | propertyAutoComplete => "property-auto-complete"
  | propertyDefault => "property-default"
  | propertyValidate => "property-validate"
  | collectionAccessor => "collection-accessor"
  | typeOf => "type-of"
  | collectionAddRemoveClear => "collection-add-remove-clear"
  | collectionValidate => "collection-validate"
  | filterVisibility => "filter-visibility"
  | actionInvocation => "action-invocation"
  | actionValidate => "action-validate"
  | actionParameterChoices => "action-parameter-choices"
  | actionParameterDefault => "action-parameter-default"
  | actionParameterAutoComplete => "action-parameter-auto-complete"

/-- The factory with a name. -/
def ofName? (s : String) : Option Factory := standard.find? (·.name == s)

/-- The features that the factory looks at. -/
def features : Factory → List Feature
  | named | describedAs => Feature.all
  | plural | objectSpecId | value | collectionType | immutable | notPersistable
  | titleAnnotation | titleMethod | iconName | grid => [.object]
  | hiddenAnnotation => Feature.classLevel
  | memberOrder | disabledAnnotation | hideMethod | disableMethod => Feature.members
  | propertyAccessor | propertySetAndClear | propertyChoices | propertyAutoComplete
  | propertyDefault | propertyValidate => [.property]
  | mandatory | maxLength | regex => [.property, .parameter]
  | collectionAccessor | collectionAddRemoveClear | collectionValidate => [.collection]
  | typeOf | filterVisibility => [.collection, .action]
  | actionInvocation | actionValidate => [.action]
  | actionParameterChoices | actionParameterDefault | actionParameterAutoComplete => [.parameter]

/-- Whether the factory looks at the feature. -/
def appliesTo (f : Factory) (feature : Feature) : Bool := f.features.contains feature

/-- The words that the factory reserves. -/
def words : Factory → List String
  | hideMethod => ["hide"]
  | disableMethod => ["disable"]
  | propertyAccessor => ["get", "is"]
  | propertySetAndClear => ["set", "modify", "clear"]
  | propertyChoices => ["choices"]
  | propertyAutoComplete => ["autoComplete"]
  | propertyDefault => ["default"]
  | propertyValidate => ["validate"]
  | collectionAccessor => ["get"]
  | collectionAddRemoveClear => ["addTo", "removeFrom", "clear"]
  | collectionValidate => ["validateAddTo", "validateRemoveFrom"]
  | actionValidate => ["validate"]
  | actionParameterChoices => ["choices"]
  | actionParameterDefault => ["default"]
  | actionParameterAutoComplete => ["autoComplete"]
  | _ => []

/-- The analysis of a class. -/
def onClass (env : Environment) (c : Class) (a : Analysis) : Factory → Analysis
  | named => a.localized env c c.annotations "Named" .named
  | describedAs => a.localized env c c.annotations "DescribedAs" .describedAs
  | plural => a.localized env c c.annotations "Plural" .plural
  | objectSpecId => a.objectType c
  | value => a.valueClass c
  | collectionType => a.collectionClass env c
  | immutable => a.immutableClass c
  | notPersistable => a.notPersistableClass c
  | titleAnnotation => a.titleFromMembers
  | titleMethod => a.titleFromMethod
  | iconName => a.iconName
  | grid => a.layout env c
  | hiddenAnnotation => a.hidden c.annotations
  | _ => a

/-- The analysis of a member. -/
def onMember (env : Environment) (m : MemberContext) (a : Analysis) : Factory → Analysis
  | named => a.localized env m.owner m.method.annotations "Named" .named
  | describedAs => a.localized env m.owner m.method.annotations "DescribedAs" .describedAs
  | memberOrder => a.memberOrder m
  | hiddenAnnotation => a.hidden m.method.annotations
  | disabledAnnotation => a.disabled m
  | hideMethod => a.hideMethod m
  | disableMethod => a.disableMethod m
  | propertyAccessor => a.propertyAccessor m
  | propertySetAndClear => a.propertySetAndClear m
  | mandatory => a.mandatory env m.method.annotations m.method.returnType
  | maxLength => a.maxLength m.method.annotations
  | regex => a.pattern m.method.annotations m.method.returnType
  | propertyChoices => a.propertyChoices m
  | propertyAutoComplete => a.propertySearch env m
  | propertyDefault => a.propertyDefault m
  | propertyValidate => a.propertyValidation m
  | collectionAccessor => a.collectionAccessor m
  | typeOf => a.elementType env m
  | collectionAddRemoveClear => a.collectionChanges m
  | collectionValidate => a.collectionValidation m
  | filterVisibility => a.filtered env m
  | actionInvocation => a.actionInvocation m
  | actionValidate => a.actionValidation m
  | _ => a

/-- The analysis of a parameter. -/
def onParameter (env : Environment) (p : ParameterContext) (a : Analysis) : Factory → Analysis
  | named => a.localized env p.owner p.parameter.annotations "Named" .named
  | describedAs => a.localized env p.owner p.parameter.annotations "DescribedAs" .describedAs
  | mandatory => a.mandatory env p.parameter.annotations p.parameter.type
  | maxLength => a.maxLength p.parameter.annotations
  | regex => a.pattern p.parameter.annotations p.parameter.type
  | actionParameterChoices => a.parameterChoices p
  | actionParameterDefault => a.parameterDefault p
  | actionParameterAutoComplete => a.parameterSearch env p
  | _ => a

end Factory
end Facetry
