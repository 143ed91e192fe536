/-
# Kinds of facets

A facet is one trait of an element, and its kind says which. An element has at
most one facet of each kind; facets are listed in the order of the kinds here.

Key definitions: `Facet.Kind`, `Facet.Kind.all`.
-/
namespace Facetry

/-- The kinds of facets, in their order. -/
inductive Facet.Kind
  | objectSpecId
  | title
  | iconName
  | named
  | describedAs
  | plural
  | immutable
  | notPersistable
  | value
  | collectionType
  | typeOf
  | grid
  | memberOrder
  | hidden
  | disabled
  | hideForContext
  | disableForContext
  | mandatory
  | maxLength
  | regEx
  | propertyAccessor
  | propertySetter
  | propertyClear
  | propertyDefault
  | propertyChoices
  | autoComplete
  | propertyValidate
  | collectionAccessor
  | collectionAddTo
  | collectionRemoveFrom
  | collectionClear
  | collectionValidateAddTo
  | collectionValidateRemoveFrom
  | filterVisibility
  | actionInvocation
  | actionValidate
  | actionParameterChoices
  | actionParameterDefaults
  | actionParameterAutoComplete
  deriving DecidableEq, Repr

namespace Facet.Kind

/-- All kinds, in order. -/
def all : List Kind :=
  [objectSpecId, title, iconName, named, describedAs, plural, immutable, notPersistable,
   value, collectionType, typeOf, grid, memberOrder, hidden, disabled, hideForContext,
   disableForContext, mandatory, maxLength, regEx, propertyAccessor, propertySetter,
   propertyClear, propertyDefault, propertyChoices, autoComplete, propertyValidate,
   collectionAccessor, collectionAddTo, collectionRemoveFrom, collectionClear,
   collectionValidateAddTo, collectionValidateRemoveFrom, filterVisibility, actionInvocation,
   actionValidate, actionParameterChoices, actionParameterDefaults,
   actionParameterAutoComplete]

/-- The name in data. -/
def name : Kind → String
  | objectSpecId => "object_spec_id"
  | title => "title"
  | iconName => "icon_name"
  | named => "named"
  | describedAs => "described_as"
  | plural => "plural"
  | immutable => "immutable"
  | notPersistable => "not_persistable"
  | value => "value"
  | collectionType => "collection_type"
  | typeOf => "type_of"
  | grid => "grid"
  | memberOrder => "member_order"
  | hidden => "hidden"
  | disabled => "disabled"
  | hideForContext => "hide_for_context"
  | disableForContext => "disable_for_context"
  | mandatory => "mandatory"
  | maxLength => "max_length"
  | regEx => "reg_ex"
  | propertyAccessor => "property_accessor"
  | propertySetter => "property_setter"
  | propertyClear => "property_clear"
  | propertyDefault => "property_default"
  | propertyChoices => "property_choices"
  | autoComplete => "auto_complete"
  | propertyValidate => "property_validate"
  | collectionAccessor => "collection_accessor"
  | collectionAddTo => "collection_add_to"
  | collectionRemoveFrom => "collection_remove_from"
  | collectionClear => "collection_clear"
  | collectionValidateAddTo => "collection_validate_add_to"
  | collectionValidateRemoveFrom => "collection_validate_remove_from"
  | filterVisibility => "filter_visibility"
  | actionInvocation => "action_invocation"
  | actionValidate => "action_validate"
  | actionParameterChoices => "action_parameter_choices"
  | actionParameterDefaults => "action_parameter_defaults"
  | actionParameterAutoComplete => "action_parameter_auto_complete"

/-- The name in texts for people. -/
def label : Kind → String
  | objectSpecId => "ObjectSpecId"
  | title => "Title"
  | iconName => "IconName"
  | named => "Named"
  | describedAs => "DescribedAs"
  | plural => "Plural"
  | immutable => "Immutable"
  | notPersistable => "NotPersistable"
  | value => "Value"
  | collectionType => "CollectionType"
  | typeOf => "TypeOf"
  | grid => "Grid"
  | memberOrder => "MemberOrder"
  | hidden => "Hidden"
  | disabled => "Disabled"
  | hideForContext => "HideForContext"
  | disableForContext => "DisableForContext"
  | mandatory => "Mandatory"
  | maxLength => "MaxLength"
  | regEx => "RegEx"
  | propertyAccessor => "PropertyAccessor"
  | propertySetter => "PropertySetter"
  | propertyClear => "PropertyClear"
  | propertyDefault => "PropertyDefault"
  | propertyChoices => "PropertyChoices"
  | autoComplete => "AutoComplete"
  | propertyValidate => "PropertyValidate"
  | collectionAccessor => "CollectionAccessor"
  | collectionAddTo => "CollectionAddTo"
  | collectionRemoveFrom => "CollectionRemoveFrom"
  | collectionClear => "CollectionClear"
  | collectionValidateAddTo => "CollectionValidateAddTo"
  | collectionValidateRemoveFrom => "CollectionValidateRemoveFrom"
  | filterVisibility => "FilterVisibility"
  | actionInvocation => "ActionInvocation"
  | actionValidate => "ActionValidate"
  | actionParameterChoices => "ActionParameterChoices"
  | actionParameterDefaults => "ActionParameterDefaults"
  | actionParameterAutoComplete => "ActionParameterAutoComplete"

/-- The kind with a name in data. -/
def ofName? (s : String) : Option Kind := all.find? (·.name == s)

end Facet.Kind
end Facetry
