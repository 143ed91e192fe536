/-
# What facets say

The payload of a facet, with one form for each kind, and the text that shows
it to people.

Key definitions: `Facet.Data`, `Facet.Data.kind`, `Facet.Data.sameAs`, `Facet.Data.detail`.
-/
import Facetry.Facet.Kind
import Facetry.Json.Record
import Facetry.Pattern.Reader
import Facetry.TypeRef
import Facetry.Value

namespace Facetry
namespace Facet

open Text

/-- Where the title of an object comes from. -/
inductive TitleSource
  | method (name : String)
  | annotated (members : List String)
  | toStringMethod
  | valueKind (kind : Value.Kind)
  deriving DecidableEq

/-- Where an element is hidden. -/
inductive Where
  | everywhere
  | objectForms
  | allTables
  deriving DecidableEq, Repr

/-- How a property is changed. -/
inductive Setter
  | modifyMethod (name : String)
  | setter (name : String)
  deriving DecidableEq

/-- How a property is cleared: by a method, or by setting it to nothing. -/
inductive Clearing
  | method (name : String)
  | setterWithNull (name : String)
  deriving DecidableEq

/-- How a collection is changed: by a method, or in the collection that the accessor returns. -/
inductive Mutation
  | method (name : String)
  | viaAccessor (name : String)
  deriving DecidableEq

/-- A pattern that texts must match. -/
structure TextRule where
  pattern : String
  caseSensitive : Bool
  deriving DecidableEq

/-- The layout of a class. -/
structure Grid where
  source : String
  layout : Json
  deriving DecidableEq

/-- Reads a layout. -/
def Grid.ofJson : Json.Reader Grid := fun j => do
  let r ← Json.fullRecord ["source", "layout"] j
  return {
    source := ← r.required "source" Json.readString
    layout := ← r.required "layout" Json.readAny }

/-- What a facet says, with one form for each kind. -/
inductive Data
  | objectSpecId (id : String)
  | title (source : TitleSource)
  | iconName (method : String)
  | named (text : String)
  | describedAs (text : String)
  | plural (text : String)
  | immutable
  | notPersistable
  | value (kind : Value.Kind)
  | collectionType
  | typeOf (element : TypeRef)
  | grid (layout : Grid) (reloadable : Bool)
  | memberOrder (sequence : String) (group : Option String)
  | hidden (place : Where)
  | disabled (reason : Option String)
  | hideForContext (method : String)
  | disableForContext (method : String)
  | mandatory (required : Bool)
  | maxLength (length : Nat)
  | regEx (rule : TextRule)
  | propertyAccessor (method : String)
  | propertySetter (setter : Setter)
  | propertyClear (clearing : Clearing)
  | propertyDefault (method : String)
  | propertyChoices (method : String)
  | autoComplete (method : String) (minLength : Nat)
  | propertyValidate (method : String)
  | collectionAccessor (method : String)
  | collectionAddTo (mutation : Mutation)
  | collectionRemoveFrom (mutation : Mutation)
  | collectionClear (mutation : Mutation)
  | collectionValidateAddTo (method : String)
  | collectionValidateRemoveFrom (method : String)
  | filterVisibility
  | actionInvocation (method : String) (returnType : TypeRef)
  | actionValidate (method : String)
  | actionParameterChoices (method : String)
  | actionParameterDefaults (method : String)
  | actionParameterAutoComplete (method : String) (minLength : Nat)
  deriving DecidableEq

/-- The kind of a facet with the payload. -/
@[simp] def Data.kind : Data → Kind
  | objectSpecId _ => .objectSpecId
  | title _ => .title
  | iconName _ => .iconName
  | named _ => .named
  | describedAs _ => .describedAs
  | plural _ => .plural
  | immutable => .immutable
  | notPersistable => .notPersistable
  | value _ => .value
  | collectionType => .collectionType
  | typeOf _ => .typeOf
  | grid _ _ => .grid
  | memberOrder _ _ => .memberOrder
  | hidden _ => .hidden
  | disabled _ => .disabled
  | hideForContext _ => .hideForContext
  | disableForContext _ => .disableForContext
  | mandatory _ => .mandatory
  | maxLength _ => .maxLength
  | regEx _ => .regEx
  | propertyAccessor _ => .propertyAccessor
  | propertySetter _ => .propertySetter
  | propertyClear _ => .propertyClear
  | propertyDefault _ => .propertyDefault
  | propertyChoices _ => .propertyChoices
  | autoComplete _ _ => .autoComplete
  | propertyValidate _ => .propertyValidate
  | collectionAccessor _ => .collectionAccessor
  | collectionAddTo _ => .collectionAddTo
  | collectionRemoveFrom _ => .collectionRemoveFrom
  | collectionClear _ => .collectionClear
  | collectionValidateAddTo _ => .collectionValidateAddTo
  | collectionValidateRemoveFrom _ => .collectionValidateRemoveFrom
  | filterVisibility => .filterVisibility
  | actionInvocation _ _ => .actionInvocation
  | actionValidate _ => .actionValidate
  | actionParameterChoices _ => .actionParameterChoices
  | actionParameterDefaults _ => .actionParameterDefaults
  | actionParameterAutoComplete _ _ => .actionParameterAutoComplete

/-- Whether two payloads say the same. -/
def Data.sameAs : Data → Data → Bool
  | grid a reloadable, grid b reloadable' =>
    a.source == b.source && a.layout.sameAs b.layout && reloadable == reloadable'
  | a, b => a == b

/-! ### Choices -/

/-- The places with their names. -/
def Where.choices : List (String × Where) :=
  [("everywhere", .everywhere), ("object_forms", .objectForms), ("all_tables", .allTables)]

/-- The place that a text names. -/
def Where.ofText? (text : String) : Option Where := (Variant.read choices text).toOption

/-- The name of a place in data. -/
def Where.name : Where → String
  | everywhere => "everywhere"
  | objectForms => "object_forms"
  | allTables => "all_tables"

/-- The name of a place in texts for people. -/
def Where.label : Where → String
  | everywhere => "Everywhere"
  | objectForms => "ObjectForms"
  | allTables => "AllTables"

/-! ### Rules for texts -/

namespace TextRule

/-- The pattern that the rule compares texts with; case is ignored by a flag in front. -/
def pattern? (r : TextRule) : Option Pattern :=
  Pattern.read? (if r.caseSensitive then r.pattern else "(?i)" ++ r.pattern)

/-- The rule with the pattern, if it is one. -/
def ofText? (pattern : String) (caseSensitive : Bool) : Option TextRule :=
  let rule : TextRule := ⟨pattern, caseSensitive⟩
  rule.pattern?.map fun _ => rule

/-- Whether a part of the text matches the pattern. -/
def accepts (r : TextRule) (text : String) : Bool := r.pattern?.any fun p => p.matchesIn text

/-- Which of the texts the rule accepts. -/
def judge (r : TextRule) (texts : List String) : List Bool :=
  let p? := r.pattern?
  texts.map fun text => p?.any fun p => p.matchesIn text

end TextRule

/-! ### Texts for people -/

/-- A mention of a method. -/
def viaMethod (name : String) : String := "via " ++ name ++ "()"

/-- The text between double quotes. -/
def inQuotes (text : String) : String := "\"" ++ text ++ "\""

/-- The text that shows where a title comes from. -/
def TitleSource.detail : TitleSource → String
  | method name => viaMethod name
  | annotated members => "via @Title on " ++ ", ".intercalate members
  | toStringMethod => "via toString()"
  | valueKind kind => "via " ++ kind.name ++ " semantics"

/-- The text that shows how a collection is changed. -/
def Mutation.detail : Mutation → String
  | method name => viaMethod name
  | viaAccessor name => "via collection from " ++ name ++ "()"

/-- The text that shows an auto-complete method. -/
def searchDetail (method : String) (minLength : Nat) : String :=
  viaMethod method ++ " (min length " ++ natText minLength ++ ")"

/-- The text that shows the payload; a mere mark shows nothing. -/
def Data.detail : Data → String
  | objectSpecId id => id
  | title source => source.detail
  | named text => inQuotes text
  | describedAs text => inQuotes text
  | plural text => inQuotes text
  | immutable => ""
  | notPersistable => ""
  | collectionType => ""
  | filterVisibility => ""
  | value kind => kind.name
  | typeOf element => element.text
  | grid layout reloadable => "from " ++ layout.source ++ if reloadable then " (reloadable)" else ""
  | memberOrder sequence none => sequence
  | memberOrder sequence (some group) => sequence ++ " in " ++ group
  | hidden place => place.label
  | disabled none => ""
  | disabled (some reason) => inQuotes reason
  | mandatory true => "true"
  | mandatory false => "false"
  | maxLength length => natText length
  | regEx rule => "/" ++ rule.pattern ++ "/"
  | propertySetter (.modifyMethod name) => viaMethod name
  | propertySetter (.setter name) => viaMethod name
  | propertyClear (.method name) => viaMethod name
  | propertyClear (.setterWithNull name) => "via " ++ name ++ "(null)"
  | collectionAddTo mutation => mutation.detail
  | collectionRemoveFrom mutation => mutation.detail
  | collectionClear mutation => mutation.detail
  | autoComplete method minLength => searchDetail method minLength
  | actionParameterAutoComplete method minLength => searchDetail method minLength
  | actionInvocation method returnType => viaMethod method ++ " -> " ++ returnType.text
  | iconName method => viaMethod method
  | hideForContext method => viaMethod method
  | disableForContext method => viaMethod method
  | propertyAccessor method => viaMethod method
  | propertyDefault method => viaMethod method
  | propertyChoices method => viaMethod method
  | propertyValidate method => viaMethod method
  | collectionAccessor method => viaMethod method
  | collectionValidateAddTo method => viaMethod method
  | collectionValidateRemoveFrom method => viaMethod method
  | actionValidate method => viaMethod method
  | actionParameterChoices method => viaMethod method
  | actionParameterDefaults method => viaMethod method

end Facet
end Facetry
