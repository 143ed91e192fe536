/-
# Configuration

A configuration binds keys to texts. A setting is a key read as a truth value,
a number or a list; a text that cannot be read so counts as the default. Keys
that no setting reads are kept and reported.

A configuration file is a JSON object of texts. It is searched for in a
directory and then in each directory above it.

Key definitions: `Configuration`, `Configuration.boolOr`, `Configuration.natOr`,
`Configuration.listAt`, `Configuration.ofText`, `Configuration.findFile?`.
-/
import Facetry.Files
import Facetry.Json.Reader
import Facetry.Json.Record
import Facetry.Json.Writer
import Facetry.Text.Blank
import Facetry.Text.Cut
import Facetry.Text.Numeral

namespace Facetry

open Text

/-- The bound keys. -/
structure Configuration where
  entries : NameMap String
  deriving DecidableEq

namespace Configuration

/-! ### The keys of the settings -/

/-- Whether collections filter out what is hidden. -/
def filterVisibilityKey : String := "metamodel.reflector.facet.filter_visibility"

/-- Whether the layout of a class may be loaded again. -/
def layoutReloadKey : String := "metamodel.reflector.layout.reload"

/-- The names of the factories to leave out. -/
def excludedFactoriesKey : String := "metamodel.reflector.facets.exclude"

/-- Whether supporting methods without a member are reported. -/
def orphanedMethodsKey : String := "metamodel.reflector.validator.orphaned_methods"

/-- Whether object types that several classes share are reported. -/
def uniqueObjectTypesKey : String := "metamodel.reflector.validator.unique_object_types"

/-- How many characters start a search. -/
def autoCompleteMinLengthKey : String := "metamodel.reflector.auto_complete.min_length"

/-- The names of the classes that are never introspected. -/
def ignoredClassesKey : String := "metamodel.substitutor.ignore"

/-- The keys of all settings. -/
def knownKeys : List String :=
  [filterVisibilityKey, layoutReloadKey, excludedFactoriesKey, orphanedMethodsKey,
   uniqueObjectTypesKey, autoCompleteMinLengthKey, ignoredClassesKey]

/-! ### Reading settings -/

/-- The configuration in which every setting has its default. -/
def empty : Configuration := ⟨.empty⟩

/-- The text bound to the key. -/
def get? (c : Configuration) (key : String) : Option String := c.entries.get? key

/-- The configuration with the key bound to a text. -/
def set (c : Configuration) (key value : String) : Configuration := ⟨c.entries.insert key value⟩

/-- The key read as a truth value, in any case. -/
def boolOr (c : Configuration) (key : String) (default : Bool) : Bool :=
  match (c.get? key).map fun v => (trimChars v.toList).map Char.toLower with
  | none => default
  | some v =>
    if v = "true".toList then true else if v = "false".toList then false else default

/-- The key read as a number of 32 bits. -/
def natOr (c : Configuration) (key : String) (default : Nat) : Nat :=
  match c.get? key with
  | none => default
  | some v => (readNatBelow? (Nat.pow 2 32) (trimChars v.toList)).getD default

/-- The key read as a list with commas between its items; blank items do not count. -/
def listAt (c : Configuration) (key : String) : List String :=
  match c.get? key with
  | none => []
  | some v =>
    (((cut ',' v.toList).map trimChars).filter (!·.isEmpty)).map String.ofList

/-- The keys that no setting reads. -/
def unknownKeys (c : Configuration) : List String := c.entries.keys.filter (!knownKeys.contains ·)

/-- Whether collections filter out what is hidden; they do unless told otherwise. -/
def filterVisibility (c : Configuration) : Bool := c.boolOr filterVisibilityKey true

/-- Whether the layout of a class may be loaded again. -/
def layoutReload (c : Configuration) : Bool := c.boolOr layoutReloadKey false

/-- The names of the factories to leave out. -/
def excludedFactories (c : Configuration) : List String := c.listAt excludedFactoriesKey

/-- Whether supporting methods without a member are reported. -/
def reportsOrphanedMethods (c : Configuration) : Bool := c.boolOr orphanedMethodsKey true

/-- Whether object types that several classes share are reported. -/
def reportsSharedObjectTypes (c : Configuration) : Bool := c.boolOr uniqueObjectTypesKey true

/-- How many characters start a search. -/
def autoCompleteMinLength (c : Configuration) : Nat := c.natOr autoCompleteMinLengthKey 1

/-- The names of the classes that are never introspected. -/
def ignoredClasses (c : Configuration) : List String := c.listAt ignoredClassesKey

/-! ### Files -/

/-- Why there is no configuration. -/
inductive Error
  | file (fault : Files.Fault)
  | notParsed
  | badProxyPattern (pattern : String)
  deriving DecidableEq, Repr

/-- The wording of an error. What the readers of JSON and of patterns have to say, which would follow
after a colon, is left out. -/
def Error.message : Error → String
  | file fault => "IO error: " ++ fault.message
  | notParsed => "Configuration error: Failed to parse config"
  | badProxyPattern pattern => "Configuration error: Invalid proxy pattern '" ++ pattern ++ "'"

/-- Reads a configuration. -/
def ofJson : Json.Reader Configuration := fun j =>
  (Json.readMap Json.readString j).map Configuration.mk

/-- The configuration as JSON. -/
def toJson (c : Configuration) : Json :=
  .object (c.entries.entries.map fun e => (e.1, .string e.2))

/-- The configuration that the text of a file spells. -/
def ofText (text : String) : Except Error Configuration :=
  match Json.parse? text with
  | none => .error .notParsed
  | some j => (ofJson j).mapError fun _ => .notParsed

/-- The text of the configuration's file. -/
def fileText (c : Configuration) : String := c.toJson.pretty

/-- The configuration in a file. -/
def load {m : Type → Type} [Monad m] (files : Files m) (path : String) :
    m (Except Error Configuration) := do
  match ← files.read path with
  | .error fault => return .error (.file fault)
  | .ok text => return ofText text

/-- The directory, and the directories above it, as long as `fuel` lasts. -/
def ancestorsWithin : Nat → String → List String
  | 0, path => [path]
  | fuel + 1, path =>
    match Path.parent? path with
    | none => [path]
    | some parent => path :: ancestorsWithin fuel parent

/-- The directory and the directories above it. -/
def ancestors (path : String) : List String := ancestorsWithin path.length path

/-- The first of the paths that is present. -/
def firstPresent? {m : Type → Type} [Monad m] (files : Files m) : List String → m (Option String)
  | [] => return none
  | path :: rest => do
    if ← files.isPresent path then return some path else firstPresent? files rest

/-- The nearest configuration file in the directory or above it; in each directory the hidden
one comes first. -/
def findFile? {m : Type → Type} [Monad m] (files : Files m) (start : String) : m (Option String) :=
  firstPresent? files ((ancestors start).flatMap fun directory =>
    [Path.join directory ".metamodel.json", Path.join directory "metamodel.json"])

end Configuration
end Facetry
