/-
# Validation

A validator looks at all specifications together and reports what is wrong
with them, in a fixed order. Two of the validators can be switched off.

Key definitions: `Validator`, `Validator.failures`, `Validator.report`, `Validator.repeated`.
-/
import Facetry.Configuration
import Facetry.Specification

namespace Facetry

/-- A check of all specifications. -/
inductive Validator
  | deferredFailures
  | duplicateMembers
  | orphanedMethods
  | sharedObjectTypes
  deriving DecidableEq, Repr

namespace Validator

/-- All validators, in their standard order. -/
def standard : List Validator :=
  [deferredFailures, duplicateMembers, orphanedMethods, sharedObjectTypes]

/-- The name of a validator. -/
def name : Validator → String
  | deferredFailures => "deferred-failures"
  | duplicateMembers => "duplicate-members"
  | orphanedMethods => "orphaned-supporting-methods"
  | sharedObjectTypes => "unique-object-types"

/-- The validator with a name. -/
def ofName? (s : String) : Option Validator := standard.find? (·.name == s)

/-- The names that occur more than once, in increasing order, each with all that it is paired
with. -/
def repeated (pairs : List (String × String)) : List (String × List String) :=
  ((NameMap.ofList pairs).keys.map fun name =>
    (name, (pairs.filter (·.1 == name)).map (·.2))).filter fun group => group.2.length > 1

/-- A failure for each id that several members of the class share. -/
def duplicatesOf (s : Specification) : List Failure :=
  (repeated (s.members.map fun m => (m.id, m.method))).map fun group =>
    ⟨s.identifier, .duplicateMember group.1 group.2⟩

/-- A failure for each supporting method of the class that supports nothing. -/
def orphansOf (s : Specification) : List Failure :=
  s.orphans.map fun method => ⟨s.identifier, .orphanedMethod method⟩

/-- A failure for each object type that several classes share, of the first of them by name. -/
def sharedObjectTypesOf (specifications : List Specification) : List Failure :=
  (repeated (specifications.filterMap fun s => s.objectType?.map (·, s.className))).filterMap
    fun group =>
      let classes := group.2.mergeSort (· ≤ ·)
      classes.head?.map fun first => ⟨.ofClass first, .sharedObjectType group.1 classes⟩

/-- What a validator reports. -/
def failures (config : Configuration) (specifications : List Specification) :
    Validator → List Failure
  | deferredFailures => specifications.flatMap (·.failures)
  | duplicateMembers => specifications.flatMap duplicatesOf
  | orphanedMethods =>
    if config.reportsOrphanedMethods then specifications.flatMap orphansOf else []
  | sharedObjectTypes =>
    if config.reportsSharedObjectTypes then sharedObjectTypesOf specifications else []

/-- What the validators report, one after the other. -/
def report (validators : List Validator) (config : Configuration)
    (specifications : List Specification) : List Failure :=
  validators.flatMap (failures config specifications)

end Validator
end Facetry
