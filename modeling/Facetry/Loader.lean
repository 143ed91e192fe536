/-
# The loader

A loader builds specifications from a repository and keeps them in a cache.
Loading a class loads the classes that its specification mentions too. A class
that is begun is marked by its placeholder, and its specification is stored before
the others are loaded, so that a class which mentions itself, also in a circle, is
found and not introspected again.

Until it is initialized, a loader answers by class only. Initializing loads the
domain classes, validates, and builds the index of object types. From then on a
class can be built again, and the repository can be exchanged: in whole, or so
that only the classes that changed are built again.

Key definitions: `Loader`, `Loader.loadWithin`, `Loader.load`, `Loader.init`,
`Loader.rebuild`, `Loader.reloadClass`, `Loader.reloadChanged`.
-/
import Facetry.Cache
import Facetry.Introspection
import Facetry.Loader.Scope
import Facetry.Validator

namespace Facetry

/-- What determines how a class is described. -/
structure Loader.Settings where
  config : Configuration
  model : ProgrammingModel
  substitutor : Substitutor
  validators : List Validator
  services : Services

namespace Loader.Settings

/-- The standard settings for a configuration. -/
def ofConfiguration (config : Configuration) : Settings :=
  { config := config
    model := .ofConfiguration config
    substitutor := .ofConfiguration config
    validators := Validator.standard
    services := {} }

/-- The specification of a class of the repository by itself. -/
def describe (s : Settings) (r : Repository) (c : Class) : Specification :=
  (Introspection.ofClass s.model (.ofRepository s.config s.services r) c).specification c

/-- What the validators report about the cached specifications. -/
def validate (s : Settings) (cache : Cache) : List Failure :=
  Validator.report s.validators s.config cache.all

end Loader.Settings

/-- A specification whose referenced classes are loaded. -/
def Specification.completed (s : Specification) : Specification := { s with state := .complete }

/-- The classes at hand, and what is known of them. -/
structure Loader where
  settings : Loader.Settings
  repository : Repository
  cache : Cache
  failures : List Failure

namespace Loader

/-- A loader that has loaded nothing. -/
def new (settings : Settings) (repository : Repository) : Loader :=
  ⟨settings, repository, .empty, []⟩

/-! ### Loading -/

/-- The specification of the class that `requested` stands for, and the cache with all that had
to be loaded; at most `fuel` classes are begun before one of them is complete. -/
def loadWithin (s : Settings) (r : Repository) : Nat → String → Cache → Option Specification × Cache
  | 0, _, cache => (none, cache)
  | fuel + 1, requested, cache =>
    match s.substitutor.substitute r requested with
    | none => (none, cache)
    | some name =>
      match cache.get? name with
      | some spec => (some spec, cache)
      | none =>
        match r.get? name with
        | none => (none, cache)
        | some c =>
          match cache.getOrInsert (.placeholder c) with
          | (present, false, cache) => (some present, cache)
          | (_, true, cache) =>
            let spec := s.describe r c
            let cache := spec.referencedTypes.foldl
              (fun cache type => (loadWithin s r fuel type cache).2) (cache.store spec)
            (some spec.completed, cache.store spec.completed)

/-- The specification of the class that `requested` stands for, and the cache with all that had
to be loaded. Every class that is begun is one of the scope, and none is begun twice. -/
def loadInto (s : Settings) (r : Repository) (requested : String) (cache : Cache) :
    Option Specification × Cache :=
  loadWithin s r (scopeSize r requested + 1) requested cache

/-- The cache with all of the classes loaded. -/
def loadAll (s : Settings) (r : Repository) (names : List String) (cache : Cache) : Cache :=
  names.foldl (fun cache name => (loadInto s r name cache).2) cache

/-- The specification of the class that the name stands for; none if the class is skipped or not
known. -/
def load (l : Loader) (name : String) : Option Specification × Loader :=
  let (spec, cache) := loadInto l.settings l.repository name l.cache
  (spec, { l with cache := cache })

/-- The specification of a type, where there is one. -/
def resolve (l : Loader) (t : TypeRef) : Option Specification × Loader :=
  if t.isVoid then (none, l) else l.load t.name

/-! ### Looking up -/

/-- Whether object types can be looked up. -/
def isInitialized (l : Loader) : Bool := l.cache.isInitialized

/-- The cached specification of the class that the name stands for. -/
def lookup (l : Loader) (name : String) : Option Specification :=
  (l.settings.substitutor.substitute l.repository name).bind l.cache.get?

/-- The cached specification with the object type. -/
def withObjectType (l : Loader) (id : String) : Except Cache.Error (Option Specification) :=
  l.cache.withObjectType id

/-! ### The metamodel as a whole -/

/-- The cache that holds the domain classes of a repository, validated and with its index. -/
def assemble (s : Settings) (r : Repository) (cache : Cache) :
    Except Cache.Error (List Failure × Cache) := do
  let cache := loadAll s r r.domain cache
  return (s.validate cache, ← cache.buildIndex)

/-- Loads the domain classes, validates, and builds the index; once only. -/
def init (l : Loader) : Except Cache.Error Loader :=
  if l.isInitialized then .error .alreadyInitialized
  else do
    let (failures, cache) ← assemble l.settings l.repository l.cache
    return { l with cache := cache, failures := failures }

/-- Validates what is loaded. -/
def validate (l : Loader) : Loader := { l with failures := l.settings.validate l.cache }

/-- Builds everything again, from another repository. -/
def rebuild (l : Loader) (r : Repository) : Except Cache.Error Loader := do
  let (failures, cache) ← assemble l.settings r .empty
  return { l with repository := r, cache := cache, failures := failures }

/-! ### Reloading -/

/-- Forgets a class and loads it again. A class that now stands for another one stays
forgotten. -/
def reloadInto (s : Settings) (r : Repository) (name : String) (cache : Cache) :
    Option Specification × Cache :=
  let cache := cache.remove name
  match s.substitutor.substitute r name with
  | none => (none, cache)
  | some resolved =>
    match loadInto s r resolved cache with
    | (some spec, cache) => (some spec, if resolved = name then (cache.recache spec).2 else cache)
    | (none, cache) => (none, cache)

/-- Builds a class again. -/
def reloadClass (l : Loader) (name : String) :
    Except Cache.Error (Option Specification × Loader) :=
  if l.isInitialized then
    let (spec, cache) := reloadInto l.settings l.repository name l.cache.snapshot
    .ok (spec, { l with cache := cache })
  else .error .notInitialized

/-- What reloading did. -/
structure Changes where
  reloaded : List String
  evicted : List String
  added : List String
  deriving DecidableEq

/-- Whether reloading did nothing. -/
def Changes.isEmpty (c : Changes) : Bool :=
  c.reloaded.isEmpty && c.evicted.isEmpty && c.added.isEmpty

/-- What becomes of a cached specification under another repository. -/
inductive Fate
  | kept
  | reloaded
  | evicted
  deriving DecidableEq, Repr

/-- A specification is evicted if its class is unknown or stands for another one, and reloaded
if its class has changed. -/
def fate (s : Settings) (r : Repository) (spec : Specification) : Fate :=
  match r.get? spec.className with
  | none => .evicted
  | some c =>
    if s.substitutor.substitute r spec.className ≠ some spec.className then .evicted
    else if c.fingerprint ≠ spec.fingerprint then .reloaded
    else .kept

/-- The classes in the cache that have a fate. -/
def classesWith (s : Settings) (r : Repository) (cache : Cache) (f : Fate) : List String :=
  (cache.all.filter fun spec => fate s r spec == f).map (·.className)

/-- What has to be done for another repository. A domain class is added if it was none before
and is not cached. -/
def changes (l : Loader) (r : Repository) : Changes :=
  { reloaded := classesWith l.settings r l.cache .reloaded
    evicted := classesWith l.settings r l.cache .evicted
    added := r.domain.filter fun name =>
      !l.repository.domain.contains name && !l.cache.contains name }

/-- Loads a class and stores it once more, which gives it its object type. -/
def addInto (s : Settings) (r : Repository) (name : String) (cache : Cache) : Cache :=
  match loadInto s r name cache with
  | (some spec, cache) => (cache.recache spec).2
  | (none, cache) => cache

/-- The cache after the changes. -/
def applyChanges (s : Settings) (r : Repository) (c : Changes) (cache : Cache) : Cache :=
  let cache := c.evicted.foldl Cache.remove cache
  let cache := c.reloaded.foldl (fun cache name => (reloadInto s r name cache).2) cache
  c.added.foldl (fun cache name => addInto s r name cache) cache

/-- Exchanges the repository and builds only the classes again that changed. -/
def reloadChanged (l : Loader) (r : Repository) : Except Cache.Error (Changes × Loader) :=
  if l.isInitialized then
    let c := l.changes r
    .ok (c, { l with repository := r, cache := applyChanges l.settings r c l.cache.snapshot })
  else .error .notInitialized

end Loader
end Facetry
