/-
# Registries

A registry is a list of entries in the order in which they are used. An entry is known by a key. It is
put in the place of another with its key, or moved, or taken out; a place is told by the name of the
entry that stands there.

Key definitions: `Registry.put`, `Registry.putBefore`, `Registry.putLast`, `Registry.drop`.
-/
namespace Facetry.Registry

variable {α κ : Type} [DecidableEq κ] (key : α → κ) (name : α → String)

/-- The entries with `x` in the place of the first with its key, or at the end if there is none. -/
def put (x : α) : List α → List α
  | [] => [x]
  | y :: rest => if key y = key x then x :: rest else y :: put x rest

/-- The entries that are not known by `k`. -/
def drop (k : κ) (entries : List α) : List α := entries.filter (key · != k)

/-- The entries with `x` before the first called `place`, or at the end if there is none. -/
def insertBefore (place : String) (x : α) : List α → List α
  | [] => [x]
  | y :: rest => if name y = place then x :: y :: rest else y :: insertBefore place x rest

/-- The entries with `x`, and no other with its key, before the first called `place`, or at the end. -/
def putBefore (place : String) (x : α) (entries : List α) : List α :=
  insertBefore name place x (drop key (key x) entries)

/-- The entries with `x`, and no other with its key, at the end. -/
def putLast (x : α) (entries : List α) : List α := drop key (key x) entries ++ [x]

end Facetry.Registry
