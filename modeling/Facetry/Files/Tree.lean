/-
# A directory tree in memory

Files and directories below one directory, which is the current one. A path is
followed part by part, and each part but the last must lead through a
directory. The directories above the current one are there, but nothing else in
them is, and an absolute path leads nowhere. Names and paths have a largest
length, in bytes.

Key definitions: `Files.Tree`, `Files.Tree.follow`, `Files.Tree.files`.
-/
import Facetry.Files
import Facetry.NameMap

namespace Facetry
namespace Files

/-- What stands at a path: a directory, or a file with its text. -/
inductive Node
  | directory
  | file (text : String)
  deriving DecidableEq, Repr

/-- The nodes below the current directory, by path. -/
structure Tree where
  nodes : NameMap Node

namespace Tree

/-- The tree with nothing in it. -/
def empty : Tree := ⟨.empty⟩

/-! ### Following paths -/

/-- The largest length of a name. -/
def maxNameLength : Nat := 255

/-- The largest length of a path. -/
def maxPathLength : Nat := 4095

/-- The path that leads through the steps. -/
def pathOf (steps : List String) : String := "/".intercalate steps

/-- Whether the steps lead straight up from the current directory, or nowhere else. -/
def isAbove (steps : List String) : Bool := steps.all (· == "..")

/-- What stands at the end of the steps. -/
def node? (t : Tree) (steps : List String) : Option Node :=
  if isAbove steps then some .directory else t.nodes.get? (pathOf steps)

/-- The steps after one more part, which is looked up in a directory. -/
def enter (steps : List String) (part : String) : Except Fault (List String) :=
  if part = "" ∨ part = "." then .ok steps
  else if part = ".." then .ok (if isAbove steps then steps ++ [part] else steps.dropLast)
  else if maxNameLength < part.utf8ByteSize then .error .nameTooLong
  else .ok (steps ++ [part])

/-- The steps from the current directory to where the parts lead from `steps`; only the last step
may lead to nothing. -/
def followFrom (t : Tree) (steps : List String) : List String → Except Fault (List String)
  | [] => .ok steps
  | part :: rest =>
    match t.node? steps with
    | none => .error .notFound
    | some (.file _) => .error .notDirectory
    | some .directory =>
      match enter steps part with
      | .ok steps => followFrom t steps rest
      | .error e => .error e

/-- The parts of a path that can be followed. -/
def partsOf (path : String) : Except Fault (List String) :=
  if path.toList.contains '\x00' then .error .nameWithNul
  else if maxPathLength < path.utf8ByteSize then .error .nameTooLong
  else
    match Path.parts path with
    | "" :: _ :: _ => .error .notFound
    | parts => .ok parts

/-- The steps from the current directory to where the path leads. -/
def follow (t : Tree) (path : String) : Except Fault (List String) := do
  t.followFrom [] (← partsOf path)

/-- The steps to the directory in which the last of the parts is looked up, and that part; slashes
at the end of a path do not count. -/
def followParent (t : Tree) (parts : List String) : Except Fault (List String × String) :=
  match parts.reverse.dropWhile (· = "") with
  | [] => .ok ([], ".")
  | last :: front => (t.followFrom [] (front.reverse ++ [""])).map (·, last)

/-! ### Reading -/

/-- The text of a file. -/
def read (t : Tree) (path : String) : Except Fault String := do
  match t.node? (← t.follow path) with
  | none => .error .notFound
  | some .directory => .error .isDirectory
  | some (.file text) => .ok text

/-- What the path leads to. -/
def at? (t : Tree) (path : String) : Option Node :=
  match t.follow path with
  | .ok steps => t.node? steps
  | .error _ => none

/-- Whether there is something at the path. -/
def isPresent (t : Tree) (path : String) : Bool := (t.at? path).isSome

/-- The tree as a file system. -/
def files (t : Tree) : Files Id := ⟨t.read, t.isPresent⟩

/-! ### Changing -/

/-- The tree with a file written. Its directory must be there, and a path that ends with a slash
is taken for a directory. -/
def write (t : Tree) (path text : String) : Except Fault Tree := do
  let parts ← partsOf path
  if parts.getLast? = some "" then
    let _ ← t.followParent parts
    .error .isDirectory
  else
    let steps ← t.followFrom [] parts
    match t.node? steps with
    | some .directory => .error .isDirectory
    | _ => .ok ⟨t.nodes.insert (pathOf steps) (.file text)⟩

/-- The tree without a file. -/
def remove (t : Tree) (path : String) : Except Fault Tree := do
  let steps ← t.follow path
  match t.node? steps with
  | none => .error .notFound
  | some .directory => .error .isDirectory
  | some (.file _) => .ok ⟨t.nodes.erase (pathOf steps)⟩

/-- The tree with one new directory. -/
def makeOne (t : Tree) (path : String) : Except Fault Tree := do
  let (steps, name) ← t.followParent (← partsOf path)
  let inner ← enter steps name
  if name = "." ∨ name = ".." ∨ (t.node? inner).isSome then .error .alreadyThere
  else .ok ⟨t.nodes.insert (pathOf inner) .directory⟩

/-- The tree with the directory at the path, which may be there before. -/
def makeOrFind (t : Tree) (path : String) : Except Fault Tree :=
  match t.makeOne path with
  | .ok t' => .ok t'
  | .error e => if t.at? path = some .directory then .ok t else .error e

/-- Makes a directory after those that lead to it, of which there are at most `fuel`. What is made
stays when a later directory cannot be made. -/
def makeWithin : Nat → Tree → String → Except Fault Unit × Tree
  | 0, t, _ => (.error .notFound, t)
  | fuel + 1, t, path =>
    match t.makeOrFind path with
    | .ok t' => (.ok (), t')
    | .error .notFound =>
      match Path.parent? path with
      | none => (.error .notFound, t)
      | some parent =>
        match makeWithin fuel t parent with
        | (.error e, t') => (.error e, t')
        | (.ok (), t') =>
          match t'.makeOrFind path with
          | .ok t'' => (.ok (), t'')
          | .error e => (.error e, t')
    | .error e => (.error e, t)

/-- Makes a directory and all that lead to it. -/
def makeDirectory (t : Tree) (path : String) : Except Fault Unit × Tree :=
  makeWithin (path.length + 2) t path

end Tree
end Files
end Facetry
