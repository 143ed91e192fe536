/-
# Access to files

What the rest asks of a file system: the text of a file, and whether a path is
present. `Files m` answers in a monad `m`, so that the same program runs on
the disk and on a directory tree in memory.

Key definitions: `Files`, `Files.Fault`, `Path.parent?`, `Path.join`.
-/
namespace Facetry

/-- Why something is not done with a file. -/
inductive Files.Fault
  | notFound
  | alreadyThere
  | notDirectory
  | isDirectory
  | nameTooLong
  | nameWithNul
  | notText
  | other (message : String)
  deriving DecidableEq, Repr

/-- The wording of a fault. -/
def Files.Fault.message : Files.Fault → String
  | notFound => "No such file or directory (os error 2)"
  | alreadyThere => "File exists (os error 17)"
  | notDirectory => "Not a directory (os error 20)"
  | isDirectory => "Is a directory (os error 21)"
  | nameTooLong => "File name too long (os error 36)"
  | nameWithNul => "file name contained an unexpected NUL byte"
  | notText => "stream did not contain valid UTF-8"
  | other message => message

/-- A file system that is only read. -/
structure Files (m : Type → Type) where
  read : String → m (Except Files.Fault String)
  isPresent : String → m Bool

namespace Path

/-- The parts of a path between its slashes. -/
def parts (path : String) : List String := path.splitOn "/"

/-- Drops the empty parts and the dots that lead a reversed list of parts. The last part of the
list, which is the first of the path, stays: it is the root or the current directory. -/
def dropTrivial : List String → List String
  | [] => []
  | [first] => [first]
  | part :: rest => if part = "" ∨ part = "." then dropTrivial rest else part :: rest

/-- The path without its last component. The root and the empty path have no parent. -/
def parent? (path : String) : Option String :=
  match dropTrivial (parts path).reverse with
  | [] => none
  | [""] => none
  | [_] => some ""
  | _ :: rest =>
    match dropTrivial rest with
    | [""] => some "/"
    | rest => some ("/".intercalate rest.reverse)

/-- The path without the slashes and dots that lead it. -/
def plain (path : String) : String :=
  "/".intercalate ((parts path).dropWhile fun part => part = "" ∨ part = ".")

/-- The path of `name` inside the directory. -/
def join (directory name : String) : String :=
  if directory.isEmpty then name
  else if directory.toList.getLast? == some '/' then directory ++ name
  else directory ++ "/" ++ name

end Path
end Facetry
