/-
# The program

Runs the command that the arguments ask for, on the files of the disk.

Key definitions: `Disk.files`, `main`.
-/
import Facetry.CommandLine

namespace Facetry.Disk

/-- The fault that an error of the system stands for. -/
def faultOf : IO.Error → Files.Fault
  | .noFileOrDirectory .. => .notFound
  | .inappropriateType _ _ "Is a directory" => .isDirectory
  | .inappropriateType .. => .notDirectory
  | .invalidArgument _ _ "name too long" => .nameTooLong
  | e => .other (toString e)

/-- The text of a file. -/
def read (path : String) : IO (Except Files.Fault String) := do
  match ← (IO.FS.readBinFile path).toBaseIO with
  | .error e => return .error (faultOf e)
  | .ok bytes =>
    match String.fromUTF8? bytes with
    | some text => return .ok text
    | none => return .error .notText

/-- Whether there is something at the path. -/
def isPresent (path : String) : IO Bool := do
  match ← (IO.FS.realPath path).toBaseIO with
  | .error _ => return false
  | .ok _ => return true

/-- The files of the disk. -/
def files : Files IO := ⟨read, isPresent⟩

end Facetry.Disk

/-- Runs the program. -/
def main (arguments : List String) : IO UInt32 := do
  let outcome ← Facetry.CommandLine.run Facetry.Disk.files arguments
  (← IO.getStdout).putStr outcome.out
  (← IO.getStderr).putStr outcome.err
  return outcome.exitCode.toUInt32
