/-
# Bracketed classes

A class in brackets is a set of characters, put together from characters,
ranges, escapes and other classes, and from the intersections and differences
of such unions. It is read with a stack of the classes that are still open, and
of the left sides of operations that wait for their right sides.

With a class comes its depth: one level for each pair of brackets, for each
operation, and for each union of two parts or more.

Key definitions: `ClassPart`, `depthOf`, `readClass`.
-/
import Facetry.Pattern.Escape

namespace Facetry.Pattern

/-- The depth of what has parts of these depths. One part alone adds no level. -/
def depthOf : List Nat → Nat
  | [] => 0
  | [depth] => depth
  | depths => depths.foldl max 0 + 1

/-- A part of a class. -/
structure ClassPart where
  set : CharSet
  depth : Nat := 0

/-- The union of the parts. -/
def ClassPart.union (parts : List ClassPart) : ClassPart :=
  ⟨.unionAll (parts.map (·.set)), depthOf (parts.map (·.depth))⟩

/-- An operation on two classes. -/
inductive SetOp
  | inter
  | diff
  | symmDiff

/-- The set that the operation makes of two. -/
def SetOp.apply (op : SetOp) (a b : CharSet) : CharSet :=
  match op with
  | inter => a.inter b
  | diff => a.diff b
  | symmDiff => a.symmDiff b

/-- A class that waits for its end: an outer class with its parts so far, or the left side of an
operation. -/
inductive ClassFrame
  | bracket (outer : List ClassPart) (negated : Bool)
  | operation (op : SetOp) (left : ClassPart)

/-- Ends the operation on top of the stack, if there is one, with its right side. -/
def closeOperation (flags : Flags) (right : ClassPart) :
    List ClassFrame → ClassPart × List ClassFrame
  | .operation op left :: frames =>
    (⟨op.apply (flags.fold left.set) (flags.fold right.set), depthOf [left.depth, right.depth]⟩,
     frames)
  | frames => (right, frames)

/-- A class read to its end, or its parts so far, the stack and the rest of the text. -/
inductive ClassStep
  | closed (part : ClassPart) (rest : List Char)
  | more (parts : List ClassPart) (frames : List ClassFrame) (rest : List Char)

/-- The part of one character. -/
def ClassPart.ofChar (c : Char) : ClassPart := ⟨.single c, 0⟩

/-- Opens a class after its bracket: a caret negates it, and hyphens or a closing bracket that
come first stand for themselves. -/
def openClass (flags : Flags) (outer : List ClassPart) (frames : List ClassFrame)
    (cs : List Char) : ClassStep :=
  let cs := flags.skip cs
  let (negated, cs) : Bool × List Char :=
    match cs with
    | '^' :: rest => (true, flags.skip rest)
    | cs => (false, cs)
  let frames := .bracket outer negated :: frames
  match flags.span (· == '-') cs with
  | ([], ']' :: rest) => .more [.ofChar ']'] frames (flags.skip rest)
  | (hyphens, rest) => .more (hyphens.map .ofChar) frames rest

/-- The POSIX class at the start of the text after an opening bracket, if there is one: its set and
whether it is negated. -/
def posixClass? : List Char → Option ((CharSet × Bool) × List Char)
  | ':' :: rest =>
    let (negated, rest) : Bool × List Char :=
      match rest with
      | '^' :: rest => (true, rest)
      | rest => (false, rest)
    match rest.dropWhile (· != ':') with
    | ':' :: ']' :: after =>
      (CharSet.ofPosixName? (String.ofList (rest.takeWhile (· != ':')))).map fun s =>
        ((s, negated), after)
    | _ => none
  | _ => none

/-- Reads one character or escape inside a class. -/
def readClassItem (flags : Flags) : List Char → Option (Atom × List Char)
  | [] => none
  | '\\' :: rest => readEscape flags rest
  | c :: rest => some (.char c, rest)

/-- Whether the flags allow a class to name the character. -/
def Flags.allows (flags : Flags) (c : Char) : Bool := flags.unicode || c.toNat < 0x80

/-- Reads a range, or a single item, inside a class. A hyphen before the closing bracket or
another hyphen makes no range. -/
def readClassRange (flags : Flags) (cs : List Char) : Option (CharSet × List Char) :=
  (readClassItem flags cs).bind fun (first, rest) =>
    let single : Option (CharSet × List Char) :=
      match first with
      | .char c => if flags.allows c then some (.single c, rest) else none
      | .set s => some (s, rest)
      | .anchor _ => none
    match flags.skip rest with
    | [] => none
    | '-' :: after =>
      if flags.peek? after == some ']' || flags.peek? after == some '-' then single
      else
        match first, readClassItem flags (flags.skip after) with
        | .char a, some (.char b, rest') =>
          if a ≤ b ∧ flags.allows a ∧ flags.allows b then some (.range a.toNat b.toNat, rest')
          else none
        | _, _ => none
    | _ => single

/-- One step of reading a class. -/
def classStep (flags : Flags) (parts : List ClassPart) (frames : List ClassFrame)
    (cs : List Char) : Option ClassStep :=
  let operation (op : SetOp) (rest : List Char) : Option ClassStep :=
    let (left, frames) := closeOperation flags (.union parts) frames
    some (.more [] (.operation op left :: frames) rest)
  match flags.skip cs with
  | [] => none
  | '[' :: rest =>
    match posixClass? rest with
    | some ((set, negated), after) =>
      (flags.complementIf? negated (flags.fold set)).map fun set =>
        .more (⟨set, 0⟩ :: parts) frames after
    | none => some (openClass flags parts frames rest)
  | ']' :: rest =>
    match closeOperation flags (.union parts) frames with
    | (part, .bracket outer negated :: frames) =>
      (flags.complementIf? negated (flags.fold part.set)).map fun set =>
        let part : ClassPart := ⟨set, part.depth + 1⟩
        if frames.isEmpty then .closed part rest else .more (part :: outer) frames rest
    | _ => none
  | '&' :: '&' :: rest => operation .inter rest
  | '-' :: '-' :: rest => operation .diff rest
  | '~' :: '~' :: rest => operation .symmDiff rest
  | cs => (readClassRange flags cs).map fun (set, rest) => .more (⟨set, 0⟩ :: parts) frames rest

/-- Reads a class to its end in at most `fuel` steps. -/
def classSteps (flags : Flags) : Nat → List ClassPart → List ClassFrame → List Char →
    Option (ClassPart × List Char)
  | 0, _, _, _ => none
  | fuel + 1, parts, frames, cs =>
    match classStep flags parts frames cs with
    | none => none
    | some (.closed part rest) => some (part, rest)
    | some (.more parts frames rest) => classSteps flags fuel parts frames rest

/-- Reads the class after an opening bracket in at most `fuel` steps. -/
def readClass (flags : Flags) (fuel : Nat) (cs : List Char) : Option (ClassPart × List Char) :=
  match openClass flags [] [] cs with
  | .closed part rest => some (part, rest)
  | .more parts frames rest => classSteps flags fuel parts frames rest

end Facetry.Pattern
