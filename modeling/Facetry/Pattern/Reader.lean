/-
# Reading patterns

The text of a pattern is read from the left with a stack of the groups that
are still open. Look-around and references back to a group are refused, as is
any text that the grammar does not cover, such as a repetition of nothing.

Flags hold from where they are written to the end of their group, across its
alternatives.

A pattern may be nested 250 levels deep. Each group, each bracketed class, each
repetition and each operation within brackets is a level, and so is a sequence
or a choice of two parts or more. A pattern whose automaton would be too large
is refused as well.

Key definitions: `Part`, `State`, `Pattern.read?`.
-/
import Facetry.Pattern.Automaton
import Facetry.Pattern.Bracket
import Facetry.Text.Alphabetic

namespace Facetry.Pattern

open Facetry.Text

/-! ### Repetitions -/

/-- The decimal number at the start of the text, which fits in 32 bits, without the white space
around it. -/
def readCount (flags : Flags) (cs : List Char) : Option Nat × List Char :=
  let (digits, rest) := flags.span Char.isDigit ((flags.skip cs).dropWhile isBlank)
  let n := digits.foldl (fun n c => 10 * n + (c.toNat - '0'.toNat)) 0
  (if digits.isEmpty || Nat.pow 2 32 ≤ n then none else some n, rest.dropWhile isBlank)

/-- Drops the mark of a lazy repetition. -/
def dropLazy : List Char → List Char
  | '?' :: rest => rest
  | cs => cs

/-- Reads the bounds of a counted repetition after its opening brace. -/
def readBounds (flags : Flags) (cs : List Char) : Option ((Nat × Option Nat) × List Char) :=
  match readCount flags cs with
  | (some least, '\x7d' :: rest) => some ((least, some least), rest)
  | (some least, ',' :: rest) =>
    match flags.skip rest with
    | '\x7d' :: rest => some ((least, none), rest)
    | rest =>
      match readCount flags rest with
      | (some most, '\x7d' :: rest) =>
        if least ≤ most then some ((least, some most), rest) else none
      | _ => none
  | _ => none

/-! ### Groups -/

/-- A part of a sequence, and how deep it is nested. Flags on their own are a part that has no
effect which could be repeated. -/
structure Part where
  pattern : Pattern
  depth : Nat := 0
  repeatable : Bool := true

/-- What the pattern has so far in the innermost group: whole alternatives, and the parts of the
last one, both last first. -/
structure Branches where
  whole : List Part := []
  parts : List Part := []

/-- The parts, last first, as one part. -/
def joinParts (parts : List Part) : Part :=
  { pattern := concat (parts.reverse.map (·.pattern)), depth := depthOf (parts.map (·.depth)) }

/-- All alternatives as one part. -/
def Branches.close (b : Branches) : Part :=
  let branches := joinParts b.parts :: b.whole
  { pattern := oneOf (branches.reverse.map (·.pattern))
    depth := depthOf (branches.map (·.depth)) }

/-- Adds a part to the last alternative. -/
def Branches.push (b : Branches) (p : Part) : Branches := { b with parts := p :: b.parts }

/-- A group that is still open: the flags outside, what stands before it, and its number if it has
one. -/
structure GroupFrame where
  flags : Flags
  before : Branches
  number : Option Nat

/-- The state of reading a pattern: the flags and the branches of the innermost group, the groups
that are open, the names of groups and how many groups are numbered. -/
structure State where
  flags : Flags := {}
  branches : Branches := {}
  frames : List GroupFrame := []
  names : List (List Char) := []
  numbered : Nat := 0

/-- The part `p` added. -/
def State.push (s : State) (p : Part) : State := { s with branches := s.branches.push p }

/-- Repeats the last part. -/
def State.repeat? (s : State) (least : Nat) (most : Option Nat) : Option State :=
  match s.branches.parts with
  | p :: parts =>
    if p.repeatable then
      let p : Part := { pattern := p.pattern.times least most, depth := p.depth + 1 }
      some { s with branches := { s.branches with parts := p :: parts } }
    else none
  | [] => none

/-- Whether the characters are a name for a group. -/
def isGroupName : List Char → Bool
  | [] => false
  | c :: rest =>
    (c == '_' || isAlphabetic c) &&
      rest.all fun c => c == '_' || c == '.' || c == '[' || c == ']' || isAlphanumeric c

/-- The state inside a new group. -/
def State.enter (s : State) (inner : Flags) (number : Option Nat) : State :=
  { s with flags := inner, branches := {}, frames := ⟨s.flags, s.branches, number⟩ :: s.frames }

/-- The state inside a new group that has a number. -/
def State.enterNumbered (s : State) : State :=
  { s.enter s.flags (some (s.numbered + 1)) with numbered := s.numbered + 1 }

/-- Reads a group's name and enters the group. -/
def State.enterNamed (s : State) (cs : List Char) : Option (State × List Char) :=
  let name := cs.takeWhile (· != '>')
  match cs.dropWhile (· != '>') with
  | [] => none
  | _ :: rest =>
    if isGroupName name && !s.names.contains name then
      some ({ s.enterNumbered with names := name :: s.names }, rest)
    else none

/-- Reads what follows an opening parenthesis. -/
def State.openGroup (s : State) (cs : List Char) : Option (State × List Char) :=
  match s.flags.skip cs with
  | '?' :: '=' :: _ | '?' :: '!' :: _ | '?' :: '<' :: '=' :: _ | '?' :: '<' :: '!' :: _ => none
  | '?' :: 'P' :: '<' :: rest | '?' :: '<' :: rest => s.enterNamed rest
  | '?' :: rest =>
    match readFlags s.flags [] false ' ' rest with
    | none => none
    | some (flags, _, ':', rest) => some (s.enter flags none, rest)
    | some (flags, some?, _, rest) =>
      if some? then
        let p : Part := { pattern := empty, repeatable := false }
        some ({ s.push p with flags := flags }, rest)
      else none
  | rest => some (s.enterNumbered, rest)

/-- Ends the innermost group. -/
def State.closeGroup (s : State) : Option State :=
  match s.frames with
  | [] => none
  | frame :: frames =>
    let inner := s.branches.close
    let p : Part :=
      { pattern :=
          match frame.number with
          | some number => group number inner.pattern
          | none => inner.pattern
        depth := inner.depth + 1 }
    some { s with flags := frame.flags, branches := frame.before.push p, frames := frames }

/-- Starts a new alternative. -/
def State.alternate (s : State) : State :=
  { s with branches := { whole := joinParts s.branches.parts :: s.branches.whole } }

/-! ### Patterns -/

/-- The pattern of one character. -/
def Flags.literal (flags : Flags) (c : Char) : Pattern := ofSet (flags.fold (.single c))

/-- The pattern of a dot: any character, but for line ends unless the flags include them. -/
def Flags.dot? (flags : Flags) : Option Pattern :=
  if !flags.unicode then none
  else if flags.dotAll then some (chars .all)
  else if flags.crlf then some (chars (CharSet.union (.single '\n') (.single '\r')).compl)
  else some (chars (CharSet.single '\n').compl)

/-- The start of the text, or of a line. -/
def Flags.start (flags : Flags) : Pattern :=
  anchor (if flags.multiline then .lineStart flags.crlf else .textStart)

/-- The end of the text, or of a line. -/
def Flags.finish (flags : Flags) : Pattern :=
  anchor (if flags.multiline then .lineEnd flags.crlf else .textEnd)

/-- Reads the next part of a pattern; `c` is its first character. A class is read in at most `fuel`
steps. -/
def State.step (s : State) (fuel : Nat) (c : Char) (rest : List Char) :
    Option (State × List Char) :=
  let push (p : Pattern) (rest : List Char) : State × List Char := (s.push { pattern := p }, rest)
  match c with
  | '(' => s.openGroup rest
  | ')' => s.closeGroup.map (·, rest)
  | '|' => some (s.alternate, rest)
  | '[' =>
    (readClass s.flags fuel rest).map fun (part, rest) =>
      (s.push { pattern := ofSet part.set, depth := part.depth }, rest)
  | '?' => (s.repeat? 0 (some 1)).map (·, dropLazy rest)
  | '*' => (s.repeat? 0 none).map (·, dropLazy rest)
  | '+' => (s.repeat? 1 none).map (·, dropLazy rest)
  | '\x7b' =>
    (readBounds s.flags rest).bind fun ((least, most), rest) =>
      (s.repeat? least most).map (·, dropLazy (s.flags.skip rest))
  | '\\' =>
    (readEscape s.flags rest).map fun
      | (.char c, rest) => push (s.flags.literal c) rest
      | (.set set, rest) => push (ofSet set) rest
      | (.anchor a, rest) => push (anchor a) rest
  | '.' => s.flags.dot?.map (push · rest)
  | '^' => some (push s.flags.start rest)
  | '$' => some (push s.flags.finish rest)
  | c => some (push (s.flags.literal c) rest)

/-- The deepest that a pattern may be nested. -/
def deepest : Nat := 250

/-- Reads a pattern to the end of its text in at most `fuel` steps. Each takes a character at least,
so `fuel` also bounds the steps within a class. -/
def steps : Nat → State → List Char → Option Part
  | 0, _, _ => none
  | fuel + 1, s, cs =>
    match s.flags.skip cs with
    | [] => if s.frames.isEmpty then some s.branches.close else none
    | c :: rest => (s.step fuel c rest).bind fun (s, rest) => steps fuel s rest

/-- The pattern that the text spells, if it spells one. -/
def read? (text : String) : Option Pattern :=
  match steps (text.length + 1) {} text.toList with
  | some part =>
    if part.depth ≤ deepest && part.pattern.fits then some part.pattern else none
  | none => none

end Facetry.Pattern
