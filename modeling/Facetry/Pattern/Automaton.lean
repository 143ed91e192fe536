/-
# The size of the automaton

A pattern is accepted only if two automata over the bytes of a text stay within
a limit of memory: one that reads forward, and one that reads backward and so
finds where a match starts. Here the automata are only measured. A state takes
32 bytes; a state with several ways out takes four bytes more for a way that
reads nothing, and eight bytes for a way that reads a byte.

The states of a set of characters are shared as far as a table of a fixed
number of slots remembers them. A state is found again by its ways out, and a
later state takes over the slot of an earlier one.

Key definitions: `Size`, `Pattern.measure`, `Pattern.fits`.
-/
import Facetry.Pattern.Assembly
import Facetry.Pattern.Encoding
import Std.Data.HashMap

namespace Facetry.Pattern

/-- The direction in which an automaton reads. -/
inductive Direction
  | forward
  | backward
  deriving DecidableEq, Repr

/-- How many states an automaton has, and how many bytes its ways out take. -/
structure Size where
  states : Nat
  ways : Nat
  deriving DecidableEq, Repr

/-- The size with some states and bytes more. -/
def Size.add (s : Size) (states ways : Nat) : Size := ⟨s.states + states, s.ways + ways⟩

/-- The most bytes that an automaton may take. -/
def Size.limit : Nat := 10 * Nat.pow 2 20

/-- Whether an automaton of the size is within the limit. -/
def Size.fits (s : Size) : Bool := 32 * s.states + s.ways ≤ limit

/-! ### Sets of characters -/

/-- States that can be shared, each in its slot with its ways out as key. -/
structure SharedStates where
  capacity : Nat
  slots : Std.HashMap Nat (List Nat × Nat) := {}

/-- The slot of a key: a hash that takes in its numbers one after the other, modulo the number of
slots. -/
def SharedStates.slot (t : SharedStates) (key : List Nat) : Nat :=
  let hash : UInt64 :=
    key.foldl (fun hash n => (hash ^^^ n.toUInt64) * 1099511628211) 14695981039346656037
  hash.toNat % t.capacity

/-- The state with the ways out `key`, which take `ways` bytes: a shared one, or a new one. -/
def SharedStates.state (t : SharedStates) (key : List Nat) (ways : Nat) (s : Size) :
    Nat × SharedStates × Size :=
  let slot := t.slot key
  match t.slots[slot]?.filter fun shared => shared.1 == key with
  | some (_, state) => (state, t, s)
  | none => (s.states, { t with slots := t.slots.insert slot (key, s.states) }, s.add 1 ways)

/-- The state that reads one of the products and goes on to `target`. It comes after the states
that it goes on to. -/
def forwardState (target : Nat) : Nat → List ByteRanges → SharedStates → Size →
    Nat × SharedStates × Size
  | 0, _, t, s => (target, t, s)
  | depth + 1, products, t, s =>
    let groups := products.splitBy fun a b => a.head? == b.head?
    let (key, t, s) := groups.foldl (fun (key, t, s) group =>
      match group with
      | (range :: rest) :: _ =>
        let (next, t, s) : Nat × SharedStates × Size :=
          if rest.isEmpty then (target, t, s)
          else forwardState target depth (group.map fun product => product.drop 1) t s
        (key ++ [range.1, range.2, next], t, s)
      | _ => (key, t, s)) (([] : List Nat), t, s)
    t.state key (8 * groups.length) s

/-- The size with the states that read one of the products backward to `target`, and with a way to
each product. -/
def backwardStates (target : Nat) (products : List ByteRanges) (s : Size) : Size :=
  (products.foldl (fun (t, s) product =>
    let (_, t, s) := product.foldl (fun (next, t, s) range =>
      SharedStates.state t [next, range.1, range.2] 0 s) (target, t, s)
    (t, s.add 0 4)) ((⟨1000, {}⟩ : SharedStates), s)).2

/-- The size with the states of a set of characters. -/
def Size.addSet (d : Direction) (set : CharSet) (s : Size) : Size :=
  if set.ranges.all fun r => r.2 < 0x80 then s.add 2 (8 * set.ranges.length)
  else
    match d with
    | .forward => (forwardState s.states 4 set.byteRanges ⟨10000, {}⟩ (s.add 1 0)).2.2
    | .backward => backwardStates (s.states + 1) set.byteRanges (s.add 2 0)

/-! ### Choices between literals -/

/-- The literals of a choice between literals only. -/
def literals? : Pattern → Option (List (List Char))
  | literal text => some [text]
  | either (literal text) q => q.literals?.map (text :: ·)
  | _ => none

/-- The literals in runs: where one ends, a run ends and another one begins. Those that end before
any goes on end one run together. -/
def runs (texts : List (List Nat)) : List (List (List Nat)) :=
  let (ended, rest) := texts.span List.isEmpty
  let later := rest.splitOnP List.isEmpty
  if ended.isEmpty then later else [] :: later

/-- The size with the states that tell literals apart by their next bytes. Those that start alike
in one run share a state, and a literal that has ended needs none. -/
def Size.addLiterals : Nat → List (List Nat) → Size → Size
  | 0, _, s => s
  | depth + 1, texts, s =>
    if texts.all List.isEmpty then s
    else
      let runs := runs texts
      let filled := runs.filter fun run => !run.isEmpty
      let s := s.add 1 (4 * (filled.length + (runs.length - 1)))
      filled.foldl (fun s run =>
        let heads := (run.filterMap List.head?).eraseDups
        let s := s.add 1 (if heads.length = 1 then 0 else 8 * heads.length)
        heads.foldl (fun s head =>
          let tails := (run.filter fun text => text.head? == some head).map fun text => text.drop 1
          addLiterals depth tails s) s) s

/-- The bytes of a literal as the automaton reads them. -/
def bytesOf (d : Direction) (text : List Char) : List Nat :=
  let bytes := text.flatMap fun c => utf8 c.toNat
  match d with
  | .forward => bytes
  | .backward => bytes.reverse

/-- The size with the states of a choice between literals. -/
def Size.addChoice (d : Direction) (texts : List (List Char)) (s : Size) : Size :=
  let texts := texts.map (bytesOf d)
  addLiterals ((texts.map List.length).foldl max 0 + 1) texts (s.add 1 0)

/-! ### Patterns -/

/-- The size after `count` times growing, or after the first time that exceeds the limit. -/
def Size.grow (step : Size → Size) : Nat → Size → Size
  | 0, s => s
  | count + 1, s => if s.fits then grow step count (step s) else s

/-- The size after an alternative with a number of others before it. With the second one come a
state where they part and one where they meet. -/
def Size.join : Option Nat → Size → Size
  | none, s => s
  | some 1, s => s.add 2 4
  | some _, s => s.add 0 4

/-- The size with the states of a pattern. If the pattern is the end of a chain of alternatives,
`before` tells how many come before it. -/
def measure (d : Direction) : Pattern → (before : Option Nat) → Size → Size
  | empty, before, s => (s.add 1 0).join before
  | literal text, before, s => (s.add (bytesOf d text).length 0).join before
  | chars set, before, s => (s.addSet d set).join before
  | anchor _, before, s => (s.add 1 0).join before
  | sequence p q, before, s =>
    (match d with
      | .forward => measure d q none (measure d p none s)
      | .backward => measure d p none (measure d q none s)).join before
  | either p q, none, s =>
    match (either p q).literals? with
    | some texts => s.addChoice d texts
    | none => measure d q (some 1) ((measure d p none s).join (some 0))
  | either p q, some before, s =>
    measure d q (some (before + 1)) ((measure d p none s).join (some before))
  | repeated p least most, before, s =>
    let copy (s : Size) : Size := measure d p none s
    let optional (s : Size) : Size := copy (s.add 1 8)
    (match least, most with
      | 0, none => if p.minLength?.any (0 < ·) then optional s else (copy s).add 3 16
      | least + 1, none => (copy (s.grow copy least)).add 1 8
      | 0, some 1 => (optional s).add 1 0
      | least, some most =>
        let s := if least = 0 then s.add 1 0 else s.grow copy least
        if least = most then s else (s.add 1 0).grow optional (most - least)).join before
  | group _ p, before, s =>
    (match d with
      | .forward => (measure d p none (s.add 1 0)).add 1 0
      | .backward => measure d p none s).join before

/-- Whether a match must begin where the automaton begins to read, as the assertions there show,
and whether it takes no characters. -/
def edge (d : Direction) : Pattern → Bool × Bool
  | empty => (false, true)
  | literal text => (false, text.isEmpty)
  | chars _ => (false, false)
  | anchor a => (a == (match d with | .forward => .textStart | .backward => .textEnd), true)
  | sequence p q =>
    let (fixedP, bareP) := p.edge d
    let (fixedQ, bareQ) := q.edge d
    match d with
    | .forward => (fixedP || (bareP && fixedQ), bareP && bareQ)
    | .backward => (fixedQ || (bareQ && fixedP), bareP && bareQ)
  | either p q =>
    let (fixedP, bareP) := p.edge d
    let (fixedQ, bareQ) := q.edge d
    (fixedP && fixedQ, bareP && bareQ)
  | repeated p least most =>
    let (fixed, bare) := p.edge d
    (0 < least && fixed, bare && most.isSome)
  | group _ p => p.edge d

/-- The size of the whole automaton: before the pattern it skips what a match does not start with,
and the pattern itself counts as a group. -/
def size (d : Direction) (p : Pattern) : Size :=
  let start : Size := if (p.edge d).1 then ⟨1, 0⟩ else ⟨3, 16⟩
  ((group 0 p).measure d none start).add 1 0

/-- Whether both automata stay within the limit. -/
def fits (p : Pattern) : Bool := (p.size .forward).fits && (p.size .backward).fits

end Facetry.Pattern
