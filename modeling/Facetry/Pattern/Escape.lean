/-
# Escapes in patterns

What follows a backslash is a character, a set of characters or an assertion.
In verbose mode white space and comments may stand within the codes and names
of escapes.

Key definitions: `Atom`, `readEscape`.
-/
import Facetry.Pattern
import Facetry.Pattern.Flags

namespace Facetry.Pattern

open Facetry.Text

/-- What an escape stands for. -/
inductive Atom
  | char (c : Char)
  | set (s : CharSet)
  | anchor (a : Anchor)

/-- The character with the code written in hexadecimal, if there is one. -/
def charOfHex? (digits : List Char) : Option Char :=
  if digits.isEmpty then none
  else
    (digits.foldl (fun n? c => n?.bind fun n => (hexValue? c).map (16 * n + ·)) (some 0)).bind
      fun n => if h : n.isValidChar then some (Char.ofNatAux n h) else none

/-- Takes `length` characters from the text. -/
def takeCode (flags : Flags) : Nat → List Char → Option (List Char × List Char)
  | 0, cs => some ([], cs)
  | _ + 1, [] => none
  | length + 1, c :: rest =>
    (takeCode flags length (flags.skip rest)).map fun (code, rest) => (c :: code, rest)

/-- Reads the code after the mark of a hexadecimal escape: in braces, or of a fixed length. Two
digits stand for a byte, and without the flag for Unicode a byte beyond ASCII is no character. -/
def readHex (flags : Flags) (length : Nat) (cs : List Char) : Option (Atom × List Char) :=
  match flags.skip cs with
  | '\x7b' :: rest =>
    match flags.span (· != '\x7d') rest with
    | (code, _ :: after) => (charOfHex? code).map fun c => (.char c, after)
    | _ => none
  | cs =>
    (takeCode flags length cs).bind fun (code, after) =>
      (charOfHex? code).bind fun c =>
        if length = 2 ∧ !flags.unicode ∧ 0x80 ≤ c.toNat then none else some (.char c, after)

/-- Reads the name after the mark of a property escape: in braces, or one letter. -/
def readProperty (flags : Flags) (negated : Bool) (cs : List Char) : Option (Atom × List Char) :=
  let finish (name : List Char) (after : List Char) : Option (Atom × List Char) :=
    (CharSet.ofProperty? name).bind fun (set, complement) =>
      (flags.complementIf? (negated != complement) (flags.fold set)).map (.set ·, after)
  if !flags.unicode then none
  else
    match flags.skip cs with
    | [] => none
    | '\x7b' :: rest =>
      match flags.span (· != '\x7d') rest with
      | (name, _ :: after) => finish name after
      | _ => none
    | c :: rest => finish [c] rest

/-- Whether a backslash before `c` only takes its meaning away. -/
def isEscapable (c : Char) : Bool :=
  c.toNat < 0x80 && !c.isAlphanum && c != '<' && c != '>'

/-- The word boundary named in braces, if the text starts with one. Braces that start otherwise
count repetitions. -/
def readBoundary (flags : Flags) (cs : List Char) : Option (Atom × List Char) :=
  let named : List (String × (CharSet → Anchor)) :=
    [("start", .wordStart), ("end", .wordEnd), ("start-half", .wordStartHalf),
     ("end-half", .wordEndHalf)]
  match cs with
  | '\x7b' :: rest =>
    match flags.span (fun c => c.isAlpha || c == '-') rest with
    | ([], _) => some (.anchor (.wordBoundary flags.word), cs)
    | (name, '\x7d' :: after) =>
      (named.lookup (String.ofList name)).map fun a => (.anchor (a flags.word), after)
    | _ => none
  | _ => some (.anchor (.wordBoundary flags.word), cs)

/-- Reads what follows a backslash. -/
def readEscape (flags : Flags) : List Char → Option (Atom × List Char)
  | [] => none
  | c :: rest =>
    let setOrComplement (negated : Bool) (set : CharSet) : Option (Atom × List Char) :=
      (flags.complementIf? negated set).map (.set ·, rest)
    match c with
    | 'd' => setOrComplement false flags.digits
    | 'D' => setOrComplement true flags.digits
    | 's' => setOrComplement false flags.blanks
    | 'S' => setOrComplement true flags.blanks
    | 'w' => setOrComplement false flags.word
    | 'W' => setOrComplement true flags.word
    | 'p' => readProperty flags false rest
    | 'P' => readProperty flags true rest
    | 'x' => readHex flags 2 rest
    | 'u' => readHex flags 4 rest
    | 'U' => readHex flags 8 rest
    | 'a' => some (.char '\x07', rest)
    | 'f' => some (.char '\x0c', rest)
    | 't' => some (.char '\t', rest)
    | 'n' => some (.char '\n', rest)
    | 'r' => some (.char '\r', rest)
    | 'v' => some (.char '\x0b', rest)
    | 'A' => some (.anchor .textStart, rest)
    | 'z' => some (.anchor .textEnd, rest)
    | 'b' => readBoundary flags rest
    | 'B' => some (.anchor (.notWordBoundary flags.word), rest)
    | '<' => some (.anchor (.wordStart flags.word), rest)
    | '>' => some (.anchor (.wordEnd flags.word), rest)
    | c => if isEscapable c then some (.char c, rest) else none

end Facetry.Pattern
