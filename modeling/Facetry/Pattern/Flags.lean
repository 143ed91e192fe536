/-
# Flags of patterns

Flags switch how the text of a pattern is read. In verbose mode white space and
comments separate the parts of a pattern and mean nothing themselves. Without
the flag for Unicode a pattern knows the letters, digits and blanks of ASCII
only, and no set may hold a character beyond ASCII.

Key definitions: `Flags`, `Flags.fold`, `Flags.skip`, `Flags.span`.
-/
import Facetry.Pattern.Property
import Facetry.Pattern.Property.Folding
import Facetry.Text.Blank

namespace Facetry.Pattern

open Facetry.Text

/-- The modes that a pattern can switch. -/
structure Flags where
  caseless : Bool := false
  multiline : Bool := false
  dotAll : Bool := false
  verbose : Bool := false
  unicode : Bool := true
  crlf : Bool := false

namespace Flags

/-! ### Sets -/

/-- The set as the flags read it: closed under case if case is ignored. -/
def fold (flags : Flags) (set : CharSet) : CharSet :=
  if !flags.caseless then set
  else if flags.unicode then set.folded
  else set.asciiFolded

/-- The complement of the set if it is meant, unless it would hold characters that the flags do not
allow. -/
def complementIf? (flags : Flags) (negated : Bool) (set : CharSet) : Option CharSet :=
  if !negated then some set
  else if flags.unicode then some set.compl
  else none

/-- The decimal digits that `\d` stands for. -/
def digits (flags : Flags) : CharSet :=
  if flags.unicode then CharSet.digits else CharSet.asciiDigits

/-- The white space that `\s` stands for. -/
def blanks (flags : Flags) : CharSet :=
  if flags.unicode then CharSet.blanks else CharSet.asciiBlanks

/-- The word characters that `\w` and the word boundaries refer to. -/
def word (flags : Flags) : CharSet :=
  if flags.unicode then CharSet.word else CharSet.asciiWord

/-! ### Verbose mode -/

/-- What a text starts with: the characters that `p` holds for, and the rest. In verbose mode white
space and comments are left out; `comment` tells that a comment is open. -/
def spanFrom (flags : Flags) (p : Char → Bool) (comment : Bool) :
    List Char → List Char × List Char
  | [] => ([], [])
  | c :: rest =>
    if comment then flags.spanFrom p (c != '\n') rest
    else if flags.verbose && isBlank c then flags.spanFrom p false rest
    else if flags.verbose && c == '#' then flags.spanFrom p true rest
    else if p c then
      let (taken, rest) := flags.spanFrom p false rest
      (c :: taken, rest)
    else ([], c :: rest)

/-- The characters at the start that `p` holds for, and the rest. -/
def span (flags : Flags) (p : Char → Bool) (cs : List Char) : List Char × List Char :=
  flags.spanFrom p false cs

/-- The text from its next part on. -/
def skip (flags : Flags) (cs : List Char) : List Char := (flags.span (fun _ => false) cs).2

/-- The character that tells whether the hyphen before `cs` makes a range of a class. In verbose
mode white space does not count, and neither does the mark of a comment, though its text does. -/
def peek? (flags : Flags) (cs : List Char) : Option Char :=
  if !flags.verbose then cs.head?
  else
    let rest :=
      match cs.dropWhile isBlank with
      | '#' :: rest => rest.dropWhile isBlank
      | rest => rest
    rest.head?.or cs.head?

/-! ### Switching -/

/-- The flags with one of them switched on or off. Which repetition is lazy makes no difference. -/
def switch? (flags : Flags) (on : Bool) : Char → Option Flags
  | 'i' => some { flags with caseless := on }
  | 'm' => some { flags with multiline := on }
  | 's' => some { flags with dotAll := on }
  | 'x' => some { flags with verbose := on }
  | 'u' => some { flags with unicode := on }
  | 'R' => some { flags with crlf := on }
  | 'U' => some flags
  | _ => none

end Flags

/-- Reads flags up to a colon or a closing parenthesis: the flags, whether there was any, the end
mark and the rest. No flag may be named twice, and a minus sign stands before the flags it
switches off. -/
def readFlags (flags : Flags) (seen : List Char) (minus : Bool) (last : Char) :
    List Char → Option (Flags × Bool × Char × List Char)
  | [] => none
  | c :: rest =>
    if c == ':' || c == ')' then
      if last == '-' then none else some (flags, !seen.isEmpty, c, rest)
    else if c == '-' then
      if minus then none else readFlags flags seen true '-' rest
    else if seen.contains c then none
    else
      match flags.switch? (!minus) c with
      | none => none
      | some flags => readFlags flags (c :: seen) minus c rest

end Facetry.Pattern
