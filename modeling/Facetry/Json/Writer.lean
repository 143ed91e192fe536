/-
# Writing JSON

A value is written compactly, with no white space, or indented by two spaces
for each level. Strings escape the quote, the backslash and the control
characters below the space; every other character stands for itself.

Key definitions: `Json.compact`, `Json.pretty`, `Json.quote`.
-/
import Facetry.Json

namespace Facetry
namespace Json

open Text

/-- The lower-case hexadecimal digit of a number below sixteen. -/
def hexDigit (n : Nat) : Char := "0123456789abcdef".toList.getD n '0'

/-- The characters that stand for `c` inside a string. -/
def escapeChar (c : Char) : List Char :=
  match c with
  | '"' => ['\\', '"']
  | '\\' => ['\\', '\\']
  | '\x08' => ['\\', 'b']
  | '\x0c' => ['\\', 'f']
  | '\n' => ['\\', 'n']
  | '\r' => ['\\', 'r']
  | '\t' => ['\\', 't']
  | c =>
    if c.toNat < 0x20 then
      ['\\', 'u', '0', '0', hexDigit (c.toNat / 16), hexDigit (c.toNat % 16)]
    else [c]

/-- The string between quotes. -/
def quote (s : String) : List Char := '"' :: s.toList.flatMap escapeChar ++ ['"']

/-- The text of a number. -/
def Number.text : Number → List Char
  | .natural n => digitsOf n
  | .negative n => '-' :: digitsOf n
  | .decimal d => d.text.toList

mutual

/-- The characters of the compact form. -/
def compactChars : Json → List Char
  | unreadable => []
  | null => "null".toList
  | bool true => "true".toList
  | bool false => "false".toList
  | number n => n.text
  | string s => quote s
  | array items => '[' :: compactItems items ++ [']']
  | object fields => '\x7b' :: compactFields fields ++ ['\x7d']

/-- The items, separated by commas. -/
def compactItems : List Json → List Char
  | [] => []
  | [x] => compactChars x
  | x :: xs => compactChars x ++ ',' :: compactItems xs

/-- The fields, separated by commas. -/
def compactFields : List (String × Json) → List Char
  | [] => []
  | [(n, x)] => quote n ++ ':' :: compactChars x
  | (n, x) :: xs => quote n ++ ':' :: compactChars x ++ ',' :: compactFields xs

end

/-- The value on one line with no white space. -/
def compact (j : Json) : String := String.ofList j.compactChars

/-- A new line with the indentation of the level. -/
def newLine (level : Nat) : List Char := '\n' :: List.replicate (2 * level) ' '

mutual

/-- The characters of the indented form at a level. -/
def prettyChars (level : Nat) : Json → List Char
  | array [] => ['[', ']']
  | array items => '[' :: prettyItems (level + 1) items ++ newLine level ++ [']']
  | object [] => ['\x7b', '\x7d']
  | object fields => '\x7b' :: prettyFields (level + 1) fields ++ newLine level ++ ['\x7d']
  | other => compactChars other

/-- The items, each on a line of its own. -/
def prettyItems (level : Nat) : List Json → List Char
  | [] => []
  | [x] => newLine level ++ prettyChars level x
  | x :: xs => newLine level ++ prettyChars level x ++ ',' :: prettyItems level xs

/-- The fields, each on a line of its own. -/
def prettyFields (level : Nat) : List (String × Json) → List Char
  | [] => []
  | [(n, x)] => newLine level ++ quote n ++ ':' :: ' ' :: prettyChars level x
  | (n, x) :: xs =>
    newLine level ++ quote n ++ ':' :: ' ' :: prettyChars level x ++ ',' :: prettyFields level xs

end

/-- The value indented by two spaces for each level. -/
def pretty (j : Json) : String := String.ofList (j.prettyChars 0)

end Json
end Facetry
