/-
# Naming conventions

Names of methods and names of members are tied by convention: an accessor is
called `get` or `is` followed by the capitalized name of its property, and a
supporting method by its own word followed by the capitalized name of its
member. A name is shown to people with a space before each new word.

Key definitions: `capitalize`, `decapitalize`, `startsWith`, `propertyOf?`,
`naturalName`, `simpleName`.
-/
import Facetry.Text.Case

namespace Facetry.Naming

open Text

/-- The name with its first character in upper case. -/
def capitalizeChars : List Char → List Char
  | [] => []
  | c :: cs => upperChar c ++ cs

/-- The name with its first character in lower case, unless the second is in upper case too:
a name that starts with an acronym stays. -/
def decapitalizeChars : List Char → List Char
  | [] => []
  | [c] => lowerChar c
  | c :: d :: cs =>
    if isUppercase c && isUppercase d then c :: d :: cs else lowerChar c ++ d :: cs

/-- Whether a new word can start with `c`: in upper case, or with a digit. -/
def startsWord (c : Char) : Bool := isUppercase c || c.isDigit

/-- What follows `word` in the name, if the name is `word` and then a new word. -/
def rest? (word name : List Char) : Option (List Char) :=
  match word.isPrefixOf? name with
  | some (c :: cs) => if startsWord c then some (c :: cs) else none
  | _ => none

/-- The name of the property that an accessor called `name` reads. -/
def propertyChars? (name : List Char) : Option (List Char) :=
  ((rest? "get".toList name).or (rest? "is".toList name)).map decapitalizeChars

/-- The characters after the first, each new word after a space; `before` is the character to
the left. A digit starts a new word after anything but a digit. -/
def spacedChars (before : Char) : List Char → List Char
  | [] => []
  | c :: cs =>
    if (isUppercase c && !isUppercase before) || (c.isDigit && !before.isDigit)
    then ' ' :: c :: spacedChars c cs
    else c :: spacedChars c cs

/-- The name as shown to people: the first character in upper case, and each word apart. -/
def naturalChars : List Char → List Char
  | [] => []
  | c :: cs => upperChar c ++ spacedChars c cs

/-- The part of `cs` after the last `mark`, or all of it. -/
def afterLast (mark : Char) (cs : List Char) : List Char :=
  (cs.reverse.takeWhile (· != mark)).reverse

/-- The name with its first character in upper case. -/
def capitalize (name : String) : String := String.ofList (capitalizeChars name.toList)

/-- The name with its first character in lower case, unless it starts with an acronym. -/
def decapitalize (name : String) : String := String.ofList (decapitalizeChars name.toList)

/-- Whether the name is `word` followed by a new word. -/
def startsWith (word name : String) : Bool := (rest? word.toList name.toList).isSome

/-- The name of the property that an accessor called `name` reads. -/
def propertyOf? (name : String) : Option String :=
  (propertyChars? name.toList).map String.ofList

/-- The name as shown to people. -/
def naturalName (name : String) : String := String.ofList (naturalChars name.toList)

/-- The name of a class without its package and the classes around it. -/
def simpleName (name : String) : String :=
  String.ofList (afterLast '$' (afterLast '.' name.toList))

end Facetry.Naming
