/-
# Properties of characters by name

A pattern names a property alone, as in `Greek`, or with its value, as in
`script=Greek`. Names are compared without case, blanks, hyphens, underscores,
a leading `is`, and whatever is not ASCII; what is left is the plain form of a
name. Alone stand the names of yes-or-no properties, categories and scripts.

Key definitions: `plainName`, `CharSet.ofProperty?`, `CharSet.word`.
-/
import Facetry.Pattern.Property.Age
import Facetry.Pattern.Property.Segment

namespace Facetry.Pattern

/-- The name without a leading `is`, and whether it had one. -/
def dropIs : List Char → List Char × Bool
  | i :: s :: rest =>
    if i.toLower == 'i' && s.toLower == 's' then (rest, true) else (i :: s :: rest, false)
  | name => (name, false)

/-- The plain form of a name. The name `isc` would turn into another name, and so it stays. -/
def plainName (name : List Char) : String :=
  let (rest, hadIs) := dropIs name
  let plain := (rest.filter fun c =>
    c.toNat < 0x80 && c != ' ' && c != '_' && c != '-').map Char.toLower
  if hadIs && plain == ['c'] then "isc" else String.ofList plain

/-- The value of a property with a plain name. -/
def valued? (property value : String) : Option CharSet :=
  match property with
  | "gc" | "generalcategory" => Category.named? value
  | "sc" | "script" => (Script.named? value).map (·.set)
  | "scx" | "scriptextensions" => (Script.named? value).map (·.extended)
  | "age" => Age.named? value
  | "gcb" | "graphemeclusterbreak" => Segment.grapheme? value
  | "wb" | "wordbreak" => Segment.word? value
  | "sb" | "sentencebreak" => Segment.sentence? value
  | _ => none

/-- The set of a property that is named alone, in plain form. -/
def alone? (name : String) : Option CharSet :=
  match Trait.named? name with
  | some s => some s
  | none =>
    match Category.named? name with
    | some s => some s
    | none => (Script.named? name).map (·.set)

/-- What stands before the first place that starts with `mark`, and what stands after it. -/
def cutAt? (mark : List Char) : List Char → Option (List Char × List Char)
  | [] => none
  | c :: rest =>
    if mark.isPrefixOf (c :: rest) then some ([], (c :: rest).drop mark.length)
    else (cutAt? mark rest).map fun (before, after) => (c :: before, after)

namespace CharSet

/-- The set that the text of a property stands for, and whether its complement is meant. -/
def ofProperty? (text : List Char) : Option (CharSet × Bool) :=
  let valued (negated : Bool) (parts : List Char × List Char) : Option (CharSet × Bool) :=
    (valued? (plainName parts.1) (plainName parts.2)).map (·, negated)
  match cutAt? ['!', '='] text with
  | some parts => valued true parts
  | none =>
    match cutAt? [':'] text with
    | some parts => valued false parts
    | none =>
      match cutAt? ['='] text with
      | some parts => valued false parts
      | none => (alone? (plainName text)).map (·, false)

/-- The decimal digits. -/
def digits : CharSet := Category.decimalNumber.set

/-- The white space. -/
def blanks : CharSet := Trait.whiteSpace.set

/-- The word characters: letters, marks, digits, connectors and the two join controls. -/
def word : CharSet :=
  unionAll [Trait.alphabetic, Trait.joinControl.set,
    Category.union (.decimalNumber :: .connectorPunctuation :: Category.marks)]

end CharSet
end Facetry.Pattern
