/-
# Reports for people

The texts that show specifications and failures on a terminal. Each report is a
list of lines; an element is followed by its facets, further to the right.

Key definitions: `Report.specification`, `Report.member`, `Report.failures`.
-/
import Facetry.Specification

namespace Facetry.Report

/-- The lines, each with its end. -/
def unlines (lines : List String) : String := String.join (lines.map (· ++ "\n"))

/-- The facets of an element. -/
def facetLines (indent : String) (h : FacetHolder) : List String :=
  h.toList.map fun f => indent ++ "- " ++ f.text

/-- A parameter and its facets. -/
def parameterLines (p : ActionParameter) : List String :=
  ("       [" ++ Text.natText p.index ++ "] " ++ p.type.text ++ " " ++ p.name.getD "") ::
    facetLines "           " p.facets

/-- A member, its facets and its parameters. -/
def memberLines (m : Member) : List String :=
  ("   • " ++ m.name ++ " (" ++ m.feature.label ++ ": " ++ m.type.text ++ ") " ++
    Facet.viaMethod m.method) ::
    facetLines "       " m.facets ++ m.parameters.flatMap parameterLines

/-- The members of a kind under a heading, or nothing if there are none. -/
def sectionLines (heading : String) : List Member → List String
  | [] => []
  | members => ("   " ++ heading ++ ":") :: members.flatMap memberLines

/-- The methods that support nothing, or nothing if there are none. -/
def orphanLines : List String → List String
  | [] => []
  | methods => ["   ⚠️  Unmatched supporting methods: " ++ ", ".intercalate methods]

/-- A specification after an empty line. -/
def specification (s : Specification) : String :=
  unlines (["", "📦 " ++ s.text, "   🏷️  Name: " ++ s.singularName ++ " / " ++ s.pluralName] ++
    facetLines "   " s.facets ++
    sectionLines "Properties" s.properties ++
    sectionLines "Collections" s.collections ++
    sectionLines "Actions" s.actions ++
    orphanLines s.orphans)

/-- A member. -/
def member (m : Member) : String := unlines (memberLines m)

/-- How many failures there are. -/
def countText (failures : List Failure) : String :=
  Text.natText failures.length ++ " validation failure(s)"

/-- The failures, one on a line. -/
def failures : List Failure → String
  | [] => "✅ No validation failures"
  | all => "\n".intercalate
      (("❌ " ++ countText all ++ ":") :: all.map fun f => "   " ++ f.text)

end Facetry.Report
