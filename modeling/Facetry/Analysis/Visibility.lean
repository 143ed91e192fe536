/-
# Where members stand and who sees them

The order of members, and when an element is hidden or disabled: always, as an
annotation says, or as a supporting method decides. Every property of an
immutable class is disabled.

Key definitions: `Analysis.memberOrder`, `Analysis.hidden`, `Analysis.disabled`,
`Analysis.hideMethod`, `Analysis.disableMethod`, `Analysis.filtered`.
-/
import Facetry.Analysis.Title

namespace Facetry.Analysis

/-- Attaches the place of a member among the others. -/
def memberOrder (m : MemberContext) (a : Analysis) : Analysis :=
  match m.method.annotation? "MemberOrder" with
  | none => a
  | some mark =>
    match sequence? mark with
    | some sequence => a.attach (.memberOrder sequence (mark.textAttr? "name"))
    | none => a.report .missingSequence

/-- The text that says where an element is hidden. -/
def hiddenPlace? (mark : Annotation) : Option String :=
  (mark.textAttr? "where").or mark.value?

/-- Attaches where an element is hidden; everywhere, if nothing is said. -/
def hidden (annotations : List Annotation) (a : Analysis) : Analysis :=
  match Annotation.find? annotations "Hidden" with
  | none => a
  | some mark =>
    match hiddenPlace? mark with
    | none => a.attach (.hidden .everywhere)
    | some text =>
      match Facet.Where.ofText? text with
      | some place => a.attach (.hidden place)
      | none => a.report (.unknownPlace text)

/-- Attaches that a member is disabled, with the reason if one is given. -/
def disabled (m : MemberContext) (a : Analysis) : Analysis :=
  match m.method.annotation? "Disabled" with
  | some mark =>
    a.attach (.disabled ((mark.textAttr? "reason").or mark.value?))
  | none =>
    if m.feature = .property ∧ m.classFacets.contains .immutable then
      a.attachDerived (.disabled (some "Immutable"))
    else a

/-- Claims the method that decides whether the member is hidden. -/
def hideMethod (m : MemberContext) (a : Analysis) : Analysis :=
  a.attachClaimed (m.supporting "hide") Method.hasNoParameters fun s => .hideForContext s.name

/-- Claims the method that decides whether the member is disabled. -/
def disableMethod (m : MemberContext) (a : Analysis) : Analysis :=
  a.attachClaimed (m.supporting "disable") Method.isGetter fun s => .disableForContext s.name

/-- Marks a collection, or an action that returns one, whose hidden elements are filtered out. -/
def filtered (env : Environment) (m : MemberContext) (a : Analysis) : Analysis :=
  if env.config.filterVisibility ∧
      (m.feature = .collection ∨ env.isCollectionType m.method.returnType.name) then
    a.attach .filterVisibility
  else a

end Facetry.Analysis
