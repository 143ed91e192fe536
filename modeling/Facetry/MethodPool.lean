/-
# The methods not claimed yet

Each method of a class serves one purpose: it is a member, or it supports one.
A pool holds the methods that nothing has claimed so far, with their places in
the declaration, in order. Claiming a method takes it out of the pool.

Key definitions: `MethodPool`, `MethodPool.take`, `MethodPool.peek?`,
`MethodPool.discard`.
Key theorems: `MethodPool.indices_claim`, `MethodPool.sublist_take`,
`MethodPool.take_eq_self`.
-/
import Facetry.Class

namespace Facetry

/-- The methods of a class that are not claimed, with their places in the declaration. -/
structure MethodPool where
  unclaimed : List (Nat × Method)
  deriving DecidableEq

namespace MethodPool

/-- The pool of all methods of a class. -/
def ofClass (c : Class) : MethodPool := ⟨c.methods.mapIdx fun i m => (i, m)⟩

/-- The places of the methods, in order. -/
def indices (p : MethodPool) : List Nat := p.unclaimed.map (·.1)

/-- The methods, in order. -/
def methods (p : MethodPool) : List Method := p.unclaimed.map (·.2)

/-- Whether the method at the place is not claimed. -/
def contains (p : MethodPool) (index : Nat) : Bool := p.indices.contains index

/-- The pool without the method at the place. -/
def claim (p : MethodPool) (index : Nat) : MethodPool := ⟨p.unclaimed.filter (·.1 != index)⟩

/-- The pool without the methods that pass `test`. -/
def discard (p : MethodPool) (test : Method → Bool) : MethodPool :=
  ⟨p.unclaimed.filter fun e => !test e.2⟩

/-- Whether an entry of the pool has the name and is acceptable. -/
def isMatch (name : String) (accept : Method → Bool) (e : Nat × Method) : Bool :=
  e.2.name == name && accept e.2

/-- The first method that has the name and is acceptable. -/
def peek? (p : MethodPool) (name : String) (accept : Method → Bool) : Option Method :=
  (p.unclaimed.find? (isMatch name accept)).map (·.2)

/-- Claims the first method that has the name and is acceptable. -/
def take (p : MethodPool) (name : String) (accept : Method → Bool) : Option Method × MethodPool :=
  (p.peek? name accept, ⟨p.unclaimed.eraseP (isMatch name accept)⟩)

/-! ### What is left in the pool -/

theorem indices_claim (p : MethodPool) (index : Nat) :
    (p.claim index).indices = p.indices.filter (· != index) := by
  simp [indices, claim, List.filter_map, Function.comp_def]

/-- Nothing enters the pool, and nothing in it changes places. -/
theorem sublist_take (p : MethodPool) (name : String) (accept : Method → Bool) :
    (p.take name accept).2.unclaimed.Sublist p.unclaimed :=
  List.eraseP_sublist

/-- Where no method is found, none is taken. -/
theorem take_eq_self (p : MethodPool) (name : String) (accept : Method → Bool)
    (h : p.peek? name accept = none) : p.take name accept = (none, p) := by
  have hno : ∀ e ∈ p.unclaimed, ¬isMatch name accept e := by
    simpa [peek?, List.find?_eq_none] using h
  rw [take, h, List.eraseP_of_forall_not hno]

end MethodPool
end Facetry
