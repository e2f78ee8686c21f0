import Scad.Identifier
import Scad.SortedMap

/-!
# Call trees

A call has a name, parameters in the order of their keys, and child calls in
the order in which they are made. A call that carries an identifier becomes a
module of its own. The values of the parameters may be of any type; a call
whose values are texts can be written.
-/

namespace Scad

variable {V W : Type}

structure Call (V : Type) where
  name : String
  parameters : SortedMap String V
  children : List (Call V)
  moduleId : Option Identifier

namespace Call

/-- A call without parameters, children or module. -/
def bare (name : String) : Call V := ⟨name, ∅, [], none⟩

instance : Inhabited (Call V) := ⟨bare ""⟩

def setParameter (c : Call V) (key : String) (value : V) : Call V :=
  { c with parameters := c.parameters.insert key value }

def hasParameter (c : Call V) (key : String) : Bool := c.parameters.contains key

def withChildren (c : Call V) (children : List (Call V)) : Call V :=
  { c with children := children }

def withModule (c : Call V) (m : Identifier) : Call V :=
  { c with moduleId := some m }

def isModule (c : Call V) : Bool := c.moduleId.isSome

/-! ## Recursion over the tree -/

mutual

/-- The number of calls in the tree, its root included. -/
def nodeCount : Call V → Nat
  | ⟨_, _, children, _⟩ => 1 + nodeCountAll children

def nodeCountAll : List (Call V) → Nat
  | [] => 0
  | c :: cs => nodeCount c + nodeCountAll cs

end

mutual

/-- The same tree with its parameter values changed. -/
def mapValues (f : V → W) : Call V → Call W
  | ⟨name, parameters, children, moduleId⟩ =>
      ⟨name, parameters.mapValues f, mapValuesAll f children, moduleId⟩

def mapValuesAll (f : V → W) : List (Call V) → List (Call W)
  | [] => []
  | c :: cs => mapValues f c :: mapValuesAll f cs

end

/-! ## Equality -/

section Equality

variable [DecidableEq V]

mutual

def same : Call V → Call V → Bool
  | ⟨name, parameters, children, moduleId⟩, ⟨name', parameters', children', moduleId'⟩ =>
      decide (name = name' ∧ parameters = parameters' ∧ moduleId = moduleId') &&
        sameAll children children'

def sameAll : List (Call V) → List (Call V) → Bool
  | [], [] => true
  | c :: cs, d :: ds => same c d && sameAll cs ds
  | _, _ => false

end

mutual

theorem same_iff : ∀ {c d : Call V}, same c d = true ↔ c = d
  | ⟨name, parameters, children, moduleId⟩, ⟨name', parameters', children', moduleId'⟩ => by
      rw [same, Bool.and_eq_true, decide_eq_true_eq, sameAll_iff, mk.injEq]
      constructor
      · rintro ⟨⟨h, h', h''⟩, h'''⟩; exact ⟨h, h', h''', h''⟩
      · rintro ⟨h, h', h'', h'''⟩; exact ⟨⟨h, h', h'''⟩, h''⟩

theorem sameAll_iff : ∀ {cs ds : List (Call V)}, sameAll cs ds = true ↔ cs = ds
  | [], [] => by simp [sameAll]
  | [], _ :: _ => by simp [sameAll]
  | _ :: _, [] => by simp [sameAll]
  | c :: cs, d :: ds => by
      rw [sameAll, Bool.and_eq_true, same_iff, sameAll_iff, List.cons.injEq]

end

instance : DecidableEq (Call V) := fun _ _ => decidable_of_iff _ same_iff

end Equality

/-! ## The text of a call -/

def argumentText (c : Call String) : String :=
  ", ".intercalate (c.parameters.entries.map fun e => e.1 ++ "=" ++ e.2)

/-- The call without its children and without a terminator. -/
def text (c : Call String) : String :=
  c.name ++ "(" ++ c.argumentText ++ ")"

end Call

end Scad
