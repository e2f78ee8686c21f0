/-!
# Settings

A parameter of a call is left out unless somebody gave it a value. A setting
therefore holds a value together with a mark that says whether it was given:
a zero that was given is not a zero that nobody asked for.
-/

namespace Scad

variable {α β : Type}

structure Setting (α : Type) where
  value : α
  isSet : Bool
deriving BEq, DecidableEq, Repr

namespace Setting

/-- Nobody gave a value. -/
def unset [Inhabited α] : Setting α := ⟨default, false⟩

instance [Inhabited α] : Inhabited (Setting α) := ⟨unset⟩

def of (value : α) : Setting α := ⟨value, true⟩

/-- A setting that may be left out. -/
def ofOption [Inhabited α] : Option α → Setting α
  | none => unset
  | some value => of value

/-- Gives a value, in place of the one before. -/
def set (_ : Setting α) (value : α) : Setting α := of value

/-- The value if it was given. -/
def get? (s : Setting α) : Option α := if s.isSet then some s.value else none

def map (f : α → β) (s : Setting α) : Setting β := ⟨f s.value, s.isSet⟩

end Setting

end Scad
