namespace InlineAssert.Pattern

structure Layout where
  states : Nat := 0
  links : Nat := 0
  deriving DecidableEq

namespace Layout

def stateSpace : Nat := 32
def branchSpace : Nat := 4
def rangeSpace : Nat := 8

/-- The largest space of a row, ten mebibytes. -/
def limit : Nat := 0xA00000

def space (l : Layout) : Nat := stateSpace * l.states + l.links

def fits (l : Layout) : Bool := l.space ≤ limit

def plain (l : Layout) (n : Nat) : Layout := { l with states := l.states + n }

def branching (l : Layout) (branches : Nat) : Layout :=
  ⟨l.states + 1, l.links + branches * branchSpace⟩

def reading (l : Layout) (ranges : Nat) : Layout :=
  ⟨l.states + 1, l.links + ranges * rangeSpace⟩

def branch (l : Layout) : Layout := { l with links := l.links + branchSpace }

def copies (part : Layout → Layout) : (n : Nat) → Layout → Layout
  | 0, l => l
  | n + 1, l => if l.fits then copies part n (part l) else l

end Layout

end InlineAssert.Pattern
