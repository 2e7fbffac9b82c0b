import InlineAssert.OrderedMap
import InlineAssert.TestCase

namespace InlineAssert

inductive Node : Type
  | mk : (children : OrderedMap Node) → (leaves : List TestCase) → Node

structure Location where
  groups : List Nat
  leaf : Nat
  deriving DecidableEq

namespace Node

def empty : Node := .mk .empty []

def children : Node → OrderedMap Node
  | .mk children _ => children

def leaves : Node → List TestCase
  | .mk _ leaves => leaves

mutual

def beq : Node → Node → Bool
  | .mk ⟨es⟩ ls, .mk ⟨fs⟩ ms => beqAll es fs && ls == ms

def beqAll : List (String × Node) → List (String × Node) → Bool
  | [], [] => true
  | (s, m) :: es, (t, n) :: fs => s == t && beq m n && beqAll es fs
  | _, _ => false

end

instance : BEq Node := ⟨beq⟩

mutual

def caseCount : Node → Nat
  | .mk ⟨es⟩ ls => ls.length + caseCountAll es

def caseCountAll : List (String × Node) → Nat
  | [] => 0
  | (_, n) :: es => caseCount n + caseCountAll es

end

mutual

def records : Node → List TestCase
  | .mk ⟨es⟩ ls => recordsAll es ++ ls

def recordsAll : List (String × Node) → List TestCase
  | [] => []
  | (_, n) :: es => records n ++ recordsAll es

end

def withChild (n : Node) (segment : String) (child : Node) : Node :=
  .mk (n.children.insert segment child) n.leaves

def withLeaf (n : Node) (leaf : TestCase) : Node := .mk n.children (n.leaves ++ [leaf])

def place (leaf : TestCase) : (groups : List String) → Node → Node × Location
  | [], n => (n.withLeaf leaf, ⟨[], n.leaves.length⟩)
  | g :: gs, n =>
    let (child, location) := place leaf gs ((n.children.get? g).getD .empty)
    (n.withChild g child, ⟨n.children.position g :: location.groups, location.leaf⟩)

def descend? : List Nat → Node → Option (List String × Node)
  | [], n => some ([], n)
  | i :: is, n => do
    let (segment, child) ← n.children.at? i
    let (segments, group) ← descend? is child
    return (segment :: segments, group)

def find? : List String → Node → Option Node
  | [], n => some n
  | g :: gs, n => do find? gs (← n.children.get? g)

end Node

structure Tree where
  root : Node
  locations : OrderedMap Location

namespace Tree

def empty : Tree := ⟨.empty, .empty⟩

/-- Trees are the same if their nodes are. -/
instance : BEq Tree := ⟨fun a b => a.root == b.root⟩

def size (t : Tree) : Nat := t.locations.size

def isEmpty (t : Tree) : Bool := t.locations.isEmpty

def get? (t : Tree) (id : String) : Option TestCase := do
  let location ← t.locations.get? id
  let (_, group) ← t.root.descend? location.groups
  group.leaves[location.leaf]?

def groupPath? (t : Tree) (id : String) : Option (List String) := do
  let location ← t.locations.get? id
  return (← t.root.descend? location.groups).1

/-- Places a case by its path, with the last segment for its name. The first case of an id
stays. -/
def insert (t : Tree) (c : TestCase) : Tree :=
  if t.locations.contains c.id then t
  else
    let name := c.path.getLast?.getD c.id
    let (root, location) := t.root.place { c with name } c.path.dropLast
    ⟨root, t.locations.insert c.id location⟩

def extend (t : Tree) (cases : List TestCase) : Tree := cases.foldl insert t

def ofCases (cases : List TestCase) : Tree := empty.extend cases

def caseCount (t : Tree) : Nat := t.root.caseCount

end Tree

end InlineAssert
