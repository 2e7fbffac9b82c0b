import InlineAssert.KeyIndex

namespace InlineAssert

structure IndexedMap (V : Type) where
  index : KeyIndex := {}
  keys : List String := []
  values : List V := []

namespace IndexedMap

variable {V σ : Type}

/-- All three parts are compared, the index without regard to order. -/
instance [BEq V] : BEq (IndexedMap V) :=
  ⟨fun a b => a.index == b.index && a.keys == b.keys && a.values == b.values⟩

def size (m : IndexedMap V) : Nat := m.values.length

def isEmpty (m : IndexedMap V) : Bool := m.values.isEmpty

def index? (m : IndexedMap V) (key : String) : Option Nat := m.index.find? key

def get? (m : IndexedMap V) (key : String) : Option V := do m.values[← m.index? key]?

def at? (m : IndexedMap V) (i : Nat) : Option (String × V) :=
  return (← m.keys[i]?, ← m.values[i]?)

def entries (m : IndexedMap V) : List (String × V) := m.keys.zip m.values

def push (m : IndexedMap V) (key : String) (value : V) : IndexedMap V :=
  ⟨m.index.insert key m.size, m.keys ++ [key], m.values ++ [value]⟩

def modifyAt (m : IndexedMap V) (i : Nat) (change : V → V) : IndexedMap V :=
  { m with values := m.values.modify i change }

def getOrInsertWith (m : IndexedMap V) (key : String) (make : σ → V × σ) (state : σ) :
    (IndexedMap V × Nat) × σ :=
  match m.index? key with
  | some i => ((m, i), state)
  | none =>
    let (value, state) := make state
    ((m.push key value, m.size), state)

def insert (m : IndexedMap V) (key : String) (value : V) : IndexedMap V × Nat :=
  match m.index? key with
  | some i => (m.modifyAt i fun _ => value, i)
  | none => (m.getOrInsertWith key (fun state => (value, state)) ()).1

def ofList (entries : List (String × V)) : IndexedMap V :=
  entries.foldl (fun m e => (m.insert e.1 e.2).1) {}

end IndexedMap

end InlineAssert
