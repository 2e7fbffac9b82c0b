import InlineAssert.Bytes

namespace InlineAssert

/-- Line numbers are 32-bit; a later line is numbered like the last that fits. -/
def lineLimit : Nat := 0xFFFFFFFF

def newline : UInt8 := 10

structure LineTable where
  starts : List Nat
  deriving DecidableEq

namespace LineTable

def startsFrom (pos : Nat) : Bytes → List Nat
  | [] => []
  | b :: bs => if b = newline then (pos + 1) :: startsFrom (pos + 1) bs else startsFrom (pos + 1) bs

def ofBytes (source : Bytes) : LineTable := ⟨0 :: startsFrom 0 source⟩

def count (t : LineTable) : Nat := t.starts.length

def lineOf (t : LineTable) (offset : Nat) : Nat :=
  min (t.starts.takeWhile (· ≤ offset)).length lineLimit

/-- The number of the last start that is not behind `offset`, by halving: it is sought among `size`
starts from number `base` on, which itself is taken for one. -/
def halve (t : LineTable) (offset base size : Nat) : Nat :=
  if size ≤ 1 then base
  else
    let middle := base + size / 2
    t.halve offset (if t.starts.getD middle 0 ≤ offset then middle else base) (size - size / 2)
termination_by size

def search (t : LineTable) (offset : Nat) : Except Nat Nat :=
  let last := t.halve offset 0 t.count
  match t.starts[last]? with
  | none => .error 0
  | some start =>
    if start = offset then .ok last else .error (if start < offset then last + 1 else last)

def findLine (t : LineTable) (offset : Nat) : Nat :=
  let index := match t.search offset with
    | .ok found => found
    | .error inserted => inserted - 1
  min (index + 1) lineLimit

def line? (t : LineTable) (source : Bytes) : Nat → Option Bytes
  | 0 => none
  | k + 1 => do
    let start ← t.starts[k]?
    let rest := source.drop start
    match t.starts[k + 1]? with
    | none => return Bytes.dropReturn rest
    | some next => return Bytes.dropReturn (rest.take (next - 1 - start))

end LineTable

end InlineAssert
