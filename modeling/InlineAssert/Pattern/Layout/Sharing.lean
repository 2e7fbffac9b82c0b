import InlineAssert.Pattern.Encoding
import InlineAssert.Pattern.Layout
import Std.Data.TreeMap

/-! States for the characters of a set. Those that read the same bytes and lead to the same states
are shared, as far as they are remembered: a table has so many slots, and what is put into a slot
takes the place of what was there. -/

namespace InlineAssert.Pattern

structure Sharing where
  layout : Layout
  table : Std.TreeMap Nat (List Nat × Nat) := ∅

namespace Sharing

/-- The slot of a key. The numbers of the key are taken in one after the other, each by an exclusive
or and a multiplication of 64 bits. -/
def slot (slots : Nat) (key : List Nat) : Nat :=
  (key.foldl (fun (h : UInt64) n => (h ^^^ n.toUInt64) * 0x100000001b3)
    0xcbf29ce484222325).toNat % slots

def state (slots : Nat) (add : Layout → Layout) (key : List Nat) (s : Sharing) : Nat × Sharing :=
  let place := slot slots key
  let new := s.layout.states
  let build := (new, ⟨add s.layout, s.table.insert place (key, new)⟩)
  match s.table[place]? with
  | some (key', state) => if key' = key then (state, s) else build
  | none => build

def forward (target : Nat) : (depth : Nat) → List (List ByteRange) → Sharing → Nat × Sharing
  | 0, _, s => (target, s)
  | depth + 1, sequences, s =>
    let groups := sequences.splitBy fun a b => a.head? = b.head?
    let (links, s) := groups.foldl (fun (links, s) group =>
      match group with
      | (r :: rest) :: more =>
        let (next, s) :=
          if rest.isEmpty then (target, s)
          else forward target depth (rest :: more.map List.tail) s
        (links ++ [r.first, r.last, next], s)
      | _ => (links, s)) ([], s)
    s.state 10000 (·.reading groups.length) links

def backward : List ByteRange → (next : Nat) → Sharing → Sharing
  | [], _, s => { s with layout := s.layout.branch }
  | r :: rs, next, s =>
    let (new, s) := s.state 1000 (·.plain 1) [next, r.first, r.last]
    backward rs new s

end Sharing

def Layout.addForward (sequences : List (List ByteRange)) (l : Layout) : Layout :=
  (Sharing.forward l.states 4 sequences ⟨l.plain 1, ∅⟩).2.layout

def Layout.addBackward (sequences : List (List ByteRange)) (l : Layout) : Layout :=
  let start : Sharing := ⟨(l.branching 0).plain 1, ∅⟩
  (sequences.foldl (fun s ranges => s.backward ranges (l.states + 1)) start).layout

end InlineAssert.Pattern
