import InlineAssert.Text

namespace InlineAssert

/-- Characters below the first turn are out, from there to the second in, and so on. The turns
ascend. -/
structure CharSet where
  turns : List Nat
  deriving DecidableEq

namespace CharSet

def codePoints : Nat := 0x110000

def inside : (state : Bool) → (turns : List Nat) → Nat → Bool
  | state, [], _ => state
  | state, t :: ts, n => if n < t then state else inside (!state) ts n

def hasCode (s : CharSet) (n : Nat) : Bool := inside false s.turns n

def contains (s : CharSet) (c : Char) : Bool := s.hasCode c.toNat

def empty : CharSet := ⟨[]⟩

def range (first last : Nat) : CharSet := if first ≤ last then ⟨[first, last + 1]⟩ else empty

def single (c : Char) : CharSet := range c.toNat c.toNat

def changes (f : Nat → Bool) : (state : Bool) → (points : List Nat) → List Nat
  | _, [] => []
  | state, p :: ps => if f p = state then changes f state ps else p :: changes f (f p) ps

def place (x : Nat) (rest : List Nat → List Nat) : List Nat → List Nat
  | [] => x :: rest []
  | y :: ys => if x ≤ y then x :: rest (y :: ys) else y :: place x rest ys

def merge : List Nat → List Nat → List Nat
  | [], ys => ys
  | x :: xs, ys => place x (merge xs) ys

def combine (op : Bool → Bool → Bool) (a b : CharSet) : CharSet :=
  ⟨changes (fun n => op (a.hasCode n) (b.hasCode n)) false (0 :: merge a.turns b.turns)⟩

def union (a b : CharSet) : CharSet := combine or a b

def inter (a b : CharSet) : CharSet := combine and a b

def diff (a b : CharSet) : CharSet := combine (fun x y => x && !y) a b

def symmDiff (a b : CharSet) : CharSet := combine xor a b

def compl (a : CharSet) : CharSet := combine (fun x _ => !x) a empty

def ofAscending : List Nat → List Nat
  | [] => []
  | n :: ns =>
    match ofAscending ns with
    | t :: ts => if t = n + 1 then n :: ts else if t = n then t :: ts else n :: (n + 1) :: t :: ts
    | [] => [n, n + 1]

def ofChars (cs : List Char) : CharSet :=
  ⟨ofAscending (cs.foldr (fun c ns => place c.toNat id ns) [])⟩

def close (orbits : List (List Char)) (s : CharSet) : CharSet :=
  s.union (ofChars (orbits.filter fun orbit => orbit.any s.contains).flatten)

def rangesFrom : List Nat → List (Nat × Nat)
  | [] => []
  | [t] => [(t, codePoints - 1)]
  | t :: u :: ts => (t, u - 1) :: rangesFrom ts

def ranges (s : CharSet) : List (Nat × Nat) :=
  rangesFrom (s.turns.takeWhile (· < codePoints))

def isAscii (s : CharSet) : Bool := s.ranges.all fun r => r.2 < 128

def hexValue (digits : List Char) : Nat :=
  digits.foldl (fun n c => 16 * n + if c.isDigit then c.toNat - 48 else c.toNat - 87) 0

def sums : (last : Nat) → List Nat → List Nat
  | _, [] => []
  | last, n :: ns => (last + n) :: sums (last + n) ns

def ofSteps (steps : String) : CharSet := ⟨sums 0 ((Text.words steps.toList).map hexValue)⟩

def dropPairs : List Nat → List Nat
  | a :: b :: ns => if a = b then dropPairs ns else a :: dropPairs (b :: ns)
  | ns => ns

def ofDisjoint (sets : List CharSet) : CharSet :=
  ⟨dropPairs (sets.foldl (fun ts s => merge ts s.turns) [])⟩

end CharSet

end InlineAssert
