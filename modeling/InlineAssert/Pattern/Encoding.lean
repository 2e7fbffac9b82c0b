import InlineAssert.CharSet

namespace InlineAssert.Pattern

structure ByteRange where
  first : Nat
  last : Nat
  deriving DecidableEq

namespace Encoding

def width (n : Nat) : Nat :=
  if n < 0x80 then 1 else if n < 0x800 then 2 else if n < 0x10000 then 3 else 4

def leadMark (width : Nat) : Nat :=
  match width with
  | 1 => 0
  | 2 => 0xc0
  | 3 => 0xe0
  | _ => 0xf0

/-- The ranges of the digits, base 64, that the numbers from `a` to `b` take. There are `n` digits
after the first. -/
def digitRanges : (n a b : Nat) → List (List ByteRange)
  | 0, a, b => [[⟨a, b⟩]]
  | n + 1, a, b =>
    let unit := 64 ^ (n + 1)
    let first := a / unit
    let last := b / unit
    if first = last then (digitRanges n (a % unit) (b % unit)).map (⟨first, first⟩ :: ·)
    else
      let low := if a % unit = 0 then [] else
        (digitRanges n (a % unit) (unit - 1)).map (⟨first, first⟩ :: ·)
      let high := if b % unit = unit - 1 then [] else
        (digitRanges n 0 (b % unit)).map (⟨last, last⟩ :: ·)
      let start := if a % unit = 0 then first else first + 1
      let stop := if b % unit = unit - 1 then last + 1 else last
      let middle := if start < stop then
        (digitRanges n 0 (unit - 1)).map (⟨start, stop - 1⟩ :: ·) else []
      low ++ middle ++ high

def mark (width : Nat) : List ByteRange → List ByteRange
  | [] => []
  | r :: rs =>
    ⟨leadMark width + r.first, leadMark width + r.last⟩ ::
      rs.map fun r => ⟨0x80 + r.first, 0x80 + r.last⟩

def spans : List (Nat × Nat) :=
  [(0, 0x7f), (0x80, 0x7ff), (0x800, 0xd7ff), (0xe000, 0xffff), (0x10000, 0x10ffff)]

def sequences (s : CharSet) : List (List ByteRange) :=
  s.ranges.flatMap fun (a, b) => spans.flatMap fun (lo, hi) =>
    let start := max a lo
    let stop := min b hi
    let w := width start
    if start ≤ stop then (digitRanges (w - 1) start stop).map (mark w) else []

end Encoding

end InlineAssert.Pattern
