import InlineAssert.Allocation
import InlineAssert.OrderedMap
import InlineAssert.Quoted
import InlineAssert.Text

namespace InlineAssert

structure Measurement where
  allocs : Int := 0
  bytes : Int := 0
  deriving DecidableEq

namespace Measurement

def limit : Nat := 0x7FFFFFFFFFFFFFFF

def perRun (counts : Counts) (runs : Nat) : Measurement :=
  -- no runs count as one
  let mean (n : Nat) : Int := (min (n / max runs 1) limit : Nat)
  ⟨mean counts.allocs, mean counts.bytes⟩

end Measurement

structure Provider (σ : Type) where
  measure : σ → String → Option Measurement × σ

namespace Provider

def ofMap : Provider (OrderedMap Measurement) where
  measure m id := (m.get? id, m)

def always (m : Measurement) : Provider Unit where
  measure s _ := (some m, s)

end Provider

abbrev Action (σ : Type) := σ × Counter → σ × Counter

structure Bencher where
  iterations : Nat
  iterations_pos : 0 < iterations
  measurement : Option Measurement := none
  deriving DecidableEq

namespace Bencher

def defaultIterations : Nat := 100

def ofIterations (n : Nat) : Bencher where
  iterations := max n 1
  iterations_pos := by omega

def runs (op : Action σ) : (n : Nat) → Action σ
  | 0, t => t
  | n + 1, t => runs op n (op t)

def iter (b : Bencher) (op : Action σ) (t : σ × Counter) : Bencher × σ × Counter :=
  let (s, c) := op t
  let (c, s, counted) := c.window fun c => (runs op b.iterations (s, c)).swap
  ({ b with measurement := some (.perRun counted b.iterations) }, s, c)

inductive Step (σ : Type) : Type
  | iter : Action σ → Step σ
  | other : Action σ → Step σ

def step : Bencher × σ × Counter → Step σ → Bencher × σ × Counter
  | (b, t), .iter op => b.iter op t
  | (b, t), .other act => (b, act t)

def run (iterations : Nat) (steps : List (Step σ)) (t : σ × Counter) :
    Option Measurement × σ × Counter :=
  let last := steps.foldl step (ofIterations iterations, t)
  (last.1.measurement, last.2)

end Bencher

/-- A benchmark: the operations it measures one after the other. An operation is given by the sizes
that its runs allocate, taken in turn. -/
abbrev Benchmark := List (List (List Nat))

structure Tally where
  turn : Nat := 0
  calls : Nat := 0
  deriving DecidableEq

namespace Benchmark

def op (turns : List (List Nat)) : Action Tally := fun (tally, c) =>
  let sizes := turns.getD (tally.turn % turns.length) []
  (⟨tally.turn + 1, tally.calls + 1⟩,
    (sizes.map Request.alloc).foldl (fun c r => r.run r.isGiven c) c)

def steps (body : Benchmark) : List (Bencher.Step Tally) :=
  body.flatMap fun turns =>
    [.other fun (tally, c) => ({ tally with turn := 0 }, c), .iter (op turns)]

def run (body : Benchmark) (b : Bencher) (c : Counter) : Bencher × Tally × Counter :=
  body.steps.foldl Bencher.step (b, {}, c)

def calls (body : Benchmark) (b : Bencher) : Nat := (body.run b {}).2.1.calls

end Benchmark

structure Benchmarks where
  iterations : Nat := Bencher.defaultIterations
  bodies : OrderedMap Benchmark := .empty
  counter : Counter := {}

namespace Benchmarks

def register (b : Benchmarks) (id : String) (body : Benchmark) : Benchmarks :=
  { b with bodies := b.bodies.insert id body }

def measure (b : Benchmarks) (id : String) : Option Measurement × Benchmarks :=
  match b.bodies.get? id with
  | none => (none, b)
  | some body =>
    let (measurement, _, counter) := Bencher.run b.iterations body.steps ({}, b.counter)
    (measurement, { b with counter })

def provider : Provider Benchmarks := ⟨measure⟩

def size (b : Benchmarks) : Nat := b.bodies.size

def isEmpty (b : Benchmarks) : Bool := b.bodies.isEmpty

def contains (b : Benchmarks) (id : String) : Bool := b.bodies.contains id

def calls (b : Benchmarks) (id : String) : Nat :=
  ((b.bodies.get? id).map (Benchmark.calls · (.ofIterations b.iterations))).getD 0

def describe (b : Benchmarks) : String :=
  let ids := b.bodies.keys.mergeSort (· ≤ ·)
  "Benchmarks \x7b iterations: " ++ toString b.iterations ++ ", ids: [" ++
    Text.join ", " (ids.map Quoted.quote) ++ "] \x7d"

end Benchmarks

end InlineAssert
