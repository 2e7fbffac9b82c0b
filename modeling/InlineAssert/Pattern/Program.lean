import InlineAssert.Pattern.Expr
import Std.Data.TreeSet

/-! The machine that finds what an expression matches. An expression becomes a list of instructions
laid out from one address; a search follows them depth first, the preferred choice of a split
first, and visits no instruction twice at one place of the text. -/

namespace InlineAssert.Pattern

inductive Inst : Type
  | jump : (next : Nat) → Inst
  | one : CharSet → (next : Nat) → Inst
  | look : Look → (next : Nat) → Inst
  | split : (first second : Nat) → Inst
  | accept
  deriving DecidableEq

namespace Expr

def size : Expr → Nat
  | .empty | .one _ | .look _ => 1
  | .cat a b => a.size + b.size
  | .alt a b => 1 + a.size + b.size
  | .times n e => n * e.size + 1
  | .upTo n _ e => n * (e.size + 1) + 1
  | .star _ e | .plus _ e => e.size + 1

def choice (greedy : Bool) (again next : Nat) : Inst :=
  if greedy then .split again next else .split next again

def emit : Expr → (pos next : Nat) → List Inst
  | .empty, _, next => [.jump next]
  | .one s, _, next => [.one s next]
  | .look l, _, next => [.look l next]
  | .cat a b, pos, next => a.emit pos (pos + a.size) ++ b.emit (pos + a.size) next
  | .alt a b, pos, next =>
    .split (pos + 1) (pos + 1 + a.size) ::
      (a.emit (pos + 1) next ++ b.emit (pos + 1 + a.size) next)
  | .times n e, pos, next =>
    ((List.range n).flatMap fun k => e.emit (pos + k * e.size) (pos + (k + 1) * e.size)) ++
      [.jump next]
  | .upTo n greedy e, pos, next =>
    ((List.range n).flatMap fun k =>
      let here := pos + k * (e.size + 1)
      choice greedy (here + 1) next :: e.emit (here + 1) (here + 1 + e.size)) ++ [.jump next]
  | .star greedy e, pos, next => choice greedy (pos + 1) next :: e.emit (pos + 1) pos
  | .plus greedy e, pos, next => e.emit pos (pos + e.size) ++ [choice greedy pos next]

end Expr

structure Program where
  insts : Array Inst
  deriving DecidableEq

structure Thread where
  inst : Nat
  pos : Nat
  deriving DecidableEq

namespace Program

def ofExpr (e : Expr) : Program := ⟨(e.emit 0 e.size ++ [Inst.accept]).toArray⟩

def step (p : Program) (text : Array Char) (t : Thread) : List Thread :=
  match p.insts[t.inst]? with
  | some (.jump next) => [⟨next, t.pos⟩]
  | some (.one s next) => if text[t.pos]?.any s.contains then [⟨next, t.pos + 1⟩] else []
  | some (.look l next) =>
    if l.holds (if t.pos = 0 then none else text[t.pos - 1]?) text[t.pos]? then [⟨next, t.pos⟩]
    else []
  | some (.split first second) => [⟨first, t.pos⟩, ⟨second, t.pos⟩]
  | _ => []

def accepts (p : Program) (t : Thread) : Bool :=
  match p.insts[t.inst]? with
  | some .accept => true
  | _ => false

def number (p : Program) (t : Thread) : Nat := t.pos * p.insts.size + t.inst

structure Outcome where
  stop : Option Nat
  visited : Std.TreeSet Nat

/-- Follows the threads of `stack` depth first until one accepts. Threads of `visited` have been
followed before, and none of what they lead to accepts. -/
def explore (p : Program) (text : Array Char) :
    (fuel : Nat) → (stack : List Thread) → (visited : Std.TreeSet Nat) → Outcome
  | _, [], visited => ⟨none, visited⟩
  | 0, _ :: _, visited => ⟨none, visited⟩
  | fuel + 1, t :: stack, visited =>
    if visited.contains (p.number t) then explore p text fuel stack visited
    else if p.accepts t then ⟨some t.pos, visited⟩
    else explore p text fuel (p.step text t ++ stack) (visited.insert (p.number t))

/-- A search visits each pair of instruction and place once, and each visit leaves at most two
threads. -/
def fuel (p : Program) (text : Array Char) : Nat := 2 * p.insts.size * (text.size + 1) + 2

def findFrom (p : Program) (text : Array Char) : (left : Nat) → Std.TreeSet Nat → Option (Nat × Nat)
  | 0, _ => none
  | left + 1, visited =>
    let start := text.size - left
    let outcome := p.explore text (p.fuel text) [⟨0, start⟩] visited
    match outcome.stop with
    | some stop => some (start, stop)
    | none => findFrom p text left outcome.visited

def find? (p : Program) (text : Array Char) : Option (Nat × Nat) :=
  p.findFrom text (text.size + 1) ∅

end Program

end InlineAssert.Pattern
