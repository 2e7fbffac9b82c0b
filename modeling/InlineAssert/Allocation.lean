namespace InlineAssert

structure Counts where
  allocs : Nat := 0
  bytes : Nat := 0
  deriving DecidableEq

def Counts.since (later earlier : Counts) : Counts :=
  ⟨later.allocs - earlier.allocs, later.bytes - earlier.bytes⟩

structure Counter where
  counting : Bool := false
  counts : Counts := {}
  deriving DecidableEq

namespace Counter

def limit : Nat := 0xFFFFFFFFFFFFFFFF

def record (c : Counter) (bytes : Nat) : Counter :=
  if c.counting then
    { c with counts := ⟨min (c.counts.allocs + 1) limit, min (c.counts.bytes + bytes) limit⟩ }
  else c

def window (run : Counter → Counter × α) (c : Counter) : Counter × α × Counts :=
  let (inner, result) := run { c with counting := true }
  ({ inner with counting := c.counting }, result, inner.counts.since c.counts)

end Counter

inductive Request : Type
  | alloc : (size : Nat) → Request
  | allocZeroed : (size : Nat) → Request
  | realloc : (old new : Nat) → Request
  deriving DecidableEq

namespace Request

def size : Request → Nat
  | .alloc n | .allocZeroed n => n
  | .realloc _ new => new

def cost : Request → Nat
  | .alloc n | .allocZeroed n => n
  | .realloc old new => new - old

/-- A block of this size is never given. -/
def limit : Nat := 0x4000000000000000

def isGiven (r : Request) : Bool := r.size < limit

def run (r : Request) (granted : Bool) (c : Counter) : Counter :=
  if granted then c.record r.cost else c

end Request

inductive Call : Type
  | request : Request → (granted : Bool) → Call
  | counts : Call
  | isCounting : Call
  | isInstalled : Call
  | count : List Call → Call
  | panic : Call
  | catch : List Call → Call
  | thread : List Call → Call

inductive Answer : Type
  | granted : Bool → Answer
  | counts : Counts → Answer
  | flag : Bool → Answer
  | counted : List Answer → Counts → Answer
  | caught : Option (List Answer) → Answer
  | joined : Option (List Answer) → Answer

namespace Call

def ask (r : Request) : Call := .request r r.isGiven

mutual

/-- The counter after a call and its answer, if the call does not end in a panic. A panic leaves
every window up to the nearest `catch` or thread. A new thread has a counter of its own. The
allocations of the program itself are not counted, so the counting is never found installed. -/
def run : Call → Counter → Counter × Option Answer
  | .request r granted, c => (r.run granted c, some (.granted granted))
  | .counts, c => (c, some (.counts c.counts))
  | .isCounting, c => (c, some (.flag c.counting))
  | .isInstalled, c => (c, some (.flag false))
  | .count calls, c =>
    let (c, answers, counted) := c.window (runAll calls)
    (c, answers.map (.counted · counted))
  | .panic, c => (c, none)
  | .catch calls, c =>
    let (c, answers) := runAll calls c
    (c, some (.caught answers))
  | .thread calls, c => (c, some (.joined (runAll calls {}).2))

def runAll : List Call → Counter → Counter × Option (List Answer)
  | [], c => (c, some [])
  | call :: calls, c =>
    match run call c with
    | (c, none) => (c, none)
    | (c, some answer) =>
      let (c, answers) := runAll calls c
      (c, answers.map (answer :: ·))

end

end Call

end InlineAssert
