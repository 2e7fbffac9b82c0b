import InlineAssert.Pattern.Encoding
import InlineAssert.Pattern.Expr

/-! Regular expressions in the form that is built for them: characters next to each other are words,
sequences and choices are not nested, choices of characters and of sets are sets, and what the
branches of a choice begin with is taken before the choice. The space that a pattern takes is read
off its form. What it matches is that of the expression that its form stands for. -/

namespace InlineAssert.Pattern

inductive Direction : Type
  | forward
  | backward
  deriving DecidableEq

inductive Form : Type
  | empty : Form
  | word : List Char → Form
  | set : CharSet → Form
  | look : Look → Form
  | repeated : (min : Nat) → (max : Option Nat) → (greedy : Bool) → Form → Form
  | capture : Form → Form
  | cat : List Form → Form
  | alt : List Form → Form

namespace Form

def scalars (s : CharSet) : List (Nat × Nat) :=
  s.ranges.flatMap fun (a, b) =>
    [(a, min b 0xd7ff), (max a 0xe000, b)].filter fun r => r.1 ≤ r.2

def ofSet (s : CharSet) : Form :=
  match scalars s with
  | [(a, b)] => if a = b then .word [Char.ofNat a] else .set s
  | _ => .set s

mutual

def toExpr : Form → Expr
  | .empty => .empty
  | .word cs => .seq (cs.map fun c => .one (.single c))
  | .set s => .one s
  | .look l => .look l
  | .repeated min max greedy f => f.toExpr.repeated min max greedy
  | .capture f => f.toExpr
  | .cat fs => .seq (toExprs fs)
  | .alt fs => .either (toExprs fs)

def toExprs : List Form → List Expr
  | [] => []
  | f :: fs => f.toExpr :: toExprs fs

end

def width : List Char → Nat
  | [] => 0
  | c :: cs => c.utf8Size + width cs

mutual

def least : Form → Option Nat
  | .empty | .look _ => some 0
  | .word cs => some (width cs)
  | .set s => (scalars s).head?.map fun r => Encoding.width r.1
  | .repeated min _ _ f => f.least.map (· * min)
  | .capture f => f.least
  | .cat fs => leastOfAll fs
  | .alt fs => leastOfAny fs

def leastOfAll : List Form → Option Nat
  | [] => some 0
  | f :: fs => do return (← f.least) + (← leastOfAll fs)

def leastOfAny : List Form → Option Nat
  | [] => none
  | [f] => f.least
  | f :: fs => do return min (← f.least) (← leastOfAny fs)

end

mutual

def zeroWidth : Form → Bool
  | .empty | .look _ => true
  | .word _ | .set _ => false
  | .repeated _ _ _ f | .capture f => f.zeroWidth
  | .cat fs | .alt fs => zeroWidths fs

def zeroWidths : List Form → Bool
  | [] => true
  | f :: fs => f.zeroWidth && zeroWidths fs

end

mutual

def same : Form → Form → Bool
  | .empty, .empty => true
  | .word a, .word b => a = b
  | .set a, .set b => a = b
  | .look a, .look b => a = b
  | .repeated min max greedy a, .repeated min' max' greedy' b =>
    min = min' && max = max' && greedy = greedy' && a.same b
  | .cat as, .cat bs | .alt as, .alt bs => sameAll as bs
  -- groups that capture are never the same: each has a number of its own
  | _, _ => false

def sameAll : List Form → List Form → Bool
  | [], [] => true
  | a :: as, b :: bs => a.same b && sameAll as bs
  | _, _ => false

end

mutual

def anyLook (p : Look → Bool) : Form → Bool
  | .empty | .word _ | .set _ => false
  | .look l => p l
  | .repeated _ _ _ f | .capture f => f.anyLook p
  | .cat fs | .alt fs => anyLooks p fs

def anyLooks (p : Look → Bool) : List Form → Bool
  | [] => false
  | f :: fs => f.anyLook p || anyLooks p fs

end

mutual

def bound (d : Direction) (l : Look) : Form → Bool
  | .empty | .word _ | .set _ => false
  | .look l' => l' = l
  | .repeated min _ _ f => 0 < min && f.bound d l
  | .capture f => f.bound d l
  | .cat fs => boundInTurn d l fs
  | .alt fs => allBound d l fs

def boundInTurn (d : Direction) (l : Look) : List Form → Bool
  | [] => false
  | f :: fs =>
    match d with
    | .forward => f.bound d l || (f.zeroWidth && boundInTurn d l fs)
    | .backward => boundInTurn d l fs || (zeroWidths fs && f.bound d l)

def allBound (d : Direction) (l : Look) : List Form → Bool
  | [] => true
  | f :: fs => f.bound d l && allBound d l fs

end

def parts : Form → List Form
  | .empty => []
  | .cat fs => fs
  | f => [f]

def joinWords : List Form → List Form
  | [] => []
  | .word a :: fs =>
    match joinWords fs with
    | .word b :: rest => .word (a ++ b) :: rest
    | rest => .word a :: rest
  | f :: fs => f :: joinWords fs

def seq (fs : List Form) : Form :=
  match joinWords (fs.flatMap parts) with
  | [] => .empty
  | [f] => f
  | fs => .cat fs

def branches : Form → List Form
  | .alt fs => fs
  | f => [f]

def char? : Form → Option CharSet
  | .word [c] => some (.single c)
  | _ => none

def word? : Form → Option (List Char)
  | .word cs => some cs
  | _ => none

def set? : Form → Option CharSet
  | .set s => some s
  | _ => none

def choice (fs : List Form) : Form :=
  match fs with
  | [f] => f
  | fs =>
    match (fs.mapM char?).or (fs.mapM set?) with
    | some sets => ofSet (sets.foldl .union .empty)
    | none => .alt fs

def commonLength : List Form → List Form → Nat
  | a :: as, b :: bs => if a.same b then commonLength as bs + 1 else 0
  | _, _ => 0

def sequence? : Form → Option (List Form)
  | .cat fs => some fs
  | _ => none

/-- A choice of sequences that begin alike is the common beginning and a choice of the rest, so how
much the beginning takes is preferred before the branch is. -/
def either (fs : List Form) : Form :=
  match choice (fs.flatMap branches) with
  | .alt fs =>
    match fs.mapM sequence? with
    | some (first :: others) =>
      match others.foldl (fun n fs => min n (commonLength (first.take n) fs)) first.length with
      | 0 => .alt fs
      | n =>
        let rests := (first :: others).map fun parts => seq (parts.drop n)
        seq (first.take n ++ [choice (rests.flatMap branches)])
    | _ => .alt fs
  | f => f

def times (min : Nat) (max : Option Nat) (greedy : Bool) (f : Form) : Form :=
  let (min, max) := if f.zeroWidth then (Nat.min min 1, some ((max.getD 1).min 1)) else (min, max)
  match min, max with
  | 0, some 0 => .empty
  | 1, some 1 => f
  | min, max => .repeated min max greedy f

end Form

end InlineAssert.Pattern
