import InlineAssert.CharSet
import InlineAssert.Unicode.Property

namespace InlineAssert.Pattern

def wordChars : CharSet := .ofSteps Unicode.wordSteps

def asciiWordChars : CharSet :=
  ⟨[0x30, 0x3a, 0x41, 0x5b, 0x5f, 0x60, 0x61, 0x7b]⟩

inductive WordEdge : Type
  | boundary
  | nonBoundary
  | start
  | stop
  | startHalf
  | stopHalf
  deriving DecidableEq

inductive Look : Type
  | textStart
  | textEnd
  | lineStart : (crlf : Bool) → Look
  | lineEnd : (crlf : Bool) → Look
  | word : WordEdge → (unicode : Bool) → Look
  deriving DecidableEq

def WordEdge.holds : WordEdge → (before after : Bool) → Bool
  | .boundary, b, a => b != a
  | .nonBoundary, b, a => b == a
  | .start, b, a => !b && a
  | .stop, b, a => b && !a
  | .startHalf, b, _ => !b
  | .stopHalf, _, a => !a

def Look.holds : Look → (before after : Option Char) → Bool
  | .textStart, b, _ => b.isNone
  | .textEnd, _, a => a.isNone
  | .lineStart false, b, _ => b.all (· = '\n')
  -- between a return and a newline no line starts or ends
  | .lineStart true, b, a => b.all fun c => c = '\n' || (c = '\r' && a != some '\n')
  | .lineEnd false, _, a => a.all (· = '\n')
  | .lineEnd true, b, a => a.all fun c => c = '\r' || (c = '\n' && b != some '\r')
  | .word edge unicode, b, a =>
    let chars := if unicode then wordChars else asciiWordChars
    edge.holds (b.any chars.contains) (a.any chars.contains)

inductive Expr : Type
  | empty : Expr
  | one : CharSet → Expr
  | look : Look → Expr
  | cat : Expr → Expr → Expr
  | alt : Expr → Expr → Expr
  | times : Nat → Expr → Expr
  | upTo : Nat → (greedy : Bool) → Expr → Expr
  | star : (greedy : Bool) → Expr → Expr
  | plus : (greedy : Bool) → Expr → Expr
  deriving DecidableEq

/-- `e.Spans text i j`: the expression matches the characters of `text` from `i` up to `j`. -/
inductive Expr.Spans (text : Array Char) : Expr → Nat → Nat → Prop
  | empty : Spans text .empty i i
  | one : text[i]? = some c → s.contains c → Spans text (.one s) i (i + 1)
  | look : l.holds (if i = 0 then none else text[i - 1]?) text[i]? → Spans text (.look l) i i
  | cat : Spans text a i j → Spans text b j k → Spans text (.cat a b) i k
  | altLeft : Spans text a i j → Spans text (.alt a b) i j
  | altRight : Spans text b i j → Spans text (.alt a b) i j
  | timesZero : Spans text (.times 0 e) i i
  | timesSucc : Spans text e i j → Spans text (.times n e) j k → Spans text (.times (n + 1) e) i k
  | upToStop : Spans text (.upTo n g e) i i
  | upToSucc : Spans text e i j → Spans text (.upTo n g e) j k → Spans text (.upTo (n + 1) g e) i k
  | starStop : Spans text (.star g e) i i
  | starStep : Spans text e i j → Spans text (.star g e) j k → Spans text (.star g e) i k
  | plus : Spans text e i j → Spans text (.star g e) j k → Spans text (.plus g e) i k

namespace Expr

def nullable : Expr → Bool
  | .empty | .look _ | .upTo .. | .star .. => true
  | .one _ => false
  | .cat a b => a.nullable && b.nullable
  | .alt a b => a.nullable || b.nullable
  | .plus _ e => e.nullable
  | .times n e => n = 0 || e.nullable

def seq : List Expr → Expr
  | [] => .empty
  | [e] => e
  | e :: es => .cat e (seq es)

def either : List Expr → Expr
  | [] => .one .empty
  | [e] => e
  | e :: es => .alt e (either es)

/-- Any number of times. Where the expression can match without a character, whether to try it at
all and whether to try it again are separate choices. -/
def many (greedy : Bool) (e : Expr) : Expr :=
  if e.nullable then .upTo 1 greedy (.plus greedy e) else .star greedy e

def repeated (min : Nat) (max : Option Nat) (greedy : Bool) (e : Expr) : Expr :=
  match min, max with
  | 0, none => many greedy e
  | 1, none => .plus greedy e
  | n, none => .cat (.times (n - 1) e) (.plus greedy e)
  | 0, some m => .upTo m greedy e
  | n, some m => if n = m then .times n e else .cat (.times n e) (.upTo (m - n) greedy e)

end Expr

end InlineAssert.Pattern
