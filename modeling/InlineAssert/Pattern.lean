import InlineAssert.Pattern.Footprint
import InlineAssert.Pattern.Program
import InlineAssert.Pattern.Reader

namespace InlineAssert

inductive PatternError : Type
  | malformed
  | tooBig
  deriving DecidableEq

namespace Pattern

def Expr.ofText (text : String) : Except PatternError Expr :=
  match Form.read? text.toList with
  | none => .error .malformed
  | some form => if form.fits then .ok form.toExpr else .error .tooBig

end Pattern

/-- A text that writes an expression. The text alone decides what it finds. -/
structure Pattern where
  text : String
  expr : Pattern.Expr
  reads : Pattern.Expr.ofText text = .ok expr

namespace Pattern

def ofText (text : String) : Except PatternError Pattern :=
  match h : Expr.ofText text with
  | .ok expr => .ok ⟨text, expr, h⟩
  | .error error => .error error

@[ext] theorem ext_text {p q : Pattern} (h : p.text = q.text) : p = q := by
  obtain ⟨t, e, hp⟩ := p
  obtain ⟨u, f, hq⟩ := q
  cases h
  simp only [hp, Except.ok.injEq] at hq
  simp [hq]

instance : DecidableEq Pattern := fun p q =>
  if h : p.text = q.text then isTrue (ext_text h) else isFalse fun e => h (congrArg text e)

def find? (p : Pattern) (text : String) : Option String :=
  let chars := text.toList.toArray
  ((Program.ofExpr p.expr).find? chars).map fun (start, stop) =>
    String.ofList (chars.extract start stop).toList

def isSpecial (c : Char) : Bool :=
  ['\\', '.', '+', '*', '?', '(', ')', '|', '[', ']', '\x7b', '\x7d', '^', '$', '#', '&', '-',
    '~'].contains c

def escape (text : String) : String :=
  String.ofList (text.toList.flatMap fun c => if isSpecial c then ['\\', c] else [c])

end Pattern

end InlineAssert
