import InlineAssert.Directive
import InlineAssert.Pattern

namespace InlineAssert

structure Matcher where
  pattern : Pattern
  source : String
  deriving DecidableEq

namespace Matcher

/-- The fragment makes up the rest of the line where it must be present, and may stand anywhere in
it where it must be absent. -/
def patternText (polarity : Polarity) (fileName : String) (line : Nat) (fragment : String) :
    String :=
  let place := "(?m)^.*" ++ Pattern.escape fileName ++ ":" ++ toString line ++ ":\\d+:"
  match polarity with
  | .present => place ++ " " ++ fragment ++ "$"
  | .absent => place ++ ".*" ++ fragment ++ ".*$"

def forPlace (polarity : Polarity) (fileName : String) (line : Nat) (fragment source : String) :
    Except PatternError Matcher := do
  return ⟨← Pattern.ofText (patternText polarity fileName line fragment), source⟩

def find? (m : Matcher) (diagnostics : String) : Option String := m.pattern.find? diagnostics

end Matcher

end InlineAssert
