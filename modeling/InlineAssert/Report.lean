import InlineAssert.Check

namespace InlineAssert

structure Summary where
  passed : Nat := 0
  failed : Nat := 0
  filtered : Nat := 0
  deriving DecidableEq

namespace Summary

def total (s : Summary) : Nat := s.passed + s.failed

def hasFailures (s : Summary) : Bool := s.failed > 0

/-- 0 if all passed, 1 if some failed, 2 if there was nothing to check. -/
def exitCode (s : Summary) : Nat :=
  if s.total = 0 then 2 else if s.hasFailures then 1 else 0

def add (s : Summary) : Event → Summary
  | .case r =>
    if r.passed then { s with passed := s.passed + 1 } else { s with failed := s.failed + 1 }
  | .filtered _ => { s with filtered := s.filtered + 1 }
  | .enter _ | .exit _ => s

end Summary

structure RunReport where
  cases : List CaseReport := []
  summary : Summary := {}
  deriving DecidableEq

namespace RunReport

def add (r : RunReport) (e : Event) : RunReport where
  cases := match e with
    | .case report => r.cases ++ [report]
    | _ => r.cases
  summary := r.summary.add e

def ofEvents (events : List Event) : RunReport := events.foldl add {}

def passed (r : RunReport) : Bool := !r.summary.hasFailures

def failedCases (r : RunReport) : List CaseReport := r.cases.filter (!·.passed)

def findCase? (r : RunReport) (id : String) : Option CaseReport := r.cases.find? (·.id = id)

end RunReport

def Failure.lines (f : Failure) : List String :=
  (Text.lines f.print.toList).map String.ofList

def CaseReport.detail (r : CaseReport) : List String := r.failures.flatMap Failure.lines

namespace RunReport

def failureText (r : RunReport) : String :=
  String.join (r.failedCases.flatMap fun c =>
    ("--- FAIL: " ++ c.displayPath ++ " (" ++ c.id ++ ")\n") ::
      c.detail.map fun line => "    " ++ line ++ "\n")

def verdict (r : RunReport) : Option String :=
  if r.passed then none
  else some (toString r.summary.failed ++ " of " ++ toString r.summary.total ++
    " lem test cases failed\n" ++ r.failureText)

end RunReport

end InlineAssert
