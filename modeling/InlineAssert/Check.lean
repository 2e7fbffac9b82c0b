import InlineAssert.Config
import InlineAssert.Measurement
import InlineAssert.Tree

namespace InlineAssert

inductive Failure : Type
  | notFound : (pattern source : String) → Failure
  | wasFound : (output pattern source : String) → Failure
  | alloc : (expected : Range) → (actual : Int) → Failure
  | bytes : (expected : Range) → (actual : Int) → Failure
  | missingMeasurement : (id : String) → Failure
  deriving DecidableEq

def Failure.print : Failure → String
  | .notFound pattern source =>
    "error: build optimization\nreason: not found\nregexp: " ++ pattern ++ "\nsource: " ++
      source ++ "\n"
  | .wasFound output pattern source =>
    "error: build optimization\nreason: was found\noutput: " ++ output ++ "\nregexp: " ++
      pattern ++ "\nsource: " ++ source ++ "\n"
  | .alloc expected actual => "exp.alloc=" ++ expected.print ++ ", act.alloc=" ++ toString actual
  | .bytes expected actual => "exp.bytes=" ++ expected.print ++ ", act.bytes=" ++ toString actual
  | .missingMeasurement id => "no measurement registered for " ++ id

structure CaseReport where
  path : List String
  id : String
  failures : List Failure := []
  notes : List String := []
  deriving DecidableEq

namespace CaseReport

def passed (r : CaseReport) : Bool := r.failures.isEmpty

def displayPath (r : CaseReport) : String := Text.join "/" r.path

end CaseReport

inductive Event : Type
  | enter : (segment : String) → Event
  | exit : (segment : String) → Event
  | filtered : (path : List String) → Event
  | case : CaseReport → Event
  deriving DecidableEq

namespace TestCase

def notFound (c : TestCase) (diagnostics : String) : List Failure :=
  c.present.filterMap fun m =>
    if (m.find? diagnostics).isSome then none else some (.notFound m.pattern.text m.source)

def wasFound (c : TestCase) (diagnostics : String) : List Failure :=
  c.absent.filterMap fun m =>
    (m.find? diagnostics).map fun output => .wasFound output m.pattern.text m.source

def outOfRange (c : TestCase) (m : Measurement) : List Failure :=
  (c.alloc.toList.filter (!·.contains m.allocs)).map (.alloc · m.allocs) ++
    (c.bytes.toList.filter (!·.contains m.bytes)).map (.bytes · m.bytes)

def check (c : TestCase) (context : Context) (answer : Option (Option Measurement))
    (path : List String) : CaseReport :=
  let found := c.notFound context.diagnostics ++ c.wasFound context.diagnostics
  match answer with
  | none => { path, id := c.id, failures := found }
  | some (some m) => { path, id := c.id, failures := found ++ c.outOfRange m }
  | some none =>
    let fails := context.config.missing = .fail && c.isMeasured
    let noted := context.config.missing ≠ .ignore && !fails
    { path, id := c.id
      failures := found ++ if fails then [.missingMeasurement c.id] else []
      notes := if noted then ["benchmark function not registered for " ++ c.id] else [] }

def ask {σ : Type} (c : TestCase) (context : Context) (provider : Option (Provider σ))
    (path : List String) (state : σ) : CaseReport × σ :=
  match provider with
  | none => (c.check context none path, state)
  | some p =>
    let (answer, state) := p.measure state c.id
    (c.check context (some answer) path, state)

end TestCase

namespace Node

variable {σ : Type} (context : Context) (provider : Option (Provider σ))

def walkLeaves (path : List String) : List TestCase → σ → List Event × σ
  | [], state => ([], state)
  | c :: cs, state =>
    let here := path ++ [c.name]
    if context.config.selects here then
      let (report, state) := c.ask context provider here state
      let (events, state) := walkLeaves path cs state
      (.case report :: events, state)
    else
      let (events, state) := walkLeaves path cs state
      (.filtered here :: events, state)

mutual

def walk (path : List String) : Node → σ → List Event × σ
  | .mk ⟨es⟩ ls, state =>
    let (below, state) := walkAll path es state
    let (here, state) := walkLeaves context provider path ls state
    (below ++ here, state)

def walkAll (path : List String) : List (String × Node) → σ → List Event × σ
  | [], state => ([], state)
  | (segment, n) :: es, state =>
    let (inside, state) := walk (path ++ [segment]) n state
    let (events, state) := walkAll path es state
    (.enter segment :: inside ++ .exit segment :: events, state)

end

end Node

def Tree.walk {σ : Type} (t : Tree) (context : Context) (provider : Option (Provider σ))
    (state : σ) : List Event × σ :=
  t.root.walk context provider [] state

end InlineAssert
