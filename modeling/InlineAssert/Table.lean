import InlineAssert.Disk
import InlineAssert.OrderedMap
import InlineAssert.TestCase

namespace InlineAssert

inductive ParseError : Type
  | io : (path : String) → FileError → ParseError
  | scan : (path : String) → ScanError → ParseError
  | duplicateName : (id path : String) → (line : Nat) → ParseError
  | invalidRange : Directive → (path : String) → (line : Nat) → RangeError → ParseError
  | invalidPattern : Directive → (path : String) → (line : Nat) → PatternError → ParseError
  | unknownTestCase : (id : String) → ParseError
  deriving DecidableEq

namespace ParseError

def id? : ParseError → Option String
  | .io .. | .scan .. => none
  | .duplicateName id .. | .unknownTestCase id => some id
  | .invalidRange d .. | .invalidPattern d .. => some d.id

/-- What is wrong with a pattern is not said in words. -/
def message : ParseError → String
  | .io path error => "failed to read " ++ path ++ ": " ++ error.message
  | .scan path error => "failed to scan " ++ path ++ ": " ++ error.message
  | .duplicateName id path line =>
    "duplicate lem." ++ id ++ ".name at " ++ path ++ ":" ++ toString line
  | .invalidRange d path line error =>
    "invalid lem." ++ d.id ++ "." ++ d.key.print ++ "=" ++ d.value ++ " at " ++ path ++ ":" ++
      toString line ++ ": " ++ error.message
  | .invalidPattern d path line _ =>
    "invalid lem." ++ d.id ++ "." ++ d.key.print ++ " pattern at " ++ path ++ ":" ++
      toString line ++ ": <regex error>"
  | .unknownTestCase id => "unknown test case ID: " ++ id

end ParseError

/-- What a directive makes of its test case. A name is given once; a range replaces the one before;
matchers gather in order. -/
def TestCase.extend (c : TestCase) (d : Directive) (site : Site) : Except ParseError TestCase :=
  let range := (Range.read d.value).mapError (.invalidRange d site.path site.line)
  match d.key with
  | .name =>
    if c.name = "" then .ok { c with name := d.value }
    else .error (.duplicateName d.id site.path site.line)
  | .alloc => do return { c with alloc := some (← range) }
  | .bytes => do return { c with bytes := some (← range) }
  | .diagnostic polarity => do
    let matcher ← (Matcher.forPlace polarity site.fileName site.line d.value site.text).mapError
      (.invalidPattern d site.path site.line)
    match polarity with
    | .present => return { c with present := c.present ++ [matcher] }
    | .absent => return { c with absent := c.absent ++ [matcher] }

structure Table where
  cases : OrderedMap TestCase := .empty
  deriving DecidableEq

namespace Table

def size (t : Table) : Nat := t.cases.size

def isEmpty (t : Table) : Bool := t.cases.isEmpty

def index? (t : Table) (id : String) : Option Nat := t.cases.index? id

def get? (t : Table) (id : String) : Option TestCase := t.cases.get? id

def lookup (t : Table) (id : String) : Except ParseError TestCase :=
  match t.get? id with
  | some c => .ok c
  | none => .error (.unknownTestCase id)

def records (t : Table) : List TestCase := t.cases.values

def getOrInsert (t : Table) (id : String) : Table × Nat :=
  (⟨t.cases.update id (fun _ => { id }) (fun c => c)⟩, t.cases.position id)

def apply (t : Table) (d : Directive) (site : Site) : Except ParseError (Table × Nat) := do
  let c ← ((t.get? d.id).getD { id := d.id }).extend d site
  return (⟨t.cases.insert d.id c⟩, t.cases.position d.id)

def applyAll (t : Table) : List (Directive × Site) → Table × Except ParseError Nat
  | [] => (t, .ok 0)
  | (d, site) :: rest =>
    match t.apply d site with
    | .error error => (t, .error error)
    | .ok (t, _) =>
      let (t, result) := applyAll t rest
      (t, result.map (· + 1))

/-- Merges the directives of a source. One that fails comes before a piece further on that does not
end. -/
def readSource (t : Table) (path source : String) : Table × Except ParseError Nat :=
  let (t, result) := t.applyAll (Site.directives path source)
  (t, do
    let applied ← result
    match (Scan.ofBytes (Bytes.ofString source)).failure with
    | some error => .error (.scan path error)
    | none => return applied)

def readSources (t : Table) : List (String × String) → Except ParseError (Table × List Nat)
  | [] => .ok (t, [])
  | (path, source) :: rest => do
    let (t, result) := t.readSource path source
    let applied ← result
    let (t, counts) ← readSources t rest
    return (t, applied :: counts)

def readFiles (disk : Disk) (t : Table) : List String → Table × Option ParseError
  | [] => (t, none)
  | path :: paths =>
    match disk.text path with
    | .error error => (t, some (.io path error))
    | .ok source =>
      match t.readSource path source with
      | (t, .error error) => (t, some error)
      | (t, .ok _) => readFiles disk t paths

def ofFiles (disk : Disk) (paths : List String) : Except ParseError (List TestCase) :=
  match readFiles disk {} paths with
  | (_, some error) => .error error
  | (t, none) => .ok t.records

end Table

end InlineAssert
