import InlineAssert.KeyIndex
import InlineAssert.Table

namespace InlineAssert

structure Arena where
  records : List TestCase := []
  index : KeyIndex := {}
  deriving DecidableEq

namespace Arena

def size (a : Arena) : Nat := a.records.length

def isEmpty (a : Arena) : Bool := a.records.isEmpty

def ids (a : Arena) : List String := a.records.map TestCase.id

def index? (a : Arena) (id : String) : Option Nat := a.index.find? id

def record? (a : Arena) (place : Nat) : Option TestCase := a.records[place]?

def get? (a : Arena) (id : String) : Option TestCase := do a.record? (← a.index? id)

def lookup (a : Arena) (id : String) : Except ParseError TestCase :=
  match a.get? id with
  | some c => .ok c
  | none => .error (.unknownTestCase id)

def getOrInsert (a : Arena) (id : String) : Arena × Nat :=
  match a.index? id with
  | some place => (a, place)
  | none => (⟨a.records ++ [{ id }], a.index.insert id a.size⟩, a.size)

def modifyAt (a : Arena) (place : Nat) (change : TestCase → TestCase) : Arena :=
  { a with records := a.records.modify place change }

def put {α : Type} (a : Arena) (id : String) (value : Except ParseError α)
    (set : α → TestCase → TestCase) : Arena × Except ParseError Nat :=
  match value with
  | .error error => (a, .error error)
  | .ok value =>
    let (a, place) := a.getOrInsert id
    (a.modifyAt place (set value), .ok place)

def apply (a : Arena) (d : Directive) (site : Site) : Arena × Except ParseError Nat :=
  let range := (Range.read d.value).mapError (.invalidRange d site.path site.line)
  let matcher polarity :=
    (Matcher.forPlace polarity site.fileName site.line d.value site.text).mapError
      (.invalidPattern d site.path site.line)
  match d.key with
  | .name =>
    -- only here is the record made before the value is looked at
    let (a, place) := a.getOrInsert d.id
    if (a.record? place).any (·.name ≠ "") then
      (a, .error (.duplicateName d.id site.path site.line))
    else (a.modifyAt place ({ · with name := d.value }), .ok place)
  | .alloc => a.put d.id range fun r c => { c with alloc := some r }
  | .bytes => a.put d.id range fun r c => { c with bytes := some r }
  | .diagnostic .present =>
    a.put d.id (matcher .present) fun m c => { c with present := c.present ++ [m] }
  | .diagnostic .absent =>
    a.put d.id (matcher .absent) fun m c => { c with absent := c.absent ++ [m] }

def applyAll (a : Arena) : List (Directive × Site) → Arena × Except ParseError Nat
  | [] => (a, .ok 0)
  | (d, site) :: rest =>
    match a.apply d site with
    | (a, .error error) => (a, .error error)
    | (a, .ok _) =>
      let (a, result) := applyAll a rest
      (a, result.map (· + 1))

def readSource (a : Arena) (path source : String) : Arena × Except ParseError Nat :=
  match a.applyAll (Site.directives path source) with
  | (a, .error error) => (a, .error error)
  | (a, .ok applied) =>
    match (Scan.ofBytes (Bytes.ofString source)).failure with
    | some error => (a, .error (.scan path error))
    | none => (a, .ok applied)

end Arena

end InlineAssert
