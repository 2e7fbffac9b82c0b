import InlineAssert.Console
import InlineAssert.Measurement.Json
import InlineAssert.Outline
import InlineAssert.Table

namespace InlineAssert

inductive CommandError : Type
  | usage : (text : String) → CommandError
  | parse : ParseError → CommandError
  | measurementFile : (path : String) → FileError → CommandError
  | measurementJson : (path : String) → Measurement.Json.Fault → CommandError
  | diagnostics : (path : String) → FileError → CommandError
  | output : (text : String) → CommandError
  deriving DecidableEq

/-- What is wrong with a JSON text is not said in words. -/
def CommandError.message : CommandError → String
  | .usage text => text
  | .parse error => error.message
  | .measurementFile path error =>
    "failed to read measurements from " ++ path ++ ": " ++ error.message
  | .measurementJson path _ => "invalid measurements in " ++ path ++ ": <json error>"
  | .diagnostics path error =>
    "failed to read diagnostics from " ++ path ++ ": " ++ error.message
  | .output text => "failed to write output: " ++ text

def fileOperands (args : List String) : Except CommandError (List String) :=
  match args.find? (·.toList.head? = some '-') with
  | some arg => .error (.usage ("unknown option '" ++ arg ++ "'"))
  | none => if args.isEmpty then .error (.usage "missing source files") else .ok args

inductive Diagnostics : Type
  | stdin
  | file : (path : String) → Diagnostics
  deriving DecidableEq

def Diagnostics.ofArg (arg : String) : Diagnostics := if arg = "-" then .stdin else .file arg

def Diagnostics.read (disk : Disk) (stdin : Bytes) : Diagnostics → Except CommandError String
  | .stdin =>
    match Bytes.decode? stdin with
    | some text => .ok text
    | none => .error (.diagnostics "<stdin>" .notText)
  | .file path => (disk.text path).mapError (.diagnostics path)

structure CheckArgs where
  files : List String
  diagnostics : Diagnostics
  measurements : Option String
  config : Config
  deriving DecidableEq

namespace CheckArgs

inductive Arg : Type
  | diagnostics : (path : String) → Arg
  | measurements : (path : String) → Arg
  | missing : (policy : String) → Arg
  | filter : (text : String) → Arg
  | verbose
  | operand : (text : String) → Arg
  deriving DecidableEq

def optionValue? (option arg : String) : Option String :=
  (Text.after? option.toList arg.toList).map String.ofList

def Arg.ofText (arg : String) : Arg :=
  match optionValue? "--diagnostics=" arg with
  | some path => .diagnostics path
  | none =>
  match optionValue? "--measurements=" arg with
  | some path => .measurements path
  | none =>
  match optionValue? "--missing-measurement=" arg with
  | some policy => .missing policy
  | none =>
  match optionValue? "--filter=" arg with
  | some text => .filter text
  | none => if arg = "--verbose" || arg = "-v" then .verbose else .operand arg

structure Draft where
  diagnostics : Option Diagnostics := none
  measurements : Option String := none
  config : Config := {}
  operands : List String := []

def Draft.add (d : Draft) : Arg → Except CommandError Draft
  | .diagnostics path => .ok { d with diagnostics := some (.ofArg path) }
  | .measurements path => .ok { d with measurements := some path }
  | .missing policy =>
    match MissingPolicy.read? policy with
    | some missing => .ok { d with config := { d.config with missing } }
    | none => .error (.usage (MissingPolicy.unknownMessage policy))
  | .filter text => .ok { d with config := { d.config with filter := some text } }
  | .verbose => .ok { d with config := { d.config with verbose := true } }
  | .operand text => .ok { d with operands := d.operands ++ [text] }

def read (args : List String) : Except CommandError CheckArgs := do
  let draft ← args.foldlM (fun d arg => d.add (.ofText arg)) ({} : Draft)
  let files ← fileOperands draft.operands
  match draft.diagnostics with
  | none => .error (.usage "missing --diagnostics=<path|->")
  | some diagnostics =>
    return { files, diagnostics, measurements := draft.measurements, config := draft.config }

end CheckArgs

def Tree.load (disk : Disk) (paths : List String) : Except ParseError Tree :=
  (Table.ofFiles disk paths).map Tree.ofCases

def Measurement.load (disk : Disk) (path : String) :
    Except CommandError (OrderedMap Measurement) := do
  let text ← (disk.text path).mapError (.measurementFile path)
  (Measurement.Json.read text).mapError (.measurementJson path)

namespace Command

structure Result where
  out : String
  code : Nat
  deriving DecidableEq

def list (disk : Disk) (args : List String) : Except CommandError Result := do
  let files ← fileOperands args
  let tree ← (Tree.load disk files).mapError .parse
  return ⟨tree.outline, if tree.isEmpty then 2 else 0⟩

def check (disk : Disk) (stdin : Bytes) (args : CheckArgs) : Except CommandError Result := do
  let tree ← (Tree.load disk args.files).mapError .parse
  let diagnostics ← args.diagnostics.read disk stdin
  let context : Context := { diagnostics, config := args.config }
  -- a mistake in a source or in the diagnostics has come up by now
  let measurements ← args.measurements.mapM (Measurement.load disk)
  let provider := measurements.map fun _ => Provider.ofMap
  let (events, _) := tree.walk context provider (measurements.getD .empty)
  let console : Console Bytes String := { verbose := args.config.verbose, out := [] }
  match (console.addAll .unlimited events).finish .unlimited with
  | (.ok report, out) => return ⟨Bytes.text out, report.summary.exitCode⟩
  | (.error error, _) => .error (.output error)

def run? (disk : Disk) (stdin : Bytes) : List String → Option (Except CommandError Result)
  | "check" :: args => some do check disk stdin (← CheckArgs.read args)
  | "list" :: args => some (list disk args)
  | _ => none

end Command

end InlineAssert
