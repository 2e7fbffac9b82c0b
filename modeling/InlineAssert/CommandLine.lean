import InlineAssert.Command
import InlineAssert.LogFilter

namespace InlineAssert.CommandLine

def usageLines : List String := [
  "lem: escape analysis and allocation tests driven by source annotations",
  "",
  "Usage: lem <command> [options] <files...>",
  "",
  "Commands:",
  "  check <files...>     Check annotations against diagnostics",
  "  list <files...>      Print the test tree",
  "  help                 Show this help message",
  "  version              Show version information",
  "",
  "Check options:",
  "  --diagnostics=<path|->          Compiler diagnostics (- for stdin)",
  "  --measurements=<path>           JSON map of id -> allocs_per_op/bytes_per_op",
  "  --missing-measurement=<policy>  ignore, note (default), fail",
  "  --filter=<pattern>              Only check tests whose path contains pattern",
  "  --verbose, -v                   Show every group and case",
  "",
  "Annotations:",
  "  // lem.<ID>.name=<NAME>          Test name, / separates groups",
  "  // lem.<ID>.alloc=<MIN>[-<MAX>]  Allocations per operation",
  "  // lem.<ID>.bytes=<MIN>[-<MAX>]  Allocated bytes per operation",
  "  // lem.<ID>.m=<FRAGMENT>         Diagnostic expected for this line",
  "  // lem.<ID>.m!=<FRAGMENT>        Diagnostic forbidden for this line",
  "",
  "Environment:",
  "  LEM_LOG=<filter>     Tracing filter, e.g. lem_parse=debug",
  "",
  "Examples:",
  "  go build -gcflags=-m ./... 2>&1 | lem check --diagnostics=- world.go",
  "  lem check --diagnostics=build.txt --measurements=m.json -v mem.go",
  "  lem list world.go mem.go"]

def usage : String := String.join (usageLines.map (· ++ "\n"))

def version : String := "lem 0.1.0\n"

structure Outcome where
  code : Nat
  out : String := ""
  err : String := ""
  deriving DecidableEq

def failure (error : CommandError) : Outcome :=
  match error with
  | .usage text => { code := 1, out := usage, err := "error: " ++ text ++ "\n\n" }
  | error => { code := 1, err := "error: " ++ error.message ++ "\n" }

def dispatch (disk : Disk) (stdin : Bytes) (args : List String) : Outcome :=
  match Command.run? disk stdin args with
  | some (.ok result) => { code := result.code, out := result.out }
  | some (.error error) => failure error
  | none =>
    match args with
    | [] => { code := 1, out := usage }
    | command :: _ =>
      if ["help", "--help", "-h"].contains command then { code := 0, out := usage }
      else if ["version", "--version", "-V"].contains command then { code := 0, out := version }
      else { code := 1, out := usage, err := "Unknown command: " ++ command ++ "\n\n" }

def run (disk : Disk) (stdin : Bytes) (logFilter : Option String) (args : List String) : Outcome :=
  let outcome := dispatch disk stdin args
  if logFilter.all LogFilter.isValid then outcome
  else { outcome with err := "warning: ignoring invalid LEM_LOG filter\n" ++ outcome.err }

end InlineAssert.CommandLine
