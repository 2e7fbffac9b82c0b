import InlineAssert.Quoted
import InlineAssert.Text

namespace InlineAssert

inductive MissingPolicy : Type
  | ignore
  | note
  | fail
  deriving DecidableEq

namespace MissingPolicy

def print : MissingPolicy → String
  | .ignore => "ignore"
  | .note => "note"
  | .fail => "fail"

def default : MissingPolicy := .note

def read? : String → Option MissingPolicy
  | "ignore" => some .ignore
  | "note" => some .note
  | "fail" => some .fail
  | _ => none

def unknownMessage (text : String) : String :=
  "unknown missing-measurement policy `" ++ text ++ "` (expected ignore, note, or fail)"

def name : MissingPolicy → String
  | .ignore => "Ignore"
  | .note => "Note"
  | .fail => "Fail"

end MissingPolicy

structure Config where
  missing : MissingPolicy := .default
  filter : Option String := none
  verbose : Bool := false
  deriving DecidableEq

namespace Config

def selects (config : Config) (path : List String) : Bool :=
  config.filter.all fun f => Text.occurs f.toList (Text.join "/" path).toList

end Config

structure Context where
  diagnostics : String
  config : Config := {}

namespace Context

def describe (c : Context) (hasProvider : Bool) : String :=
  let flag (b : Bool) := if b then "true" else "false"
  let filter := match c.config.filter with
    | none => "None"
    | some f => "Some(" ++ Quoted.quote f ++ ")"
  "Context \x7b diagnostics: " ++ toString c.diagnostics.utf8ByteSize ++
    ", provider: " ++ flag hasProvider ++
    ", config: RunConfig \x7b missing_measurement: " ++ c.config.missing.name ++
    ", filter: " ++ filter ++ ", verbose: " ++ flag c.config.verbose ++ " \x7d \x7d"

end Context

end InlineAssert
