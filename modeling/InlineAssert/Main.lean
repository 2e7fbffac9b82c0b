import InlineAssert.CommandLine

namespace InlineAssert

def errorNumber (code : UInt32) : UInt32 := min code (0 - code)

def FileError.ofSystem : IO.Error → FileError
  | .noFileOrDirectory .. => .notFound
  | .inappropriateType _ code _ => if errorNumber code = 20 then .notDirectory else .isDirectory
  | .invalidArgument _ code details | .permissionDenied _ code details =>
    if errorNumber code = 36 then .nameTooLong
    else .other (details ++ " (os error " ++ toString (errorNumber code) ++ ")")
  | error => .other (toString error)

def namedPaths (args : List String) : List String :=
  args.flatMap fun arg =>
    arg :: ["--diagnostics=", "--measurements="].filterMap (CheckArgs.optionValue? · arg)

def readAll (paths : List String) : IO (List (String × Except FileError Bytes)) :=
  paths.mapM fun path : String => do
    let contents ← (IO.FS.readBinFile path).toBaseIO
    return (path, (contents.map (·.data.toList)).mapError FileError.ofSystem)

end InlineAssert

open InlineAssert in
def main (args : List String) : IO UInt32 := do
  let contents ← readAll (namedPaths args)
  let disk : Disk := ⟨fun path => (contents.lookup path).getD (.error .notFound)⟩
  let stdin ← if args.contains "--diagnostics=-" then (← IO.getStdin).readBinToEnd else pure .empty
  let outcome := CommandLine.run disk stdin.data.toList (← IO.getEnv "LEM_LOG") args
  (← IO.getStdout).putStr outcome.out
  (← IO.getStderr).putStr outcome.err
  return outcome.code.toUInt32
