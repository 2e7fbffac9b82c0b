import InlineAssert.Bytes
import InlineAssert.Text

namespace InlineAssert

inductive FileError : Type
  | notFound
  | isDirectory
  | notDirectory
  | nameTooLong
  | notText
  | nulInName
  | other : String → FileError
  deriving DecidableEq

def FileError.message : FileError → String
  | .notFound => "No such file or directory (os error 2)"
  | .isDirectory => "Is a directory (os error 21)"
  | .notDirectory => "Not a directory (os error 20)"
  | .nameTooLong => "File name too long (os error 36)"
  | .notText => "stream did not contain valid UTF-8"
  | .nulInName => "file name contained an unexpected NUL byte"
  | .other text => text

structure Disk where
  read : String → Except FileError Bytes

namespace Disk

def text (disk : Disk) (path : String) : Except FileError String := do
  match Bytes.decode? (← disk.read path) with
  | some text => return text
  | none => throw .notText

abbrev Files := List (List String × Bytes)

/-- What lies above the working directory is a directory, of which nothing else is known. -/
def outside : String := ".."

def isDirectory (files : Files) (place : List String) : Bool :=
  place.all (· = outside) ||
    files.any fun file => place.isPrefixOf file.1 && place.length < file.1.length

def parent (place : List String) : List String :=
  if place.all (· = outside) then outside :: place else place.dropLast

def walk (files : Files) : (place : List String) → List String → Except FileError (List String)
  | place, [] => .ok place
  | place, segment :: rest =>
    if !isDirectory files place then .error .notDirectory
    else if segment = "" || segment = "." then walk files place rest
    else if segment = ".." then walk files (parent place) rest
    else if (Bytes.ofString segment).length > 255 then .error .nameTooLong
    else
      let next := place ++ [segment]
      if isDirectory files next || files.any (·.1 = next) then walk files next rest
      else .error .notFound

def pieces (path : String) : List String := (Text.pieces '/' path.toList).map String.ofList

def ofFiles (files : List (String × Bytes)) : Disk where
  read path := do
    let files := files.reverse.map fun (path, bytes) =>
      ((pieces path).filter fun p => p ≠ "" && p ≠ ".", bytes)
    if path.toList.contains '\x00' then throw .nulInName
    if path = "" then throw .notFound
    if (Bytes.ofString path).length ≥ 4096 then throw .nameTooLong
    let place ← walk files (if path.toList.head? = some '/' then [outside] else []) (pieces path)
    match files.find? (·.1 = place) with
    | some (_, bytes) => return bytes
    | none => throw .isDirectory

end Disk

end InlineAssert
