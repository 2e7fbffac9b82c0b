import InlineAssert.Comment
import InlineAssert.Text

/-! Annotations. A line comment `// lem.<ID>.<key>=<value>` is a directive about the test case
`<ID>`; any other comment is just a comment. -/

namespace InlineAssert

inductive Polarity : Type
  | present
  | absent
  deriving DecidableEq

def Polarity.key : Polarity → String
  | .present => "m"
  | .absent => "m!"

inductive Directive.Key : Type
  | name
  | alloc
  | bytes
  | diagnostic : Polarity → Key
  deriving DecidableEq

structure Directive where
  id : String
  key : Directive.Key
  value : String
  deriving DecidableEq

structure Site where
  path : String
  fileName : String
  line : Nat
  text : String
  deriving DecidableEq

namespace Directive

def Key.print : Key → String
  | .name => "name"
  | .alloc => "alloc"
  | .bytes => "bytes"
  | .diagnostic p => p.key

def Key.all : List Key := [.name, .alloc, .bytes, .diagnostic .present, .diagnostic .absent]

def Key.read? (cs : List Char) : Option Key := Key.all.find? (·.print.toList = cs)

def readChars? (comment : List Char) : Option Directive := do
  let body ← Text.after? ['/', '/'] comment
  let rest ← Text.after? ['l', 'e', 'm', '.'] (body.dropWhile Text.isBlank)
  let (id, rest) ← Text.splitOnce? '.' rest
  let (key, value) ← Text.splitOnce? '=' rest
  let key ← Key.read? key
  if id.isEmpty || value.isEmpty then none
  else return ⟨String.ofList id, key, String.ofList value⟩

def read? (comment : String) : Option Directive := readChars? comment.toList

end Directive

/-- The last segment of a path, or the whole path if that is not the name of a file. -/
def baseName (path : String) : String :=
  match ((Text.pieces '/' path.toList).filter fun p => !p.isEmpty && p != ['.']).getLast? with
  | none => path
  | some ['.', '.'] => path
  | some name => String.ofList name

def Site.directives (path source : String) : List (Directive × Site) :=
  let bytes := Bytes.ofString source
  let lines := LineTable.ofBytes bytes
  (Scan.ofBytes bytes).comments.filterMap fun c => do
    guard (c.kind = .line)
    let directive ← Directive.read? c.text
    let line := lines.lineOf c.offset
    let text := ((lines.line? bytes line).map Bytes.text).getD c.text
    return (directive, ⟨path, baseName path, line, text⟩)

end InlineAssert
