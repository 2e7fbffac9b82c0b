import InlineAssert.Text
import InlineAssert.Tree

namespace InlineAssert

def TestCase.assertions (c : TestCase) : String :=
  let parts :=
    (if c.present.isEmpty then [] else ["m=" ++ toString c.present.length]) ++
    (if c.absent.isEmpty then [] else ["m!=" ++ toString c.absent.length]) ++
    (c.alloc.toList.map fun r => "alloc=" ++ r.print) ++
    (c.bytes.toList.map fun r => "bytes=" ++ r.print)
  if parts.isEmpty then "" else " [" ++ Text.join " " parts ++ "]"

namespace Node

mutual

def outline (depth : Nat) : Node → List String
  | .mk ⟨es⟩ ls =>
    outlineAll depth es ++
      ls.map fun c => Text.indent depth ++ c.name ++ " (" ++ c.id ++ ")" ++ c.assertions ++ "\n"

def outlineAll (depth : Nat) : List (String × Node) → List String
  | [] => []
  | (segment, n) :: es =>
    (Text.indent depth ++ segment ++ "/\n") :: outline (depth + 1) n ++ outlineAll depth es

end

end Node

def Tree.outline (t : Tree) : String := String.join (t.root.outline 0)

end InlineAssert
