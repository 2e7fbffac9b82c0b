import InlineAssert.Text

namespace InlineAssert

def segments (name : String) : List String :=
  ((Text.pieces '/' name.toList).filter (!·.isEmpty)).map String.ofList

/-- The id leads the path unless the name starts with a slash; each segment of the name follows.
The path is the id alone if nothing follows or the name is the id itself. -/
def resolvePath (id name : String) : List String :=
  if name = "" ∨ name = id then [id]
  else
    let path := (if name.toList.head? = some '/' then [] else [id]) ++ segments name
    if path.isEmpty then [id] else path

end InlineAssert
