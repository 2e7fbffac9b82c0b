import InlineAssert.Matcher
import InlineAssert.Path
import InlineAssert.Range

namespace InlineAssert

/-- The name is empty until a directive gives one. In the tree it is the last segment of the
path. -/
structure TestCase where
  id : String
  name : String := ""
  alloc : Option Range := none
  bytes : Option Range := none
  present : List Matcher := []
  absent : List Matcher := []
  deriving DecidableEq

namespace TestCase

def path (c : TestCase) : List String := resolvePath c.id c.name

def isMeasured (c : TestCase) : Bool := c.alloc.isSome || c.bytes.isSome

end TestCase

end InlineAssert
