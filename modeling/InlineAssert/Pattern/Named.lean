import InlineAssert.Pattern.Expr
import InlineAssert.Unicode.Age
import InlineAssert.Unicode.Break
import InlineAssert.Unicode.CaseFold
import InlineAssert.Unicode.Category
import InlineAssert.Unicode.Latest
import InlineAssert.Unicode.Script

namespace InlineAssert.Pattern.Named

inductive Letter : Type
  | digit
  | space
  | word
  deriving DecidableEq

def Letter.ascii : Letter → CharSet
  | .digit => ⟨[0x30, 0x3a]⟩
  | .space => ⟨[0x09, 0x0e, 0x20, 0x21]⟩
  | .word => asciiWordChars

def Letter.unicode : Letter → CharSet
  | .digit => ⟨Unicode.decimalDigitTurns⟩
  | .space => ⟨[0x09, 0x0e, 0x20, 0x21, 0x85, 0x86, 0xa0, 0xa1, 0x1680, 0x1681, 0x2000, 0x200b,
      0x2028, 0x202a, 0x202f, 0x2030, 0x205f, 0x2060, 0x3000, 0x3001]⟩
  | .word => wordChars

def posix : List (String × CharSet) := [
  ("alnum", ⟨[0x30, 0x3a, 0x41, 0x5b, 0x61, 0x7b]⟩),
  ("alpha", ⟨[0x41, 0x5b, 0x61, 0x7b]⟩),
  ("ascii", ⟨[0, 0x80]⟩),
  ("blank", ⟨[0x09, 0x0a, 0x20, 0x21]⟩),
  ("cntrl", ⟨[0, 0x20, 0x7f, 0x80]⟩),
  ("digit", ⟨[0x30, 0x3a]⟩),
  ("graph", ⟨[0x21, 0x7f]⟩),
  ("lower", ⟨[0x61, 0x7b]⟩),
  ("print", ⟨[0x20, 0x7f]⟩),
  ("punct", ⟨[0x21, 0x30, 0x3a, 0x41, 0x5b, 0x61, 0x7b, 0x7f]⟩),
  ("space", ⟨[0x09, 0x0e, 0x20, 0x21]⟩),
  ("upper", ⟨[0x41, 0x5b]⟩),
  ("word", asciiWordChars),
  ("xdigit", ⟨[0x30, 0x3a, 0x41, 0x47, 0x61, 0x67]⟩)]

def posix? (name : List Char) : Option CharSet :=
  (posix.find? (·.1.toList = name)).map (·.2)

/-- Names of Unicode match loosely: case, blanks, `_`, `-`, a leading `is` and everything beyond
ASCII do not count. What is left of `isc` is not taken for the name `c`. -/
def loose (name : List Char) : String :=
  let kept (cs : List Char) := (cs.filter fun c =>
    !(c = ' ' || c = '_' || c = '-') && c.toNat < 128).map Char.toLower
  match name with
  | a :: b :: rest =>
    if a.toLower = 'i' && b.toLower = 's' then
      if kept rest = ['c'] then "isc" else String.ofList (kept rest)
    else String.ofList (kept name)
  | _ => String.ofList (kept name)

def lookup? (table : List (List String × String)) (name : String) : Option CharSet :=
  (table.find? (·.1.contains name)).map fun entry => .ofSteps entry.2

def category? (name : String) : Option CharSet :=
  match name with
  | "any" => some ⟨[0]⟩
  | "ascii" => some ⟨[0, 0x80]⟩
  | "assigned" => (lookup? Unicode.categories "cn").map CharSet.compl
  | name => match Unicode.categoryGroups.find? (·.1.contains name) with
    | some (_, parts) =>
      some ((parts.filterMap (lookup? Unicode.categories)).foldl .union .empty)
    | none => lookup? Unicode.categories name

def script? (name : String) : Option CharSet := lookup? Unicode.scripts name

def scriptExtension? (name : String) : Option CharSet :=
  (lookup? Unicode.scriptExtensions name).or (script? name)

def unicode? (name : List Char) : Option CharSet :=
  let name := loose name
  -- these name categories, though properties have the same short names
  let property := if ["cf", "sc", "lc"].contains name then none else lookup? Unicode.properties name
  property.or ((category? name).or (script? name))

def age? (version : String) : Option CharSet :=
  match Unicode.additions.findIdx? (·.1.contains version) with
  | none => none
  | some i =>
    some (.ofDisjoint ((Unicode.additions.take (i + 1)).map fun entry => .ofSteps entry.2))

def unicodeValue? (name value : List Char) : Option CharSet :=
  let value := loose value
  match loose name with
  | "gc" | "generalcategory" => category? value
  | "sc" | "script" => script? value
  | "scx" | "scriptextensions" => scriptExtension? value
  | "age" => age? value
  | "gcb" | "graphemeclusterbreak" => lookup? Unicode.clusterBreaks value
  | "wb" | "wordbreak" => lookup? Unicode.wordBreaks value
  | "sb" | "sentencebreak" => lookup? Unicode.sentenceBreaks value
  | _ => none

def foldCase (s : CharSet) : CharSet := s.close Unicode.caseOrbits

def asciiOrbits : List (List Char) :=
  (List.range 26).map fun k => [Char.ofNat (65 + k), Char.ofNat (97 + k)]

def foldAsciiCase (s : CharSet) : CharSet := s.close asciiOrbits

def letters : CharSet := .ofSteps Unicode.letterSteps

def alphanumerics : CharSet := .ofSteps Unicode.alphanumericSteps

end InlineAssert.Pattern.Named
