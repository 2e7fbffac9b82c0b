import InlineAssert.Pattern.Reader

/-! Filters of the log, which are only checked: directives with a comma between them, each a level,
a target or a span with its fields, the last two with a level after an equals sign. Where the parts
of a directive are is seen without the blanks about it, and what they are is read with them: a part
is as many bytes from the start of the whole directive as from its first character that is no
blank. -/

namespace InlineAssert.LogFilter

def levels : List String := ["error", "warn", "info", "debug", "trace", "off"]

def isLevel (cs : List Char) : Bool :=
  let digits := (Text.after? ['+'] cs).getD cs
  levels.contains (String.ofList (cs.map Char.toLower)) ||
    (!digits.isEmpty && digits.all Char.isDigit && Nat.ofDigitChars 10 digits 0 ≤ 5)

def unsigned : List Char → List Char
  | '+' :: cs | '-' :: cs => cs
  | cs => cs

def isExponent (cs : List Char) : Bool :=
  let digits := unsigned cs
  !digits.isEmpty && digits.all Char.isDigit

def isDecimal (cs : List Char) : Bool :=
  let whole := cs.takeWhile Char.isDigit
  let (places, rest) := match cs.dropWhile Char.isDigit with
    | '.' :: cs => (cs.takeWhile Char.isDigit, cs.dropWhile Char.isDigit)
    | cs => ([], cs)
  !(whole ++ places).isEmpty && match rest with
    | [] => true
    | c :: cs => c = 'e' && isExponent cs

def isNumber (cs : List Char) : Bool :=
  let cs := (unsigned cs).map Char.toLower
  ["inf", "infinity", "nan"].contains (String.ofList cs) || isDecimal cs

/-- The value of a field is a number or a pattern, which may not look for the words of Unicode. -/
def isValue (cs : List Char) : Bool :=
  isNumber cs ||
    (Pattern.Form.read? cs).any fun form => !form.anyLook fun
      | .word _ unicode => unicode
      | _ => false

def isField (cs : List Char) : Bool :=
  !cs.isEmpty && match Text.pieces '=' cs with
    | _ :: value :: _ => isValue value
    | _ => true

def fromByte? : (n : Nat) → List Char → Option (List Char)
  | 0, cs => some cs
  | _ + 1, [] => none
  | n + 1, c :: cs => if c.utf8Size ≤ n + 1 then fromByte? (n + 1 - c.utf8Size) cs else none

def beforeByte? : (n : Nat) → List Char → Option (List Char)
  | 0, _ => some []
  | _ + 1, [] => none
  | n + 1, c :: cs =>
    if c.utf8Size ≤ n + 1 then (beforeByte? (n + 1 - c.utf8Size) cs).map (c :: ·) else none

inductive Place : Type
  | start
  | name
  | span
  | field : (start : Nat) → Place
  | fields
  | closed
  | level : (start : Nat) → Place
  deriving DecidableEq

def step (whole : List Char) (pos : Nat) (c : Char) : Place → Option Place
  | .start =>
    if c = '[' then some .span
    else if c = '-' || c = ':' || c = '_' || Pattern.Named.alphanumerics.contains c then some .name
    else none
  | .name =>
    if c = '=' then some (.level (pos + 1)) else if c = '[' then some .span else some .name
  | .span =>
    if c = ']' then some .closed
    else if c = '\x7b' then some (.field (pos + 1))
    else some .span
  | .field start =>
    if c = '\x7d' then do
      let field ← beforeByte? (pos - start) (← fromByte? start whole)
      guard (isField field)
      return .fields
    else some (.field start)
  | .fields => if c = ']' then some .closed else none
  | .closed => if c = '=' then some (.level (pos + 1)) else none
  | .level start => some (.level start)

def walk (whole : List Char) : (pos : Nat) → Place → List Char → Option Place
  | _, place, [] => some place
  | pos, place, c :: cs => do walk whole (pos + c.utf8Size) (← step whole pos c place) cs

def directive (whole : List Char) : Bool :=
  let trimmed := ((whole.dropWhile Text.isBlank).reverse.dropWhile Text.isBlank).reverse
  match walk whole 0 .start trimmed with
  | some .name | some .closed => true
  | some (.level start) => (fromByte? start whole).any fun cs => cs.isEmpty || isLevel cs
  | _ => false

def isValid (text : String) : Bool :=
  ((Text.pieces ',' text.toList).filter (!·.isEmpty)).all directive

end InlineAssert.LogFilter
