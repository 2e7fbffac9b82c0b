import InlineAssert.Pattern.Form
import InlineAssert.Pattern.Token

namespace InlineAssert.Pattern

structure Item where
  form : Form
  height : Nat := 0
  repeatable : Bool := true

structure Frame where
  branches : List Item := []
  items : List Item := []

def Frame.push (frame : Frame) (item : Item) : Frame := { frame with items := item :: frame.items }

def Item.branch : (latestFirst : List Item) → Item
  | [] => ⟨.empty, 0, true⟩
  | [item] => item
  | items =>
    { form := .seq (items.reverse.map (·.form))
      height := (items.map (·.height)).foldl max 0 + 1 }

def Frame.branch (frame : Frame) : Frame := ⟨.branch frame.items :: frame.branches, []⟩

def Frame.close (frame : Frame) : Item :=
  match frame.branch.branches with
  | [item] => item
  | branches =>
    { form := .either (branches.reverse.map (·.form))
      height := (branches.map (·.height)).foldl max 0 + 1 }

structure OpenGroup where
  captures : Bool
  flags : Flags
  frame : Frame

structure Reader where
  flags : Flags := {}
  frame : Frame := {}
  outer : List OpenGroup := []
  names : List (List Char) := []

namespace Reader

def nestLimit : Nat := 250

def countLimit : Nat := 0xFFFFFFFF

def push (r : Reader) (item : Item) : Reader := { r with frame := r.frame.push item }

def literal (f : Flags) (c : Char) (byte : Bool) : Option Form :=
  if !f.unicode && byte && c.toNat ≥ 128 then none
  else if !f.ignoreCase then some (.word [c])
  else some (.ofSet ((if f.unicode then Named.foldCase else Named.foldAsciiCase) (.single c)))

def token (f : Flags) : Token → Option Form
  | .char c byte => literal f c byte
  | .set s => some (.ofSet s)
  | .look l => some (.look l)

def dot (f : Flags) : Option Form :=
  if !f.unicode then none
  else if f.dotNewline then some (.set ⟨[0]⟩)
  else if f.crlf then some (.set ⟨[0, 0x0a, 0x0b, 0x0d, 0x0e]⟩)
  else some (.set ⟨[0, 0x0a, 0x0b]⟩)

def caret (f : Flags) : Look := if f.multiLine then .lineStart f.crlf else .textStart

def dollar (f : Flags) : Look := if f.multiLine then .lineEnd f.crlf else .textEnd

def repeatLast (r : Reader) (min : Nat) (max : Option Nat) (lazy : Bool) : Option Reader :=
  match r.frame.items with
  | item :: items =>
    if item.repeatable then
      let greedy := lazy == r.flags.swapGreed
      let item : Item :=
        { form := item.form.times min max greedy, height := item.height + 1 }
      some { r with frame := { r.frame with items := item :: items } }
    else none
  | [] => none

def lazyMark : List Char → Bool × List Char
  | '?' :: cs => (true, cs)
  | cs => (false, cs)

def quantify (r : Reader) (min : Nat) (max : Option Nat) (cs : List Char) :
    Option (Reader × List Char) := do
  let (lazy, cs) := lazyMark cs
  return (← r.repeatLast min max lazy, cs)

def digits (f : Flags) : (fuel : Nat) → List Char → List Char × List Char
  | fuel + 1, c :: cs =>
    if c.isDigit then
      let (ds, rest) := digits f fuel (f.skip cs)
      (c :: ds, rest)
    else ([], c :: cs)
  | _, cs => ([], cs)

def count (f : Flags) (cs : List Char) : Option (Nat × List Char) := do
  let cs := cs.dropWhile Text.isBlank
  let (ds, rest) := digits f cs.length cs
  guard (!ds.isEmpty)
  let n := Nat.ofDigitChars 10 ds 0
  guard (n ≤ countLimit)
  return (n, rest.dropWhile Text.isBlank)

def counts (f : Flags) (cs : List Char) : Option (Nat × Option Nat × List Char) := do
  let (min, cs) ← count f (f.skip cs)
  match cs with
  | '\x7d' :: cs => return (min, some min, cs)
  | ',' :: cs =>
    match f.skip cs with
    | '\x7d' :: cs => return (min, none, cs)
    | cs =>
      let (max, cs) ← count f cs
      let cs ← Text.after? ['\x7d'] cs
      guard (min ≤ max)
      return (min, some max, cs)
  | _ => none

def groupName (cs : List Char) : Option (List Char × List Char) := do
  let name := cs.takeWhile (· ≠ '>')
  let rest ← Text.after? ['>'] (cs.dropWhile (· ≠ '>'))
  match name with
  | [] => none
  | c :: others =>
    guard (c = '_' || Named.letters.contains c)
    guard (others.all fun c => ['_', '.', '[', ']'].contains c || Named.alphanumerics.contains c)
    return (name, rest)

def setFlag (f : Flags) (on : Bool) : Char → Option Flags
  | 'i' => some { f with ignoreCase := on }
  | 'm' => some { f with multiLine := on }
  | 's' => some { f with dotNewline := on }
  | 'U' => some { f with swapGreed := on }
  | 'u' => some { f with unicode := on }
  | 'R' => some { f with crlf := on }
  | 'x' => some { f with ignoreSpace := on }
  | _ => none

def readFlags (f : Flags) (seen : List Char) : List Char → Option (Flags × Bool × Char × List Char)
  | [] => none
  | c :: cs =>
    if c = ':' || c = ')' then
      if seen.head? = some '-' then none else some (f, !seen.isEmpty, c, cs)
    else if seen.contains c then none
    else if c = '-' then readFlags f (c :: seen) cs
    else do readFlags (← setFlag f (!seen.contains '-') c) (c :: seen) cs

def openGroup (r : Reader) (captures : Bool) (flags : Flags) : Reader :=
  { r with flags, frame := {}, outer := ⟨captures, r.flags, r.frame⟩ :: r.outer }

def openNamed (r : Reader) (cs : List Char) : Option (Reader × List Char) := do
  let (name, rest) ← groupName cs
  guard (!r.names.contains name)
  return ({ r.openGroup true r.flags with names := name :: r.names }, rest)

def group (r : Reader) (cs : List Char) : Option (Reader × List Char) :=
  match r.flags.skip cs with
  -- there is no looking about
  | '?' :: '=' :: _ | '?' :: '!' :: _ | '?' :: '<' :: '=' :: _ | '?' :: '<' :: '!' :: _ => none
  | '?' :: 'P' :: '<' :: cs | '?' :: '<' :: cs => r.openNamed cs
  | '?' :: cs => do
    let (flags, any, close, rest) ← readFlags r.flags [] cs
    if close = ':' then return (r.openGroup false flags, rest)
    else
      guard any
      return ({ r with flags }.push { form := .empty, repeatable := false }, rest)
  | cs => some (r.openGroup true r.flags, cs)

def closeGroup (r : Reader) : Option Reader :=
  match r.outer with
  | [] => none
  | g :: outer =>
    let inner := r.frame.close
    let item : Item :=
      { form := if g.captures then .capture inner.form else inner.form
        height := inner.height + 1 }
    some { r with flags := g.flags, frame := g.frame.push item, outer }

def step (r : Reader) (c : Char) (cs : List Char) : Option (Reader × List Char) :=
  match c with
  | '(' => r.group cs
  | ')' => do return (← r.closeGroup, cs)
  | '|' => some ({ r with frame := r.frame.branch }, cs)
  | '[' => do
    let (s, height, rest) ← Bracket.set r.flags cs
    return (r.push { form := .ofSet s, height }, rest)
  | '?' => r.quantify 0 (some 1) cs
  | '*' => r.quantify 0 none cs
  | '+' => r.quantify 1 none cs
  | '\x7b' => do
    let (min, max, rest) ← counts r.flags cs
    r.quantify min max (r.flags.skip rest)
  | '\\' => do
    let (t, rest) ← Token.escape r.flags cs
    return (r.push { form := ← token r.flags t }, rest)
  | '.' => do return (r.push { form := ← dot r.flags }, cs)
  | '^' => some (r.push { form := .look (caret r.flags) }, cs)
  | '$' => some (r.push { form := .look (dollar r.flags) }, cs)
  | c => do return (r.push { form := ← literal r.flags c false }, cs)

def read : (fuel : Nat) → Reader → List Char → Option Reader
  | 0, _, _ => none
  | fuel + 1, r, cs =>
    match r.flags.skip cs with
    | [] => some r
    | c :: cs => do
      let (r, rest) ← r.step c cs
      read fuel r rest

def finish (r : Reader) : Option Form :=
  match r.outer with
  | [] =>
    let item := r.frame.close
    if item.height ≤ nestLimit then some item.form else none
  | _ => none

end Reader

def Form.read? (pattern : List Char) : Option Form := do
  (← Reader.read (pattern.length + 1) {} pattern).finish

end InlineAssert.Pattern
