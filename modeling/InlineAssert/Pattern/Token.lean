import InlineAssert.Pattern.Named
import InlineAssert.Text

namespace InlineAssert.Pattern

structure Flags where
  ignoreCase : Bool := false
  multiLine : Bool := false
  dotNewline : Bool := false
  swapGreed : Bool := false
  crlf : Bool := false
  ignoreSpace : Bool := false
  unicode : Bool := true
  deriving DecidableEq

def skipSpace : (comment : Bool) → List Char → List Char
  | _, [] => []
  | true, c :: cs => skipSpace (c ≠ '\n') cs
  | false, c :: cs =>
    if Text.isBlank c then skipSpace false cs
    else if c = '#' then skipSpace true cs
    else c :: cs

def Flags.skip (f : Flags) (cs : List Char) : List Char :=
  if f.ignoreSpace then skipSpace false cs else cs

inductive Token : Type
  | char : Char → (byte : Bool) → Token
  | set : CharSet → Token
  | look : Look → Token
  deriving DecidableEq

namespace Token

def braced (f : Flags) : (comment : Bool) → List Char → Option (List Char × List Char)
  | _, [] => none
  | true, c :: cs => braced f (c ≠ '\n') cs
  | false, c :: cs =>
    if f.ignoreSpace && Text.isBlank c then braced f false cs
    else if f.ignoreSpace && c = '#' then braced f true cs
    else if c = '\x7d' then some ([], cs)
    else (braced f false cs).map fun (inside, rest) => (c :: inside, rest)

def exactly (f : Flags) : (comment : Bool) → (n : Nat) → List Char → Option (List Char × List Char)
  | _, 0, cs => some ([], cs)
  | _, _ + 1, [] => none
  | true, n + 1, c :: cs => exactly f (c ≠ '\n') (n + 1) cs
  | false, n + 1, c :: cs =>
    if f.ignoreSpace && Text.isBlank c then exactly f false (n + 1) cs
    else if f.ignoreSpace && c = '#' then exactly f true (n + 1) cs
    else (exactly f false n cs).map fun (inside, rest) => (c :: inside, rest)

def hexDigit? (c : Char) : Option Nat :=
  if c.isDigit then some (c.toNat - 48)
  else if 'a' ≤ c && c ≤ 'f' then some (c.toNat - 87)
  else if 'A' ≤ c && c ≤ 'F' then some (c.toNat - 55)
  else none

def codePoint? (digits : List Char) : Option Char := do
  guard !digits.isEmpty
  let n ← digits.foldlM (fun n c => return 16 * n + (← hexDigit? c)) 0
  if h : n.isValidChar then some (Char.ofNatAux n h) else none

def hex (f : Flags) (digits : Nat) (cs : List Char) : Option (Token × List Char) :=
  match f.skip cs with
  | '\x7b' :: cs => do
    let (inside, rest) ← braced f false cs
    return (.char (← codePoint? inside) false, rest)
  | cs => do
    let (inside, rest) ← exactly f false digits cs
    return (.char (← codePoint? inside) (digits = 2), rest)

def nameValue? (cs : List Char) : Option (List Char × List Char × Bool) :=
  match unequal cs with
  | some (name, value) => some (name, value, true)
  | none =>
    match Text.splitOnce? ':' cs with
    | some (name, value) => some (name, value, false)
    | none => (Text.splitOnce? '=' cs).map fun (name, value) => (name, value, false)
where
  unequal : List Char → Option (List Char × List Char)
    | [] => none
    | '!' :: '=' :: cs => some ([], cs)
    | c :: cs => (unequal cs).map fun (name, value) => (c :: name, value)

def foldNegate (f : Flags) (negated : Bool) (s : CharSet) : CharSet :=
  let s := if f.ignoreCase then Named.foldCase s else s
  if negated then s.compl else s

def property (f : Flags) (negated : Bool) (cs : List Char) : Option (Token × List Char) := do
  guard f.unicode
  match f.skip cs with
  | [] => none
  | '\\' :: _ => none
  | '\x7b' :: cs =>
    let (inside, rest) ← braced f false cs
    match nameValue? inside with
    | some (name, value, unequal) =>
      return (.set (foldNegate f (negated != unequal) (← Named.unicodeValue? name value)), rest)
    | none => return (.set (foldNegate f negated (← Named.unicode? inside)), rest)
  | c :: rest => return (.set (foldNegate f negated (← Named.unicode? [c])), rest)

def letter (f : Flags) (negated : Bool) (l : Named.Letter) : Option CharSet :=
  if f.unicode then some (if negated then l.unicode.compl else l.unicode)
  else if negated then none
  else some l.ascii

def wordEdge? (name : List Char) : Option WordEdge :=
  match String.ofList name with
  | "start" => some .start
  | "end" => some .stop
  | "start-half" => some .startHalf
  | "end-half" => some .stopHalf
  | _ => none

/-- The edge of a word, with its side in braces after it. Braces with anything else in them are a
count. -/
def edge (f : Flags) (cs : List Char) : Option (Token × List Char) :=
  match cs with
  | '\x7b' :: inside =>
    match f.skip inside with
    | [] => none
    | c :: _ =>
      if c.isAlpha || c = '-' then do
        let (name, rest) ← braced f false inside
        return (.look (.word (← wordEdge? name) f.unicode), rest)
      else some (.look (.word .boundary f.unicode), cs)
  | _ => some (.look (.word .boundary f.unicode), cs)

def isEscapable (c : Char) : Bool := c.toNat < 128 && !c.isAlphanum && c != '<' && c != '>'

def escape (f : Flags) : List Char → Option (Token × List Char)
  | [] => none
  | c :: cs =>
    if isEscapable c then some (.char c false, cs)
    else match c with
      | 'x' => hex f 2 cs
      | 'u' => hex f 4 cs
      | 'U' => hex f 8 cs
      | 'p' => property f false cs
      | 'P' => property f true cs
      | 'd' => (letter f false .digit).map (.set ·, cs)
      | 'D' => (letter f true .digit).map (.set ·, cs)
      | 's' => (letter f false .space).map (.set ·, cs)
      | 'S' => (letter f true .space).map (.set ·, cs)
      | 'w' => (letter f false .word).map (.set ·, cs)
      | 'W' => (letter f true .word).map (.set ·, cs)
      | 'a' => some (.char '\x07' false, cs)
      | 'f' => some (.char '\x0c' false, cs)
      | 't' => some (.char '\t' false, cs)
      | 'n' => some (.char '\n' false, cs)
      | 'r' => some (.char '\r' false, cs)
      | 'v' => some (.char '\x0b' false, cs)
      | 'A' => some (.look .textStart, cs)
      | 'z' => some (.look .textEnd, cs)
      | 'b' => edge f cs
      | 'B' => some (.look (.word .nonBoundary f.unicode), cs)
      | '<' => some (.look (.word .start f.unicode), cs)
      | '>' => some (.look (.word .stop f.unicode), cs)
      | _ => none

end Token

namespace Bracket

inductive SetOp : Type
  | inter
  | diff
  | symmDiff
  deriving DecidableEq

def SetOp.apply : SetOp → CharSet → CharSet → CharSet
  | .inter, a, b => a.inter b
  | .diff, a, b => a.diff b
  | .symmDiff, a, b => a.symmDiff b

structure Items where
  set : CharSet := .empty
  count : Nat := 0
  depth : Nat := 0

def Items.add (items : Items) (s : CharSet) (depth : Nat) : Items :=
  ⟨items.set.union s, items.count + 1, max items.depth depth⟩

def Items.height (items : Items) : Nat :=
  if items.count ≤ 1 then items.depth else items.depth + 1

structure Level where
  negated : Bool
  left : Option (SetOp × CharSet × Nat)
  outer : Items

def fold (f : Flags) (s : CharSet) : CharSet :=
  if !f.ignoreCase then s else if f.unicode then Named.foldCase s else Named.foldAsciiCase s

def Level.value (f : Flags) (level : Level) (items : Items) : CharSet × Nat :=
  match level.left with
  | none => (items.set, items.height)
  | some (op, left, height) =>
    (op.apply (fold f left) (fold f items.set), max height items.height + 1)

def Level.close (f : Flags) (level : Level) (items : Items) : Option (CharSet × Nat) :=
  let (s, height) := level.value f items
  if !level.negated then some (fold f s, height + 1)
  else if f.unicode then some ((fold f s).compl, height + 1)
  else none

def addChar (f : Flags) (c : Char) (items : Items) : Option Items :=
  if f.unicode || c.toNat < 128 then some (items.add (.single c) 0) else none

def caret : List Char → Bool × List Char
  | '^' :: cs => (true, cs)
  | cs => (false, cs)

def hyphens (f : Flags) : (fuel : Nat) → Items → List Char → Items × List Char
  | fuel + 1, items, '-' :: cs => hyphens f fuel (items.add (.single '-') 0) (f.skip cs)
  | _, items, cs => (items, cs)

def opening (f : Flags) (items : Items) : List Char → Option (Items × List Char)
  | [] => none
  | ']' :: cs =>
    if items.count = 0 then (addChar f ']' items).map (·, f.skip cs) else some (items, ']' :: cs)
  | cs => some (items, cs)

def start (f : Flags) (cs : List Char) : Option (Bool × Items × List Char) :=
  let (negated, cs) := caret (f.skip cs)
  let cs := f.skip cs
  let (items, cs) := hyphens f cs.length {} cs
  (opening f items cs).map (negated, ·)

def posix? (f : Flags) (cs : List Char) : Option (Option CharSet × List Char) := do
  let (negated, cs) := caret (← Text.after? [':'] cs)
  let rest ← Text.after? [':', ']'] (cs.dropWhile (· ≠ ':'))
  let s ← Named.posix? (cs.takeWhile (· ≠ ':'))
  if f.unicode then return (some (Token.foldNegate f negated s), rest)
  else return (if negated then none else some (fold f s), rest)

def peek (f : Flags) (cs : List Char) : Option Char :=
  if f.ignoreSpace then go false cs else cs.head?
where
  go : Bool → List Char → Option Char
    | _, [] => cs.head?
    | comment, c :: rest =>
      if Text.isBlank c then go comment rest
      else if !comment && c = '#' then go true rest
      else some c

def item (f : Flags) : List Char → Option (Token × List Char)
  | [] => none
  | '\\' :: cs => Token.escape f cs
  | c :: cs => some (.char c false, cs)

def addToken (f : Flags) (items : Items) : Token → Option Items
  | .char c _ => addChar f c items
  | .set s => some (items.add s 0)
  | .look _ => none

/-- A character, a set or a range of characters. A hyphen before another one or before the closing
bracket makes no range. -/
def range (f : Flags) (items : Items) (cs : List Char) : Option (Items × List Char) := do
  let (first, cs) ← item f cs
  match f.skip cs with
  | [] => none
  | '-' :: cs' =>
    if peek f cs' = some ']' || peek f cs' = some '-' then
      return (← addToken f items first, '-' :: cs')
    else
      let (last, rest) ← item f (f.skip cs')
      match first, last with
      | .char a _, .char b _ =>
        guard (a ≤ b && (f.unicode || b.toNat < 128))
        return (items.add (.range a.toNat b.toNat) 0, rest)
      | _, _ => none
  | cs => return (← addToken f items first, cs)

inductive Part : Type
  | items : Items → Part
  | opening : (negated : Bool) → Items → Part
  | closing
  | operator : SetOp → Part

def part? (f : Flags) (items : Items) (cs : List Char) : Option (Part × List Char) :=
  match f.skip cs with
  | [] => none
  | '[' :: cs =>
    match posix? f cs with
    | some (some s, rest) => some (.items (items.add s 0), rest)
    | some (none, _) => none
    | none => (start f cs).map fun (negated, inner, rest) => (.opening negated inner, rest)
  | ']' :: cs => some (.closing, cs)
  | '&' :: '&' :: cs => some (.operator .inter, cs)
  | '-' :: '-' :: cs => some (.operator .diff, cs)
  | '~' :: '~' :: cs => some (.operator .symmDiff, cs)
  | cs => (range f items cs).map fun (items, rest) => (.items items, rest)

def read (f : Flags) : (fuel : Nat) → Level → List Level → Items → List Char →
    Option (CharSet × Nat × List Char)
  | 0, _, _, _, _ => none
  | fuel + 1, level, outer, items, cs => do
    let (part, rest) ← part? f items cs
    match part with
    | .items items => read f fuel level outer items rest
    | .opening negated inner => read f fuel ⟨negated, none, items⟩ (level :: outer) inner rest
    | .operator op =>
      let (s, height) := level.value f items
      read f fuel { level with left := some (op, s, height) } outer {} rest
    | .closing =>
      let (s, height) ← level.close f items
      match outer with
      | [] => return (s, height, rest)
      | next :: outer => read f fuel next outer (level.outer.add s height) rest

def set (f : Flags) (cs : List Char) : Option (CharSet × Nat × List Char) := do
  let (negated, items, rest) ← start f cs
  read f (rest.length + 1) ⟨negated, none, {}⟩ [] items rest

end Bracket

end InlineAssert.Pattern
