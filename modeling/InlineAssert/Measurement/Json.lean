import InlineAssert.Bytes
import InlineAssert.Measurement

namespace InlineAssert.Measurement.Json

inductive Fault : Type
  | malformed
  | wrongShape
  | endsEarly
  deriving DecidableEq

def isSpace (b : UInt8) : Bool := b = 0x20 || b = 0x0a || b = 0x09 || b = 0x0d

def isDigit (b : UInt8) : Bool := 0x30 ≤ b && b ≤ 0x39

def skip (bs : Bytes) : Bytes := bs.dropWhile isSpace

def word : (rest : Bytes) → Bytes → Except Fault Bytes
  | [], bs => .ok bs
  | _ :: _, [] => .error .endsEarly
  | e :: es, b :: bs => if e = b then word es bs else .error .malformed

def hexDigit? (b : UInt8) : Option Nat :=
  if isDigit b then some (b.toNat - 0x30)
  else if 0x41 ≤ b && b ≤ 0x46 then some (b.toNat - 0x37)
  else if 0x61 ≤ b && b ≤ 0x66 then some (b.toNat - 0x57)
  else none

def hex : Bytes → Except Fault (Nat × Bytes)
  | a :: b :: c :: d :: bs =>
    match hexDigit? a, hexDigit? b, hexDigit? c, hexDigit? d with
    | some a, some b, some c, some d => .ok (((a * 16 + b) * 16 + c) * 16 + d, bs)
    | _, _, _, _ => .error .malformed
  | _ => .error .endsEarly

def unicodeEscape (bs : Bytes) : Except Fault (Bytes × Bytes) := do
  let (n, bs) ← hex bs
  if 0xDC00 ≤ n ∧ n ≤ 0xDFFF then .error .malformed
  else if 0xD800 ≤ n ∧ n ≤ 0xDBFF then
    match bs with
    | [] => .error .endsEarly
    | [0x5c] => .error .endsEarly
    | 0x5c :: 0x75 :: bs =>
      let (m, bs) ← hex bs
      if 0xDC00 ≤ m ∧ m ≤ 0xDFFF then
        let c := Char.ofNat ((n - 0xD800) * 0x400 + (m - 0xDC00) + 0x10000)
        return (Bytes.ofString (String.singleton c), bs)
      else .error .malformed
    | _ => .error .malformed
  else return (Bytes.ofString (String.singleton (Char.ofNat n)), bs)

def escapes : List (UInt8 × UInt8) :=
  [(0x22, 0x22), (0x5c, 0x5c), (0x2f, 0x2f), (0x62, 8), (0x66, 12), (0x6e, 10), (0x72, 13),
    (0x74, 9)]

def string : (fuel : Nat) → Bytes → Except Fault (Bytes × Bytes)
  | 0, _ => .error .endsEarly
  | _, [] => .error .endsEarly
  | fuel + 1, b :: bs =>
    if b = 0x22 then .ok ([], bs)
    else if b < 0x20 then .error .malformed
    else if b ≠ 0x5c then do
      let (rest, bs) ← string fuel bs
      return (b :: rest, bs)
    else match bs with
      | [] => .error .endsEarly
      | 0x75 :: bs => do
        let (c, bs) ← unicodeEscape bs
        let (rest, bs) ← string fuel bs
        return (c ++ rest, bs)
      | e :: bs => match escapes.lookup e with
        | none => .error .malformed
        | some b => do
          let (rest, bs) ← string fuel bs
          return (b :: rest, bs)

def text (bs : Bytes) : Except Fault (String × Bytes) := do
  let (s, bs) ← string (bs.length + 1) bs
  return (Bytes.text s, bs)

def passString : Bytes → Except Fault Bytes
  | [] => .error .endsEarly
  | 0x22 :: bs => .ok bs
  | [0x5c] => .error .endsEarly
  | 0x5c :: 0x75 :: a :: b :: c :: d :: bs =>
    if [a, b, c, d].all fun x => (hexDigit? x).isSome then passString bs else .error .malformed
  | 0x5c :: e :: bs =>
    if e = 0x75 then .error .endsEarly
    else if (escapes.lookup e).isSome then passString bs
    else .error .malformed
  | b :: bs => if b < 0x20 then .error .malformed else passString bs

inductive Number : Type
  | whole : Int → Number
  | other : Number
  deriving DecidableEq

/-- The largest significand that is kept exactly. -/
def significandLimit : Nat := 0xFFFFFFFFFFFFFFFF

def exponentLimit : Nat := 0x7FFFFFFF

def take (limit : Nat) : (n taken : Nat) → Bytes → Nat × Bool × Nat × Bytes
  | n, taken, [] => (n, false, taken, [])
  | n, taken, b :: bs =>
    if !isDigit b then (n, false, taken, b :: bs)
    else
      let next := n * 10 + (b.toNat - 0x30)
      if next ≤ limit then take limit next (taken + 1) bs else (n, true, taken, b :: bs)

/-- A number beyond the largest finite double is refused. -/
def ofParts (significand : Nat) (exponent : Int) (bs : Bytes) : Except Fault (Number × Bytes) :=
  if significand ≠ 0 ∧ 0 ≤ exponent ∧
      (308 < exponent ∨ (Float.ofNat significand * Float.ofScientific 1 false exponent.toNat).isInf)
  then .error .malformed
  else .ok (.other, bs)

def exponent (significand : Nat) (start : Int) (bs : Bytes) : Except Fault (Number × Bytes) :=
  let (negative, bs) := match bs with
    | 0x2b :: bs => (false, bs)
    | 0x2d :: bs => (true, bs)
    | bs => (false, bs)
  match bs with
  | [] => .error .endsEarly
  | b :: _ =>
    if !isDigit b then .error .malformed
    else
      let (n, exceeded, _, bs) := take exponentLimit 0 0 bs
      if exceeded then
        if significand ≠ 0 ∧ !negative then .error .malformed
        else .ok (.other, bs.dropWhile isDigit)
      else ofParts significand (if negative then start - n else start + n) bs

def afterDigits (significand : Nat) (start : Int) : Bytes → Except Fault (Number × Bytes)
  | 0x65 :: bs | 0x45 :: bs => exponent significand start bs
  | bs => ofParts significand start bs

def fraction (significand : Nat) (start : Int) (bs : Bytes) : Except Fault (Number × Bytes) :=
  let (n, exceeded, taken, rest) := take significandLimit significand 0 bs
  if exceeded then afterDigits n (start - taken) (rest.dropWhile isDigit)
  else if taken = 0 then
    match rest with
    | [] => .error .endsEarly
    | _ => .error .malformed
  else afterDigits n (start - taken) rest

def long (significand : Nat) (bs : Bytes) : Except Fault (Number × Bytes) :=
  let digits := (bs.takeWhile isDigit).length
  match bs.dropWhile isDigit with
  | 0x2e :: bs => fraction significand digits bs
  | bs => afterDigits significand digits bs

def number (negative : Bool) : Bytes → Except Fault (Number × Bytes)
  | [] => .error .endsEarly
  | b :: bs =>
    if !isDigit b then .error .malformed
    else if b = 0x30 ∧ (bs.head?.any isDigit) then .error .malformed
    else
      let (n, exceeded, _, rest) := take significandLimit 0 0 (b :: bs)
      if exceeded then long n rest
      else match rest with
        | 0x2e :: rest => fraction n 0 rest
        | 0x65 :: rest | 0x45 :: rest => exponent n 0 rest
        | rest =>
          if !negative then .ok (.whole n, rest)
          -- a negative zero is not whole, nor is what does not fit in 64 bits
          else if n = 0 ∨ 0x8000000000000000 < n then .ok (.other, rest)
          else .ok (.whole (-n), rest)

def misplaced : Bytes → Fault
  | 0x6e :: bs => fault (word [0x75, 0x6c, 0x6c] bs)
  | 0x74 :: bs => fault (word [0x72, 0x75, 0x65] bs)
  | 0x66 :: bs => fault (word [0x61, 0x6c, 0x73, 0x65] bs)
  | 0x2d :: bs => fault (number true bs)
  | 0x22 :: bs => fault (text bs)
  | 0x5b :: _ | 0x7b :: _ => .wrongShape
  | b :: bs => if isDigit b then fault (number false (b :: bs)) else .malformed
  | [] => .malformed
where
  fault {α : Type} : Except Fault α → Fault
    | .error f => f
    | .ok _ => .wrongShape

def integer (bs : Bytes) : Except Fault (Int × Bytes) := do
  let (n, bs) ← match skip bs with
    | [] => .error .endsEarly
    | 0x2d :: bs => number true bs
    | b :: bs => if isDigit b then number false (b :: bs) else .error (misplaced (b :: bs))
  match n with
  | .whole n => if n ≤ Measurement.limit then return (n, bs) else .error .wrongShape
  | .other => .error .wrongShape

def passNumber : Bytes → Except Fault Bytes
  -- what is passed over is malformed where a number that is kept would end early
  | [] => .error .malformed
  | b :: bs =>
    if !isDigit b then .error .malformed
    else if b = 0x30 ∧ (bs.head?.any isDigit) then .error .malformed
    else match bs.dropWhile isDigit with
      | 0x2e :: rest =>
        if rest.head?.any isDigit then
          match rest.dropWhile isDigit with
          | 0x65 :: rest | 0x45 :: rest => passExponent rest
          | rest => .ok rest
        else .error .malformed
      | 0x65 :: rest | 0x45 :: rest => passExponent rest
      | rest => .ok rest
where
  passExponent (bs : Bytes) : Except Fault Bytes :=
    let bs := match bs with
      | 0x2b :: bs | 0x2d :: bs => bs
      | bs => bs
    if bs.head?.any isDigit then .ok (bs.dropWhile isDigit) else .error .malformed

inductive Bracket : Type
  | list
  | object
  deriving DecidableEq

def Bracket.close : Bracket → UInt8
  | .list => 0x5d
  | .object => 0x7d

inductive Stage : Type
  | value
  | next : (afterValue : Bool) → Stage

def passKey (bs : Bytes) : Except Fault Bytes := do
  let bs ← match skip bs with
    | [] => .error .endsEarly
    | 0x22 :: bs => passString bs
    | _ => .error .malformed
  match skip bs with
  | [] => .error .endsEarly
  | 0x3a :: bs => return bs
  | _ => .error .malformed

def pass : (fuel : Nat) → Stage → (opened : List Bracket) → Bytes → Except Fault Bytes
  | 0, _, _, _ => .error .endsEarly
  | fuel + 1, .value, opened, bs =>
    match skip bs with
    | [] => .error .endsEarly
    | 0x6e :: bs => do pass fuel (.next true) opened (← word [0x75, 0x6c, 0x6c] bs)
    | 0x74 :: bs => do pass fuel (.next true) opened (← word [0x72, 0x75, 0x65] bs)
    | 0x66 :: bs => do pass fuel (.next true) opened (← word [0x61, 0x6c, 0x73, 0x65] bs)
    | 0x2d :: bs => do pass fuel (.next true) opened (← passNumber bs)
    | 0x22 :: bs => do pass fuel (.next true) opened (← passString bs)
    | 0x5b :: bs => pass fuel (.next false) (.list :: opened) bs
    | 0x7b :: bs => pass fuel (.next false) (.object :: opened) bs
    | b :: bs =>
      if isDigit b then do pass fuel (.next true) opened (← passNumber (b :: bs))
      else .error .malformed
  | _ + 1, .next _, [], bs => .ok bs
  | fuel + 1, .next afterValue, bracket :: outer, bs =>
    let value (bs : Bytes) := do
      match bracket with
      | .list => pass fuel .value (bracket :: outer) bs
      | .object => pass fuel .value (bracket :: outer) (← passKey bs)
    match skip bs with
    | [] => .error .endsEarly
    | b :: bs =>
      if b = bracket.close then pass fuel (.next true) outer bs
      else if !afterValue then value (b :: bs)
      else if b = 0x2c then value bs
      else .error .malformed

def key? (first : Bool) (bs : Bytes) : Except Fault (Option String × Bytes) := do
  match skip bs with
  | [] => .error .endsEarly
  | 0x7d :: bs => return (none, bs)
  | 0x22 :: bs => if first then quoted bs else .error .malformed
  | 0x2c :: bs =>
    if first then .error .malformed
    else match skip bs with
      | [] => .error .endsEarly
      | 0x22 :: bs => quoted bs
      | _ => .error .malformed
  | _ => .error .malformed
where
  quoted (bs : Bytes) : Except Fault (Option String × Bytes) := do
    let (key, bs) ← text bs
    return (some key, bs)

def colon (bs : Bytes) : Except Fault Bytes :=
  match skip bs with
  | [] => .error .endsEarly
  | 0x3a :: bs => .ok bs
  | _ => .error .malformed

def fields : (fuel : Nat) → (first : Bool) → (allocs bytes : Option Int) → Bytes →
    Except Fault (Measurement × Bytes)
  | 0, _, _, _, _ => .error .endsEarly
  | fuel + 1, first, allocs, bytes, bs => do
    match ← key? first bs with
    | (none, bs) =>
      match allocs, bytes with
      | some allocs, some bytes => return (⟨allocs, bytes⟩, bs)
      | _, _ => .error .wrongShape
    | (some "allocs_per_op", bs) =>
      if allocs.isSome then throw .wrongShape
      let (n, bs) ← integer (← colon bs)
      fields fuel false (some n) bytes bs
    | (some "bytes_per_op", bs) =>
      if bytes.isSome then throw .wrongShape
      let (n, bs) ← integer (← colon bs)
      fields fuel false allocs (some n) bs
    | (some _, bs) =>
      let bs ← colon bs
      fields fuel false allocs bytes (← pass (2 * bs.length + 2) .value [] bs)

def item (first : Bool) (bs : Bytes) : Except Fault (Bool × Bytes) :=
  match skip bs with
  | [] => .error .endsEarly
  | 0x5d :: bs => .ok (false, bs)
  | 0x2c :: bs =>
    if first then .ok (true, 0x2c :: bs)
    else match skip bs with
      | [] => .error .endsEarly
      | 0x5d :: _ => .error .malformed
      | bs => .ok (true, bs)
  | bs => if first then .ok (true, bs) else .error .malformed

def measurement (bs : Bytes) : Except Fault (Measurement × Bytes) := do
  match skip bs with
  | [] => .error .endsEarly
  | 0x7b :: bs => fields (bs.length + 1) true none none bs
  | 0x5b :: bs =>
    let (true, bs) ← item true bs | .error .wrongShape
    let (allocs, bs) ← integer bs
    let (true, bs) ← item false bs | .error .wrongShape
    let (bytes, bs) ← integer bs
    match skip bs with
    | [] => .error .endsEarly
    | 0x5d :: bs => return (⟨allocs, bytes⟩, bs)
    | _ => .error .malformed
  | bs => .error (misplaced bs)

def entries : (fuel : Nat) → (first : Bool) → OrderedMap Measurement → Bytes →
    Except Fault (OrderedMap Measurement × Bytes)
  | 0, _, _, _ => .error .endsEarly
  | fuel + 1, first, m, bs => do
    match ← key? first bs with
    | (none, bs) => return (m, bs)
    | (some id, bs) =>
      let (measurement, bs) ← measurement (← colon bs)
      entries fuel false (m.insert id measurement) bs

def read (text : String) : Except Fault (OrderedMap Measurement) := do
  match skip (Bytes.ofString text) with
  | [] => .error .endsEarly
  | 0x7b :: bs =>
    let (m, bs) ← entries (bs.length + 1) true .empty bs
    match skip bs with
    | [] => return m
    | _ => .error .malformed
  | bs => .error (misplaced bs)

end InlineAssert.Measurement.Json
