import InlineAssert.Comment
import InlineAssert.Cursor
import InlineAssert.Text

namespace InlineAssert

open PieceKind (isAlnum width escapeLimit)

inductive Turn : Type
  | ended
  | found : Comment → Turn
  | failed : ScanError → Turn
  | onward
  deriving DecidableEq

namespace Cursor

def line (c : Cursor) : Run Nat := do
  return min ((← c.bytes.cut 0 c.pos).count newline + 1) lineLimit

theorem le_of_back? {c : Cursor} {n : Nat} {b : UInt8} (h : c.back? n = some b) : n ≤ c.pos := by
  rw [back?] at h
  split at h
  · assumption
  · cases h

def hashes (c : Cursor) (n : Nat) : Nat :=
  if c.back? (n + 1) = some 35 then c.hashes (n + 1) else n
termination_by c.pos - n
decreasing_by
  have := le_of_back? ‹c.back? (n + 1) = some 35›
  omega

def rawHashes? (c : Cursor) : Option Nat :=
  let hashes := c.hashes 0
  if c.back? (hashes + 1) ≠ some 114 then none
  else match c.back? (hashes + 2) with
    | some b => if b = 95 || (isAlnum b && b != 98) then none else some hashes
    | none => some hashes

def stringPass (c : Cursor) : Run ((Bool × Cursor) ⊕ Cursor) := do
  match ← c.find? fun b => b = 34 || b = 92 with
  | none => return .inl (false, c)
  | some c =>
    if c.ahead? 0 = some 92 then return .inr (c.advance 2) else return .inl (true, c.advance 1)

def closeString (c : Cursor) : Run (Bool × Cursor) := c.loop stringPass

def rawPass (hashes : Nat) (c : Cursor) : Run ((Bool × Cursor) ⊕ Cursor) := do
  match ← c.find? (· = 34) with
  | none => return .inl (false, c)
  | some c =>
    let c := c.advance 1
    if (List.range hashes).all fun i => c.ahead? i = some 35 then
      return .inl (true, c.advance hashes)
    else return .inr c

def closeRaw (hashes : Nat) (c : Cursor) : Run (Bool × Cursor) := c.loop (rawPass hashes)

def closeBackquoted (c : Cursor) : Run (Bool × Cursor) := do
  match ← c.find? (· = 96) with
  | none => return (false, c)
  | some c => return (true, c.advance 1)

def closing (c : Cursor) : Bool × Cursor → Run (Turn × Cursor)
  | (true, close) => return (.onward, close)
  | (false, stop) => return (.failed (.unterminatedString (← c.line)), stop)

def quote (c : Cursor) : Run (Turn × Cursor) := do
  match c.rawHashes? with
  | some hashes => c.closing (← (c.advance 1).closeRaw hashes)
  | none => c.closing (← (c.advance 1).closeString)

def literal? (c : Cursor) : Run (Option Nat) := do
  match c.ahead? 1 with
  | some 92 => return (← c.findOnLine 3 39 escapeLimit).map (· + 1)
  | some lead =>
    let closes := lead ≠ 39 ∧ lead ≠ newline ∧ c.ahead? (1 + width lead) = some 39
    return if closes then some (width lead + 2) else none
  | none => return none

def slash (source : String) (c : Cursor) : Run (Turn × Cursor) := do
  match c.ahead? 1 with
  | some 47 =>
    let stop ← c.toNewline
    let text ← Text.cut source c.pos stop.pos
    return (.found ⟨.line, .ofList (Text.dropFinal '\r' text.toList), c.pos⟩, stop)
  | some 42 =>
    let opened := c.advance 2
    match ← opened.past? [42, 47] with
    | some stop =>
      let text ← Text.cut source c.pos stop.pos
      return (.found ⟨.block, text, c.pos⟩, stop)
    | none => return (.failed (.unterminatedComment (← c.line)), opened)
  | _ => return (.onward, c.advance 1)

def turn (source : String) (c : Cursor) : Run (Turn × Cursor) := do
  let c ← c.toOpening
  match c.ahead? 0 with
  | none => return (.ended, c)
  | some 47 => c.slash source
  | some 34 => c.quote
  | some 96 => c.closing (← (c.advance 1).closeBackquoted)
  | some 39 => return (.onward, c.advance ((← c.literal?).getD 1))
  | some _ => return (.onward, c.advance 1)

def itemPass (source : String) (c : Cursor) :
    Run ((Option (Except ScanError Comment) × Cursor) ⊕ Cursor) := do
  match ← c.turn source with
  | (.ended, c) => return .inl (none, c)
  | (.found comment, c) => return .inl (some (.ok comment), c)
  | (.failed error, c) => return .inl (some (.error error), c)
  | (.onward, c) => return .inr c

def nextItem (source : String) (c : Cursor) :
    Run (Option (Except ScanError Comment) × Cursor) := c.loop (itemPass source)

end Cursor

structure CursorScanner where
  source : String
  cursor : Cursor
  failed : Bool := false
  deriving DecidableEq

namespace CursorScanner

def ofString (source : String) : CursorScanner :=
  { source, cursor := { bytes := Bytes.ofString source } }

def next (s : CursorScanner) : Run (Option (Except ScanError Comment) × CursorScanner) := do
  if s.failed then return (none, s)
  else
    let (item, cursor) ← s.cursor.nextItem s.source
    return (item, { s with cursor, failed := item matches some (.error _) })

end CursorScanner

end InlineAssert
