import InlineAssert.LineTable

/-! A place in a source and how it moves. It may be any place, also one inside of a character. What
is cut out of a source has to be in its bounds, and a text that is cut out has to be of whole
characters. -/

namespace InlineAssert

structure CutError where
  start : Nat
  stop : Nat
  deriving DecidableEq

/-- What comes of work on a source, where a wrong cut is the end of everything. Work that gets
nowhere goes on for ever and comes to nothing. -/
abbrev Run := ExceptT CutError Option

def Run.stuck {α : Type} : Run α := .mk none

def Bytes.cut (bytes : Bytes) (start stop : Nat) : Run Bytes :=
  if start ≤ stop ∧ stop ≤ bytes.length then return (bytes.take stop).drop start
  else throw ⟨start, stop⟩

def Bytes.indexOf? (mark : Bytes) : Bytes → Option Nat
  | [] => if mark.isEmpty then some 0 else none
  | b :: bs => if mark.isPrefixOf (b :: bs) then some 0 else (indexOf? mark bs).map (· + 1)

def Text.cut (text : String) (start stop : Nat) : Run String :=
  open String.Pos.Raw in
  if h : IsValid text ⟨start⟩ ∧ IsValid text ⟨stop⟩ ∧ start ≤ stop then
    return (text.slice ⟨⟨start⟩, h.1⟩ ⟨⟨stop⟩, h.2.1⟩ h.2.2).copy
  else throw ⟨start, stop⟩

structure Cursor where
  bytes : Bytes
  pos : Nat := 0
  deriving DecidableEq

namespace Cursor

def ahead? (c : Cursor) (n : Nat) : Option UInt8 := c.bytes[c.pos + n]?

def back? (c : Cursor) (n : Nat) : Option UInt8 := if n ≤ c.pos then c.bytes[c.pos - n]? else none

def advance (c : Cursor) (n : Nat) : Cursor := { c with pos := min (c.pos + n) c.bytes.length }

def toEnd (c : Cursor) : Cursor := { c with pos := c.bytes.length }

def rest (c : Cursor) : Run Bytes := c.bytes.cut c.pos c.bytes.length

def left (c : Cursor) : Nat := c.bytes.length - c.pos

/-- Passes one after the other, each from where the last one has stopped, until one comes to a
result. A pass that leaves no fewer bytes than it has found gets nowhere. -/
def loop {α : Type} (pass : Cursor → Run (α ⊕ Cursor)) (c : Cursor) : Run α := do
  match ← pass c with
  | .inl result => return result
  | .inr next => if next.left < c.left then next.loop pass else .stuck
termination_by c.left

def find? (c : Cursor) (wanted : UInt8 → Bool) : Run (Option Cursor) := do
  return ((← c.rest).findIdx? wanted).map fun i => { c with pos := c.pos + i }

def past? (c : Cursor) (mark : Bytes) : Run (Option Cursor) := do
  return (Bytes.indexOf? mark (← c.rest)).map fun i => { c with pos := c.pos + (i + mark.length) }

def toNewline (c : Cursor) : Run Cursor := do
  return (← c.find? (· = newline)).getD c.toEnd

def toOpening (c : Cursor) : Run Cursor := do
  let rest ← c.rest
  let mark := rest.findIdx? fun b => b = 47 || b = 34 || b = 96
  let apostrophe := rest.idxOf? 39
  match Option.merge min mark apostrophe with
  | some i => return { c with pos := c.pos + i }
  | none => return c.toEnd

def findOnLine (c : Cursor) (skip : Nat) (mark : UInt8) (limit : Nat) : Run (Option Nat) := do
  let start := min (c.pos + skip) c.bytes.length
  let window ← c.bytes.cut start (min (start + limit) c.bytes.length)
  return ((window.takeWhile (· ≠ newline)).idxOf? mark).map (skip + ·)

end Cursor

end InlineAssert
