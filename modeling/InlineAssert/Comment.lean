import InlineAssert.LineTable

/-! The comments of a C-family source. A source falls into pieces, one after the other: comments,
literals, and single bytes of everything else. Literals are pieces of their own so that nothing
inside them is taken for a comment. -/

namespace InlineAssert

inductive ScanError : Type
  | unterminatedComment : (line : Nat) → ScanError
  | unterminatedString : (line : Nat) → ScanError
  deriving DecidableEq

def ScanError.line : ScanError → Nat
  | .unterminatedComment line => line
  | .unterminatedString line => line

def ScanError.message : ScanError → String
  | .unterminatedComment line => "unterminated block comment starting on line " ++ toString line
  | .unterminatedString line => "unterminated string literal starting on line " ++ toString line

inductive PieceKind : Type
  | lineComment
  | blockComment
  | string
  | rawString : (hashes : Nat) → PieceKind
  | backquoted
  | escapedChar
  | char
  | plain
  deriving DecidableEq

structure Piece where
  kind : PieceKind
  offset : Nat
  bytes : Bytes
  deriving DecidableEq

inductive CommentKind : Type
  | line
  | block
  deriving DecidableEq

structure Comment where
  kind : CommentKind
  text : String
  offset : Nat
  deriving DecidableEq

namespace PieceKind

def isAlnum (b : UInt8) : Bool :=
  (48 ≤ b && b ≤ 57) || (65 ≤ b && b ≤ 90) || (97 ≤ b && b ≤ 122)

/-- The number of `#` that a raw string opened by a quote has, from the bytes before the quote,
nearest first. Its `r` stands at the start of a word or after a `b`. -/
def rawHashes? : Bytes → Option Nat
  | 35 :: before => (rawHashes? before).map (· + 1)
  | [114] => some 0
  | 114 :: b :: _ => if b = 95 || (isAlnum b && b != 98) then none else some 0
  | _ => none

def start (before : Bytes) : (rest : Bytes) → PieceKind
  | 47 :: 47 :: _ => .lineComment
  | 47 :: 42 :: _ => .blockComment
  | 34 :: _ => match rawHashes? before with
    | some hashes => .rawString hashes
    | none => .string
  | 96 :: _ => .backquoted
  | 39 :: 92 :: _ => .escapedChar
  | 39 :: lead :: _ => if lead = 39 || lead = newline then .plain else .char
  | _ => .plain

def blockEnd? : Bytes → Option Nat
  | 42 :: 47 :: _ => some 2
  | _ :: bs => (blockEnd? bs).map (· + 1)
  | [] => none

def stringEnd? : Bytes → Option Nat
  | 34 :: _ => some 1
  | 92 :: _ :: bs => (stringEnd? bs).map (· + 2)
  | _ :: bs => (stringEnd? bs).map (· + 1)
  | [] => none

def rawEnd? (hashes : Nat) : Bytes → Option Nat
  | [] => none
  | b :: bs =>
    if b = 34 ∧ bs.take hashes = List.replicate hashes 35 then some (1 + hashes)
    else (rawEnd? hashes bs).map (· + 1)

def markEnd? (mark : UInt8) (bs : Bytes) : Option Nat := (bs.idxOf? mark).map (· + 1)

/-- The longest escape in a character literal, such as `\u{10FFFF}`, with the closing quote and
without its first two bytes. -/
def escapeLimit : Nat := 12

def width (lead : UInt8) : Nat :=
  if 0xC0 ≤ lead && lead ≤ 0xDF then 2
  else if 0xE0 ≤ lead && lead ≤ 0xEF then 3
  else if 0xF0 ≤ lead && lead ≤ 0xF7 then 4
  else 1

/-- How many bytes of `rest` follow the first one in a piece of this kind, if it ends. A quote
that opens no character literal stands alone. -/
def tail? : PieceKind → (rest : Bytes) → Option Nat
  | .lineComment, rest => some (rest.tail.takeWhile (· ≠ newline)).length
  | .blockComment, rest => (blockEnd? (rest.drop 2)).map (· + 1)
  | .string, rest => stringEnd? rest.tail
  | .rawString hashes, rest => rawEnd? hashes rest.tail
  | .backquoted, rest => markEnd? 96 rest.tail
  | .escapedChar, rest =>
    match markEnd? 39 (((rest.drop 3).take escapeLimit).takeWhile (· ≠ newline)) with
    | some n => some (n + 2)
    | none => some 0
  | .char, rest =>
    let n := width (rest.tail.headD 0)
    if rest[n + 1]? = some 39 then some (n + 1) else some 0
  | .plain, _ => some 0

def failure (line : Nat) : PieceKind → ScanError
  | .blockComment => .unterminatedComment line
  | _ => .unterminatedString line

end PieceKind

structure Scan where
  pieces : List Piece
  failure : Option ScanError
  deriving DecidableEq

namespace Scan

/-- The pieces of `rest`, which stands at `offset`, from its byte number `skip` on, where the last
piece ends. -/
def after (before : Bytes) (offset : Nat) : (skip : Nat) → (rest : Bytes) → Scan
  | _, [] => ⟨[], none⟩
  | skip + 1, b :: bs => after (b :: before) (offset + 1) skip bs
  | 0, b :: bs =>
    let kind := PieceKind.start before (b :: bs)
    match kind.tail? (b :: bs) with
    | none => ⟨[], some (kind.failure (min (before.count newline + 1) lineLimit))⟩
    | some n =>
      let later := after (b :: before) (offset + 1) n bs
      ⟨⟨kind, offset, b :: bs.take n⟩ :: later.pieces, later.failure⟩

def ofBytes (source : Bytes) : Scan := after [] 0 0 source

end Scan

def Piece.comment? (p : Piece) : Option Comment :=
  match p.kind with
  | .lineComment => some ⟨.line, Bytes.text (Bytes.dropReturn p.bytes), p.offset⟩
  | .blockComment => some ⟨.block, Bytes.text p.bytes, p.offset⟩
  | _ => none

def Scan.comments (s : Scan) : List Comment := s.pieces.filterMap Piece.comment?

def Comment.all (source : String) : Except ScanError (List Comment) :=
  let scan := Scan.ofBytes (Bytes.ofString source)
  match scan.failure with
  | some error => .error error
  | none => .ok scan.comments

end InlineAssert
