import InlineAssert.Comment

namespace InlineAssert

structure Scanner where
  before : Bytes := []
  rest : Bytes
  failed : Bool := false
  deriving DecidableEq

namespace Scanner

def ofBytes (source : Bytes) : Scanner := { rest := source }

def find (before : Bytes) (offset : Nat) :
    (skip : Nat) → (rest : Bytes) → Option (Except ScanError Comment) × Scanner
  | _, [] => (none, ⟨before, [], false⟩)
  | skip + 1, b :: bs => find (b :: before) (offset + 1) skip bs
  | 0, b :: bs =>
    let kind := PieceKind.start before (b :: bs)
    match kind.tail? (b :: bs) with
    | none =>
      (some (.error (kind.failure (min (before.count newline + 1) lineLimit))),
        ⟨before, b :: bs, true⟩)
    | some n =>
      match Piece.comment? ⟨kind, offset, b :: bs.take n⟩ with
      | some c => (some (.ok c), ⟨(bs.take n).reverse ++ b :: before, bs.drop n, false⟩)
      | none => find (b :: before) (offset + 1) n bs

def next (s : Scanner) : Option (Except ScanError Comment) × Scanner :=
  if s.failed then (none, s) else find s.before s.before.length 0 s.rest

def call (s : Scanner) : (k : Nat) → Option (Except ScanError Comment)
  | 0 => s.next.1
  | k + 1 => call s.next.2 k

end Scanner

end InlineAssert
