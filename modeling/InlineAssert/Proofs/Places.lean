import InlineAssert.Proofs.Locality

namespace InlineAssert

open PieceKind

namespace PieceKind

theorem Closed.cut {kind : PieceKind} {bytes more after : Bytes}
    (h : Closed kind bytes (more ++ after)) : Closed kind bytes more := by
  by_cases hkind : kind = .lineComment
  · subst hkind
    cases h with
    | lineComment hbody hafter =>
      refine .lineComment hbody fun b hb => hafter b ?_
      cases more with
      | nil => simp at hb
      | cons c more => exact hb
  · exact h.elsewhere hkind more

theorem not_opens_singleton {before : Bytes} {kind : PieceKind} {b : UInt8} (hquote : b ≠ 34)
    (hback : b ≠ 96) : ¬ Opens before kind [b] := by
  intro h
  cases h with
  | rawString => exact hquote rfl
  | string => exact hquote rfl
  | backquoted => exact hback rfl

/-- What stands at a place stands there too when the source ends further on. Only an apostrophe that
stands alone may be of another kind, at the end of the source. -/
theorem Reads.cut {before bytes more after : Bytes} {kind : PieceKind}
    (h : Reads before kind bytes (more ++ after)) :
    ∃ kind', Reads before kind' bytes more ∧ ∀ offset,
      Piece.comment? ⟨kind', offset, bytes⟩ = Piece.comment? ⟨kind, offset, bytes⟩ := by
  cases h with
  | closed hopens hclosed =>
    refine ⟨kind, .closed ?_ hclosed.cut, fun _ => rfl⟩
    match bytes, two_le_length_of_closed hclosed with
    | a :: b :: bytes, _ => exact Opens.of_pair hopens (bytes ++ more)
  | lone hopens hnone =>
    cases more with
    | nil =>
      refine ⟨.plain, .plain fun _ => not_opens_singleton (by decide) (by decide), fun _ => ?_⟩
      cases hopens <;> rfl
    | cons c more =>
      refine ⟨kind, .lone (hopens.of_pair more) fun bytes' after' heq hclosed => ?_, fun _ => rfl⟩
      obtain ⟨hkind, -⟩ := exists_of_opens_apostrophe hopens
      refine hnone bytes' (after' ++ after) ?_ (hclosed.elsewhere hkind _)
      rw [← List.append_assoc, heq]
      rfl
  | @plain b _ hnone =>
    refine ⟨.plain, .plain fun kind hopens => ?_, fun _ => rfl⟩
    cases more with
    | nil =>
      cases hopens with
      | rawString h => exact hnone _ (.rawString h)
      | string h => exact hnone _ (.string h)
      | backquoted => exact hnone _ .backquoted
    | cons c more => exact hnone kind (hopens.of_pair (more ++ after))

end PieceKind

namespace TilesTo

theorem of_append {before bytes after : Bytes} {ps qs : List Piece}
    (h : TilesTo before (ps ++ qs) bytes after) :
    ∃ first last, bytes = first ++ last ∧ TilesTo before ps first (last ++ after) := by
  induction ps generalizing before bytes with
  | nil => exact ⟨[], bytes, rfl, .nil⟩
  | cons p ps ih =>
    cases h with
    | cons hreads hmore =>
      obtain ⟨first, last, rfl, hfirst⟩ := ih hmore
      rw [List.append_assoc] at hreads
      exact ⟨_, last, (List.append_assoc ..).symm, .cons hreads hfirst⟩

theorem exists_tiles {before bytes after : Bytes} {ps : List Piece}
    (h : TilesTo before ps bytes after) :
    ∃ qs, Tiles before qs bytes ∧
      qs.filterMap Piece.comment? = ps.filterMap Piece.comment? := by
  induction h with
  | nil => exact ⟨[], .nil, rfl⟩
  | @cons before kind bytes more after ps hreads _ ih =>
    obtain ⟨kind', hreads', hcomment⟩ := hreads.cut
    obtain ⟨qs, htiles, hcomments⟩ := ih
    refine ⟨_, .cons hreads' htiles, ?_⟩
    rw [List.filterMap_cons, List.filterMap_cons, hcomment, hcomments]

end TilesTo

namespace Scan

theorem exists_tilesTo (before rest : Bytes) :
    ∃ bytes later, rest = bytes ++ later ∧
      TilesTo before (after before.reverse before.length 0 rest).pieces bytes later ∧
      (later = [] ∨ (start (before ++ bytes).reverse later).tail? later = none) := by
  rcases eq_or_ne rest [] with rfl | hne
  · exact ⟨[], [], rfl, .nil, .inl rfl⟩
  · cases htail : (start before.reverse rest).tail? rest with
    | none =>
      rw [after_of_tail?_eq_none hne _ htail]
      exact ⟨[], rest, rfl, .nil, .inr (by rwa [List.append_nil])⟩
    | some n =>
      obtain ⟨kind, piece, more, rfl, hpiece, hreads⟩ := exists_reads hne htail
      have : more.length < (piece ++ more).length := by
        simpa using List.length_pos_of_ne_nil hpiece
      obtain ⟨bytes, later, rfl, htiles, hlater⟩ := exists_tilesTo (before ++ piece) more
      rw [List.append_assoc] at hlater
      rw [after_of_reads hreads]
      exact ⟨piece ++ bytes, later, (List.append_assoc ..).symm, .cons hreads htiles, hlater⟩
termination_by rest.length

structure Reaches (source : String) (ps : List Piece) (head rest : Bytes) : Prop where
  bytes : Bytes.ofString source = head ++ rest
  tiles : TilesTo [] ps head rest

namespace Reaches

variable {source : String} {ps : List Piece} {head rest : Bytes}

theorem ofBytes_eq (h : Reaches source ps head rest) :
    ofBytes (Bytes.ofString source) =
      let later := after head.reverse head.length 0 rest
      ⟨ps ++ later.pieces, later.failure⟩ := by
  rw [h.bytes, ofBytes]
  exact after_of_tilesTo h.tiles

theorem of_pieces (h : ps <+: (ofBytes (Bytes.ofString source)).pieces)
    (hrest : Bytes.ofString source = ps.flatMap Piece.bytes ++ rest) :
    Reaches source ps (ps.flatMap Piece.bytes) rest := by
  obtain ⟨qs, hqs⟩ := h
  obtain ⟨bytes, later, hsource, htiles, -⟩ := exists_tilesTo [] (Bytes.ofString source)
  obtain ⟨first, last, rfl, hfirst⟩ := TilesTo.of_append (hqs ▸ htiles)
  obtain rfl := hfirst.flatMap_bytes
  rw [List.append_assoc] at hsource
  obtain rfl := List.append_cancel_left (hrest.symm.trans hsource)
  exact ⟨hsource, hfirst⟩

end Reaches

theorem exists_reaches_of_failure {source : String} {error : ScanError}
    (h : (ofBytes (Bytes.ofString source)).failure = some error) :
    ∃ ps head rest, Reaches source ps head rest ∧
      (start head.reverse rest).tail? rest = none := by
  obtain ⟨head, rest, hsource, htiles, hend⟩ := exists_tilesTo [] (Bytes.ofString source)
  have hreaches : Reaches source _ head rest := ⟨hsource, htiles⟩
  rcases hend with rfl | hend
  · rw [hreaches.ofBytes_eq] at h
    cases h
  · exact ⟨_, head, rest, hreaches, hend⟩

end Scan

end InlineAssert
