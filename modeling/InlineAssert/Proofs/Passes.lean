import InlineAssert.Proofs.Cursor
import InlineAssert.Proofs.Unclosed

namespace InlineAssert

open Bytes PieceKind Scan

structure Comment.Whole (source : String) (c : Comment) : Prop where
  start : String.Pos.Raw.IsValid source ⟨c.offset⟩
  stop : String.Pos.Raw.IsValid source ⟨c.offset + (ofString c.text).length⟩
  cut : Text.cut source c.offset (c.offset + (ofString c.text).length) = pure c.text

theorem Comment.whole_append {kind : CommentKind} (front text back : String) :
    Whole (front ++ text ++ back) ⟨kind, text, (ofString front).length⟩ where
  start := by
    rw [String.append_assoc]
    exact Text.isValid_append front (text ++ back)
  stop := by
    rw [← List.length_append, ← ofString_append]
    exact Text.isValid_append (front ++ text) back
  cut := Text.cut_eq_pure_iff.2 ⟨front, back, rfl, rfl, rfl⟩

theorem Bytes.text_dropReturn (s : String) :
    text (dropReturn (ofString s)) = .ofList (Text.dropFinal '\r' s.toList) := by
  rw [ofString_eq, dropReturn_encode, ← ofString_ofList, text_ofString]

theorem Text.exists_dropFinal (c : Char) (s : String) :
    ∃ final, s = .ofList (dropFinal c s.toList) ++ final := by
  rw [dropFinal]
  split_ifs with h
  · refine ⟨.singleton c, String.toList_inj.1 ?_⟩
    simpa using (List.dropLast_append_getLast? c h).symm
  · exact ⟨"", by simp⟩

theorem Comment.whole_dropFinal {kind : CommentKind} {c : Char} (front part rest : String) :
    Whole (front ++ part ++ rest)
      ⟨kind, .ofList (Text.dropFinal c part.toList), (ofString front).length⟩ := by
  obtain ⟨final, hfinal⟩ := Text.exists_dropFinal c part
  have hsource : front ++ part ++ rest =
      front ++ .ofList (Text.dropFinal c part.toList) ++ (final ++ rest) := by
    conv_lhs => rw [hfinal]
    simp only [String.append_assoc]
  rw [hsource]
  exact whole_append front _ (final ++ rest)

/-- A part that opens with a byte below 128 can be cut out if one of the bytes at its end is below
128, or if the source ends there. -/
theorem Text.exists_cut {source : String} {u bytes later : Bytes} {b : UInt8}
    (hsource : ofString source = u ++ (b :: bytes ++ later)) (hopen : b < 128)
    (hclose : (∀ x ∈ (b :: bytes).getLast?, x < 128) ∨ ∀ x ∈ later.head?, x < 128) :
    ∃ front part back, source = front ++ part ++ back ∧ ofString front = u ∧
      ofString part = b :: bytes ∧
      cut source u.length (u.length + (b :: bytes).length) = pure part := by
  obtain ⟨front, rest, rfl, rfl, hrest⟩ := exists_append_of_ofString hsource hopen
  obtain ⟨part, back, rfl, hpart, rfl⟩ := exists_append_of_seam hrest hclose
  refine ⟨front, part, back, String.append_assoc.symm, rfl, hpart, ?_⟩
  rw [← hpart, ← String.append_assoc]
  exact cut_eq_pure_iff.2 ⟨front, back, rfl, rfl, rfl⟩

namespace PieceKind

theorem stringEnd?_plain {front : Bytes} (h : ∀ b ∈ front, b ≠ 34 ∧ b ≠ 92) (back : Bytes) :
    stringEnd? (front ++ back) = (stringEnd? back).map (· + front.length) := by
  induction front with
  | nil => simp
  | cons b front ih =>
    obtain ⟨⟨hquote, hslash⟩, hfront⟩ := List.forall_mem_cons.1 h
    rw [List.cons_append, stringEnd?, ih hfront, Option.map_map]
    · rfl
    · exact hquote
    · exact fun _ _ hb => absurd hb hslash

theorem stringEnd?_backslash (bs : Bytes) :
    stringEnd? (92 :: bs) = (stringEnd? (bs.drop 1)).map (· + 2) := by
  cases bs <;> rfl

theorem rawEnd?_plain {front : Bytes} (h : 34 ∉ front) (hashes : Nat) (back : Bytes) :
    rawEnd? hashes (front ++ back) = (rawEnd? hashes back).map (· + front.length) := by
  induction front with
  | nil => simp
  | cons b front ih =>
    obtain ⟨hb, hfront⟩ := List.ne_and_not_mem_of_not_mem_cons h
    rw [List.cons_append, rawEnd?, if_neg (fun hquote => hb hquote.1.symm), ih hfront,
      Option.map_map]
    rfl

end PieceKind

namespace Cursor

variable {u v w : Bytes} {end? : Option Nat}

inductive Closes (c : Cursor) : (end? : Option Nat) → Run (Bool × Cursor) → Prop
  | closed : Closes c (some n) (pure (true, c.advance n))
  | unclosed : Closes c none (pure (false, c.advance n))

theorem Closes.stuck : Closes (between u v) none (pure (false, between u v)) := by
  have := Closes.unclosed (c := between u v) (n := 0)
  rwa [advance_zero] at this

theorem Closes.behind {c : Cursor} {m : Nat} {run : Run (Bool × Cursor)}
    (h : Closes (c.advance m) end? run) : Closes c (end?.map (· + m)) run := by
  cases h with
  | closed =>
    rw [advance_advance, Nat.add_comm]
    exact .closed
  | unclosed =>
    rw [advance_advance]
    exact .unclosed

theorem advance_escape (back : Bytes) :
    (between u (92 :: back)).advance 2 = between (u ++ 92 :: back.take 1) (back.drop 1) := by
  simp [advance_between]

theorem closes_closeString (u v : Bytes) :
    Closes (between u v) (stringEnd? v) (between u v).closeString := by
  rcases find?_cases (fun b => b = 34 || b = 92) u v with
    ⟨hnone, hfind⟩ | ⟨front, b, back, rfl, hfront, hb, hfind⟩
  · have hpass : (between u v).stringPass = pure (.inl (false, between u v)) := by
      rw [stringPass, hfind]
      rfl
    have hplain : ∀ b ∈ v, b ≠ 34 ∧ b ≠ 92 := fun b hb => by simpa using hnone b hb
    have hend := stringEnd?_plain hplain []
    rw [List.append_nil] at hend
    rw [closeString, loop_of_inl hpass, hend]
    exact .stuck
  · rw [stringEnd?_plain (fun x hx => by simpa using hfront x hx)]
    apply Closes.behind
    rw [advance_append]
    by_cases hslash : b = 92
    · subst hslash
      have hpass : (between u (front ++ 92 :: back)).stringPass =
          pure (.inr (between (u ++ front ++ 92 :: back.take 1) (back.drop 1))) := by
        rw [stringPass, hfind, pure_bind, ← advance_escape]
        simp
      have hlt : (back.drop 1).length < (front ++ 92 :: back).length := by
        simp
        omega
      rw [closeString, loop_of_inr hpass (by simpa using hlt), stringEnd?_backslash]
      apply Closes.behind
      rw [advance_escape]
      exact closes_closeString _ _
    · obtain rfl : b = 34 := by simpa [hslash] using hb
      have hpass : (between u (front ++ 34 :: back)).stringPass =
          pure (.inl (true, (between (u ++ front) (34 :: back)).advance 1)) := by
        rw [stringPass, hfind, pure_bind]
        simp
      rw [closeString, loop_of_inl hpass]
      exact .closed
termination_by v.length

theorem all_hashes_iff (hashes : Nat) :
    (List.range hashes).all (fun i => (between u v).ahead? i = some 35) ↔
      v.take hashes = List.replicate hashes 35 := by
  simp only [ahead?_between, List.all_eq_true, List.mem_range, decide_eq_true_eq]
  constructor
  · intro h
    refine List.ext_getElem? fun i => ?_
    rw [List.getElem?_take, List.getElem?_replicate]
    split_ifs with hi
    · exact h i hi
    · rfl
  · intro h i hi
    have := congrArg (·[i]?) h
    simpa only [List.getElem?_take, List.getElem?_replicate, if_pos hi] using this

theorem closes_closeRaw (hashes : Nat) (u v : Bytes) :
    Closes (between u v) (rawEnd? hashes v) ((between u v).closeRaw hashes) := by
  rcases find?_cases (· = 34) u v with ⟨hnone, hfind⟩ | ⟨front, b, back, rfl, hfront, hb, hfind⟩
  · have hpass : (between u v).rawPass hashes = pure (.inl (false, between u v)) := by
      rw [rawPass, hfind]
      rfl
    have hplain : 34 ∉ v := fun h => by simpa using hnone _ h
    have hend := rawEnd?_plain hplain hashes []
    rw [List.append_nil] at hend
    rw [closeRaw, loop_of_inl hpass, hend]
    exact .stuck
  · obtain rfl : b = 34 := by simpa using hb
    rw [rawEnd?_plain (fun h => by simpa using hfront _ h)]
    apply Closes.behind
    rw [advance_append, rawEnd?]
    by_cases hclose : back.take hashes = List.replicate hashes 35
    · have hpass : (between u (front ++ 34 :: back)).rawPass hashes =
          pure (.inl (true, (between (u ++ front) (34 :: back)).advance (1 + hashes))) := by
        rw [rawPass, hfind, pure_bind, ← advance_advance]
        simp only [advance_cons, advance_zero, all_hashes_iff, if_pos hclose]
      rw [closeRaw, loop_of_inl hpass, if_pos ⟨rfl, hclose⟩]
      exact .closed
    · have hpass : (between u (front ++ 34 :: back)).rawPass hashes =
          pure (.inr (between (u ++ front ++ [34]) back)) := by
        rw [rawPass, hfind, pure_bind]
        simp only [advance_cons, advance_zero, all_hashes_iff, if_neg hclose]
      have hlt : back.length < (front ++ 34 :: back).length := by
        simp
        omega
      rw [closeRaw, loop_of_inr hpass (by simpa using hlt), if_neg fun h => hclose h.2]
      apply Closes.behind
      rw [advance_cons, advance_zero]
      exact closes_closeRaw hashes _ _
termination_by v.length

theorem closes_closeBackquoted (u v : Bytes) :
    Closes (between u v) (markEnd? 96 v) (between u v).closeBackquoted := by
  have hmark : (fun b : UInt8 => b == 96) = fun b => decide (b = 96) := rfl
  rw [closeBackquoted, find?_between, pure_bind, markEnd?, List.idxOf?, hmark]
  cases v.findIdx? fun b => b = 96 with
  | none => exact .stuck
  | some i =>
    simp only [Option.map_some, advance_advance]
    exact .closed

inductive Passes (source : String) (u v : Bytes) (kind : PieceKind) : Run (Turn × Cursor) → Prop
  | passed : kind.tail? v = some n →
      (∀ offset bytes, Piece.comment? ⟨kind, offset, bytes⟩ = none) →
      Passes source u v kind (pure (.onward, (between u v).advance (n + 1)))
  | found : kind.tail? v = some n →
      Piece.comment? ⟨kind, u.length, v.take (n + 1)⟩ = some c → c.Whole source →
      Passes source u v kind (pure (.found c, (between u v).advance (n + 1)))
  | failed : kind.tail? v = none →
      Passes source u v kind (pure (.failed (kind.failure (min (u.count newline + 1) lineLimit)),
        (between u v).advance n))

variable {source : String} {kind : PieceKind}

theorem Closes.passes {b : UInt8} {run : Run (Bool × Cursor)}
    (h : Closes (between (u ++ [b]) w) end? run) (htail : kind.tail? (b :: w) = end?)
    (hcomment : ∀ offset bytes, Piece.comment? ⟨kind, offset, bytes⟩ = none)
    (hfailure : ∀ line, kind.failure line = .unterminatedString line) :
    Passes source u (b :: w) kind (run >>= (between u (b :: w)).closing) := by
  cases h with
  | closed =>
    rw [pure_bind, closing, ← advance_cons]
    exact .passed htail hcomment
  | unclosed =>
    rw [pure_bind, closing, line_between, pure_bind, ← advance_cons, ← hfailure]
    exact .failed htail

theorem passes_quote : Passes source u (34 :: w) (start u.reverse (34 :: w))
    (between u (34 :: w)).quote := by
  rw [quote, rawHashes?_between, advance_cons, advance_zero, start]
  cases PieceKind.rawHashes? u.reverse with
  | some hashes => exact (closes_closeRaw hashes _ w).passes rfl (fun _ _ => rfl) (fun _ => rfl)
  | none => exact (closes_closeString _ w).passes rfl (fun _ _ => rfl) (fun _ => rfl)

theorem passes_backquote : Passes source u (96 :: w) (start u.reverse (96 :: w))
    (((between u (96 :: w)).advance 1).closeBackquoted >>= (between u (96 :: w)).closing) := by
  rw [advance_cons, advance_zero]
  exact (closes_closeBackquoted _ w).passes rfl (fun _ _ => rfl) (fun _ => rfl)

theorem start_apostrophe {lead : UInt8} (hlead : lead ≠ 92) (before w : Bytes) :
    start before (39 :: lead :: w) =
      if lead = 39 || lead = newline then .plain else .char := by
  rw [start]
  exact hlead

theorem literal?_escape (u w : Bytes) : (between u (39 :: 92 :: w)).literal? =
    pure (((((w.drop 1).take escapeLimit).takeWhile (· ≠ newline)).idxOf? 39).map (3 + · + 1)) := by
  simp [literal?, findOnLine_between, Function.comp_def]

theorem literal?_char {lead : UInt8} (hlead : lead ≠ 92) (u w : Bytes) :
    (between u (39 :: lead :: w)).literal? =
      pure (if lead ≠ 39 ∧ lead ≠ newline ∧ (39 :: lead :: w)[width lead + 1]? = some 39 then
        some (width lead + 2) else none) := by
  simp [literal?, Nat.add_comm 1]

theorem exists_literal? (u w : Bytes) :
    ∃ kind literal? n, start u.reverse (39 :: w) = kind ∧
      (between u (39 :: w)).literal? = pure literal? ∧ literal?.getD 1 = n + 1 ∧
      kind.tail? (39 :: w) = some n ∧
      ∀ offset bytes, Piece.comment? ⟨kind, offset, bytes⟩ = none := by
  match w with
  | [] => exact ⟨.plain, none, 0, rfl, by simp [literal?], rfl, rfl, fun _ _ => rfl⟩
  | lead :: w =>
    by_cases hslash : lead = 92
    · subst hslash
      rw [literal?_escape]
      cases h : (((w.drop 1).take escapeLimit).takeWhile (· ≠ newline)).idxOf? 39 with
      | none =>
        have htail : escapedChar.tail? (39 :: 92 :: w) = some 0 := by
          simp only [tail?, markEnd?, List.drop_succ_cons, h, Option.map_none]
        exact ⟨_, _, 0, rfl, rfl, rfl, htail, fun _ _ => rfl⟩
      | some i =>
        have htail : escapedChar.tail? (39 :: 92 :: w) = some (i + 3) := by
          simp only [tail?, markEnd?, List.drop_succ_cons, h, Option.map_some]
        exact ⟨_, _, i + 3, rfl, rfl, by simp [Nat.add_comm 3], htail, fun _ _ => rfl⟩
    · rw [start_apostrophe hslash, literal?_char hslash]
      by_cases hplain : lead = 39 || lead = newline
      · rw [if_pos hplain, if_neg (by simp at hplain; tauto)]
        exact ⟨_, _, 0, rfl, rfl, rfl, rfl, fun _ _ => rfl⟩
      · have hopens : lead ≠ 39 ∧ lead ≠ newline := by simpa using hplain
        rw [if_neg hplain]
        by_cases hclose : (39 :: lead :: w)[width lead + 1]? = some 39
        · rw [if_pos ⟨hopens.1, hopens.2, hclose⟩]
          exact ⟨_, _, width lead + 1, rfl, rfl, rfl, if_pos hclose, fun _ _ => rfl⟩
        · rw [if_neg fun h => hclose h.2.2]
          exact ⟨_, _, 0, rfl, rfl, rfl, if_neg hclose, fun _ _ => rfl⟩

theorem passes_apostrophe : Passes source u (39 :: w) (start u.reverse (39 :: w))
    ((between u (39 :: w)).literal? >>= fun literal? =>
      pure (.onward, (between u (39 :: w)).advance (literal?.getD 1))) := by
  obtain ⟨kind, literal?, n, rfl, hliteral, hn, htail, hcomment⟩ := exists_literal? u w
  rw [hliteral, pure_bind, hn]
  exact .passed htail hcomment

theorem passes_lineComment (hsource : ofString source = u ++ 47 :: 47 :: w) :
    Passes source u (47 :: 47 :: w) .lineComment ((between u (47 :: 47 :: w)).slash source) := by
  obtain ⟨body, back, rfl, hbody, hback⟩ := exists_line w
  have hline : newline ∉ 47 :: 47 :: body := by simpa using ⟨by decide, hbody⟩
  have hparts : ofString source = u ++ (47 :: 47 :: body ++ back) := hsource
  obtain ⟨front, part, rest, rfl, rfl, hpart, hcut⟩ :=
    Text.exists_cut hparts (by decide) (.inr fun x hx => hback x hx ▸ by decide)
  have hslash :
      (between (ofString front) (47 :: 47 :: body ++ back)).slash (front ++ part ++ rest) =
        pure (.found ⟨.line, .ofList (Text.dropFinal '\r' part.toList), (ofString front).length⟩,
          between (ofString front ++ 47 :: 47 :: body) back) := by
    rw [slash, ahead?_between]
    simp only [List.cons_append, List.getElem?_cons_succ, List.getElem?_cons_zero]
    rw [← List.cons_append, ← List.cons_append, toNewline_append hline hback, pure_bind,
      pos_between, pos_between, List.length_append, hcut, pure_bind]
  have htail := tail?_of_closed (Closed.lineComment hbody hback)
  have hcomment : Piece.comment? ⟨.lineComment, (ofString front).length, 47 :: 47 :: body⟩ =
      some ⟨.line, .ofList (Text.dropFinal '\r' part.toList), (ofString front).length⟩ := by
    rw [Piece.comment?, ← hpart, text_dropReturn]
  rw [← advance_append] at hslash
  simp only [List.cons_append] at hslash htail
  rw [hslash]
  refine .found htail ?_ (Comment.whole_dropFinal front part rest)
  rw [← hcomment]
  simp

theorem passes_blockComment (hsource : ofString source = u ++ 47 :: 42 :: w) :
    Passes source u (47 :: 42 :: w) .blockComment ((between u (47 :: 42 :: w)).slash source) := by
  have hopened : (between u (47 :: 42 :: w)).advance 2 = between (u ++ [47, 42]) w := by
    simp [advance_between]
  rw [slash, ahead?_between]
  simp only [List.getElem?_cons_succ, List.getElem?_cons_zero]
  rw [hopened, past?_between (by simp), pure_bind]
  cases hclose : through? [42, 47] w with
  | none =>
    have htail : blockComment.tail? (47 :: 42 :: w) = none := by
      simp [tail?, blockEnd?_eq, hclose]
    rw [Option.map_none, line_between, pure_bind, ← hopened]
    exact .failed htail
  | some n =>
    obtain ⟨hn, hends⟩ := (through?_eq_some_iff (by simp)).1 hclose
    obtain ⟨body, later, rfl, rfl⟩ : ∃ body later, w = body ++ later ∧ n = body.length :=
      ⟨w.take n, w.drop n, by simp, by simp [hn]⟩
    rw [List.take_left] at hends
    have hlast : ∀ b ∈ (47 :: 42 :: body).getLast?, b < 128 := by
      obtain ⟨front, rfl⟩ := hends.1
      have : 47 :: 42 :: (front ++ [42, 47]) = 47 :: 42 :: front ++ [42] ++ [47] := by simp
      rw [this, List.getLast?_concat]
      rintro _ ⟨⟩
      decide
    have hparts : ofString source = u ++ (47 :: 42 :: body ++ later) := hsource
    obtain ⟨front, part, rest, rfl, rfl, hpart, hcut⟩ :=
      Text.exists_cut hparts (by decide) (.inl hlast)
    have htail : blockComment.tail? (47 :: 42 :: (body ++ later)) = some (body.length + 1) := by
      simp [tail?, blockEnd?_eq, hclose]
    have hcomment : Piece.comment? ⟨.blockComment, (ofString front).length, 47 :: 42 :: body⟩ =
        some ⟨.block, part, (ofString front).length⟩ := by
      rw [Piece.comment?, ← hpart, text_ofString]
    have hstop : (between (ofString front ++ [47, 42]) (body ++ later)).advance body.length =
        between (ofString front ++ 47 :: 42 :: body) later := by
      simp
    simp only [Option.map_some, hstop]
    rw [pos_between, pos_between, List.length_append, hcut, pure_bind, ← advance_append]
    refine .found htail ?_ (Comment.whole_append front part rest)
    rw [← hcomment]
    simp

theorem start_slash {b : UInt8} (hslash : b ≠ 47) (hstar : b ≠ 42) (before w : Bytes) :
    start before (47 :: b :: w) = .plain := by
  simp [start, hslash, hstar]

theorem passes_slash (hsource : ofString source = u ++ 47 :: w) :
    Passes source u (47 :: w) (start u.reverse (47 :: w)) ((between u (47 :: w)).slash source) := by
  match w with
  | [] =>
    rw [slash, ahead?_between]
    exact .passed (n := 0) rfl fun _ _ => rfl
  | b :: w =>
    by_cases hslash : b = 47
    · subst hslash
      exact passes_lineComment hsource
    · by_cases hstar : b = 42
      · subst hstar
        exact passes_blockComment hsource
      · have halone : (between u (47 :: b :: w)).slash source =
            pure (.onward, (between u (47 :: b :: w)).advance 1) := by
          simp [slash, hslash, hstar]
        rw [start_slash hslash hstar, halone]
        exact .passed (n := 0) rfl fun _ _ => rfl

theorem turn_cases (hsource : ofString source = u ++ v) :
    (∀ b ∈ v, Idle b) ∧ (between u v).turn source = pure (.ended, between (u ++ v) []) ∨
      ∃ code b w, v = code ++ b :: w ∧ (∀ x ∈ code, Idle x) ∧
        Passes source (u ++ code) (b :: w) (start (u ++ code).reverse (b :: w))
          ((between u v).turn source) := by
  obtain ⟨code, back, rfl, hcode, hback, hopening⟩ := toOpening_cases u v
  rw [turn, hopening, pure_bind, ahead?_between]
  match back with
  | [] => exact .inl ⟨by simpa using hcode, by simp⟩
  | b :: w =>
    refine .inr ⟨code, b, w, rfl, hcode, ?_⟩
    rw [← List.append_assoc] at hsource
    obtain rfl | rfl | rfl | rfl : b = 47 ∨ b = 34 ∨ b = 96 ∨ b = 39 := by
      by_contra h
      exact hback b rfl (by simpa [Idle] using h)
    · exact passes_slash hsource
    · exact passes_quote
    · exact passes_backquote
    · exact passes_apostrophe

end Cursor

end InlineAssert
