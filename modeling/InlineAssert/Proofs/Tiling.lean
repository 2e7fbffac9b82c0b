import InlineAssert.Proofs.Literal

namespace InlineAssert

namespace PieceKind

inductive Opens (before : Bytes) : PieceKind → (rest : Bytes) → Prop
  | lineComment : Opens before .lineComment (47 :: 47 :: rest)
  | blockComment : Opens before .blockComment (47 :: 42 :: rest)
  | rawString : OpensRaw before hashes → Opens before (.rawString hashes) (34 :: rest)
  | string : (∀ hashes, ¬ OpensRaw before hashes) → Opens before .string (34 :: rest)
  | backquoted : Opens before .backquoted (96 :: rest)
  | escapedChar : Opens before .escapedChar (39 :: 92 :: rest)
  | char : lead ≠ 39 → lead ≠ 92 → lead ≠ newline → Opens before .char (39 :: lead :: rest)

inductive Closed : PieceKind → (bytes after : Bytes) → Prop
  | lineComment : newline ∉ body → (∀ b ∈ after.head?, b = newline) →
      Closed .lineComment (47 :: 47 :: body) after
  | blockComment : RunsThrough [42, 47] body → Closed .blockComment (47 :: 42 :: body) after
  | rawString : RunsThrough (34 :: List.replicate hashes 35) body →
      Closed (.rawString hashes) (34 :: body) after
  | string : StringBody body → Closed .string (34 :: body) after
  | backquoted : RunsThrough [96] body → Closed .backquoted (96 :: body) after
  | escapedChar : RunsThrough [39] body → body.length ≤ 12 → newline ∉ body →
      Closed .escapedChar (39 :: 92 :: b :: body) after
  | char : (lead :: more).length = width lead → Closed .char (39 :: lead :: (more ++ [39])) after

/-- The piece that stands between `before` and `after`. An apostrophe whose literal does not close
stands alone, and so does a byte at which nothing opens. -/
inductive Reads (before : Bytes) : PieceKind → (bytes after : Bytes) → Prop
  | closed : Opens before kind (bytes ++ after) → Closed kind bytes after →
      Reads before kind bytes after
  | lone : Opens before kind (39 :: after) →
      (∀ bytes' after', bytes' ++ after' = 39 :: after → ¬ Closed kind bytes' after') →
      Reads before kind [39] after
  | plain : (∀ kind, ¬ Opens before kind (b :: after)) → Reads before .plain [b] after

theorem Opens.of_pair {before : Bytes} {kind : PieceKind} {a b : UInt8} {rest : Bytes}
    (h : Opens before kind (a :: b :: rest)) (rest' : Bytes) :
    Opens before kind (a :: b :: rest') := by
  cases h with
  | lineComment => exact .lineComment
  | blockComment => exact .blockComment
  | rawString h => exact .rawString h
  | string h => exact .string h
  | backquoted => exact .backquoted
  | escapedChar => exact .escapedChar
  | char hquote hslash hnewline => exact .char hquote hslash hnewline

theorem start_eq_of_opens {before rest : Bytes} {kind : PieceKind} (h : Opens before kind rest) :
    start before.reverse rest = kind := by
  cases h with
  | lineComment => rfl
  | blockComment => rfl
  | rawString h => simp [start, rawHashes?_reverse_eq_some_iff.2 h]
  | string h =>
    have hnone : rawHashes? before.reverse = none :=
      Option.eq_none_iff_forall_ne_some.2 fun n hn => h n (rawHashes?_reverse_eq_some_iff.1 hn)
    simp [start, hnone]
  | backquoted => rfl
  | escapedChar => rfl
  | char hquote hslash hnewline => simp [start, hquote, hnewline]

theorem opens_of_start {before rest : Bytes} (h : start before.reverse rest ≠ .plain) :
    Opens before (start before.reverse rest) rest := by
  fun_cases start before.reverse rest with
  | case1 => exact .lineComment
  | case2 => exact .blockComment
  | case3 rest hashes hraw => exact .rawString (rawHashes?_reverse_eq_some_iff.1 hraw)
  | case4 rest hnone =>
    refine .string fun hashes hraw => ?_
    rw [rawHashes?_reverse_eq_some_iff.2 hraw] at hnone
    cases hnone
  | case5 => exact .backquoted
  | case6 => exact .escapedChar
  | case7 lead rest hslash hlead => simp [start, hlead] at h
  | case8 lead rest hslash hlead =>
    simp only [Bool.or_eq_true, decide_eq_true_eq, not_or] at hlead
    exact .char hlead.1 hslash hlead.2
  | case9 => simp [start] at h

theorem takeWhile_append_of_head {p : UInt8 → Bool} {body after : Bytes} (hbody : ∀ b ∈ body, p b)
    (hafter : ∀ b ∈ after.head?, p b = false) : (body ++ after).takeWhile p = body := by
  rw [List.takeWhile_append_of_pos hbody]
  cases after with
  | nil => simp
  | cons b after => simp [hafter b rfl]

theorem exists_line (rest : Bytes) : ∃ body after, rest = body ++ after ∧ newline ∉ body ∧
    ∀ b ∈ after.head?, b = newline := by
  induction rest with
  | nil => exact ⟨[], [], rfl, by simp, by simp⟩
  | cons b rest ih =>
    by_cases hb : b = newline
    · exact ⟨[], b :: rest, rfl, by simp, by simp [hb]⟩
    · obtain ⟨body, after, rfl, hbody, hafter⟩ := ih
      exact ⟨b :: body, after, rfl, by simp [hbody, Ne.symm hb], hafter⟩

theorem tail?_of_closed {kind : PieceKind} {bytes after : Bytes} (h : Closed kind bytes after) :
    kind.tail? (bytes ++ after) = some (bytes.length - 1) := by
  cases h with
  | @lineComment body after hbody hafter =>
    have : (47 :: body ++ after).takeWhile (· ≠ newline) = 47 :: body := by
      apply takeWhile_append_of_head
      · intro b hb
        rcases List.mem_cons.1 hb with rfl | hb
        · decide
        · have : b ≠ newline := fun e => hbody (e ▸ hb)
          simpa using this
      · simpa using hafter
    simpa [tail?] using congrArg List.length this
  | @blockComment body after h => simp [tail?, blockEnd?_eq, through?_append _ h]
  | @rawString hashes body after h => simp [tail?, rawEnd?_eq, through?_append _ h]
  | @string body after h => simp [tail?, stringEnd?_append h]
  | @backquoted body after h => simp [tail?, markEnd?_eq, through?_append _ h]
  | @escapedChar body b after h hlimit hline =>
    have hwindow : ((body ++ after).take escapeLimit).takeWhile (· ≠ newline) =
        body ++ (after.take (escapeLimit - body.length)).takeWhile (· ≠ newline) := by
      have hbody : body.take escapeLimit = body := List.take_of_length_le hlimit
      rw [List.take_append, hbody, List.takeWhile_append_of_pos]
      intro b hb
      have : b ≠ newline := fun e => hline (e ▸ hb)
      simpa using this
    have : markEnd? 39 (((body ++ after).take escapeLimit).takeWhile (· ≠ newline)) =
        some body.length := by
      rw [markEnd?_eq, hwindow, through?_append (by simp) h]
    simp only [tail?, List.cons_append, List.drop_succ_cons, List.drop_zero, this]
    simp
  | @char lead more after h =>
    have : width lead = more.length + 1 := by simpa using h.symm
    simp [tail?, this]

theorem escape_window {rest : Bytes} {m : Nat}
    (h : m ≤ ((rest.take escapeLimit).takeWhile (· ≠ newline)).length) :
    ((rest.take escapeLimit).takeWhile (· ≠ newline)).take m = rest.take m ∧
      m ≤ escapeLimit ∧ m ≤ rest.length ∧ newline ∉ rest.take m := by
  have hwindow : (rest.take escapeLimit).takeWhile (· ≠ newline) <+: rest :=
    (List.takeWhile_prefix _).trans (List.take_prefix ..)
  have htake : ((rest.take escapeLimit).takeWhile (· ≠ newline)).take m = rest.take m := by
    rw [List.prefix_iff_eq_take.1 hwindow, List.take_take, Nat.min_eq_left h]
  have hlength := (List.takeWhile_prefix (fun b => decide (b ≠ newline))
    (l := rest.take escapeLimit)).length_le
  rw [List.length_take] at hlength
  refine ⟨htake, by omega, by omega, ?_⟩
  rw [← htake]
  intro hmem
  have := List.all_takeWhile (p := fun b => decide (b ≠ newline)) (l := rest.take escapeLimit)
  simpa using List.all_eq_true.1 this _ (List.mem_of_mem_take hmem)

theorem width_pos (lead : UInt8) : 0 < width lead := by
  unfold width
  split_ifs <;> decide

def Ends (kind : PieceKind) (rest : Bytes) (n : Nat) : Prop :=
  n < rest.length ∧ Closed kind (rest.take (n + 1)) (rest.drop (n + 1))

theorem ends_escapedChar {rest : Bytes} {n : Nat}
    (h : PieceKind.escapedChar.tail? (39 :: 92 :: rest) = some n) :
    Ends .escapedChar (39 :: 92 :: rest) n ∨ n = 0 := by
  cases rest with
  | nil =>
    right
    simpa [tail?, markEnd?] using h.symm
  | cons b rest =>
    simp only [tail?, List.drop_succ_cons, List.drop_zero] at h
    split at h
    · next m hm =>
      left
      obtain rfl : m + 2 = n := by simpa using h
      rw [markEnd?_eq] at hm
      obtain ⟨hlength, hbody⟩ := (through?_eq_some_iff (by simp)).1 hm
      obtain ⟨htake, hlimit, hend, hline⟩ := escape_window hlength
      rw [htake] at hbody
      refine ⟨by simp only [List.length_cons]; omega, ?_⟩
      simp only [List.take_succ_cons]
      exact .escapedChar hbody ((List.length_take_le ..).trans hlimit) hline
    · exact .inr (by simpa using h.symm)

theorem ends_char {lead : UInt8} {rest : Bytes} {n : Nat}
    (h : PieceKind.char.tail? (39 :: lead :: rest) = some n) :
    Ends .char (39 :: lead :: rest) n ∨ n = 0 := by
  rw [tail?] at h
  split at h
  · next hclose =>
    left
    simp only [List.tail_cons, List.headD_cons] at h hclose
    obtain ⟨k, hk⟩ := Nat.exists_eq_succ_of_ne_zero (width_pos lead).ne'
    obtain rfl : k + 2 = n := by simpa [hk] using h
    have hrest : rest[k]? = some 39 := by simpa [hk] using hclose
    have hlt : k < rest.length := (List.getElem?_eq_some_iff.1 hrest).1
    have htake : rest.take (k + 1) = rest.take k ++ [39] := by
      rw [List.take_add_one, hrest]
      rfl
    refine ⟨by simp only [List.length_cons]; omega, ?_⟩
    simp only [List.take_succ_cons, htake]
    exact .char (by simp [hk]; omega)
  · exact .inr (by simpa using h.symm)

theorem ends_of_tail? {before rest : Bytes} {kind : PieceKind} {n : Nat}
    (hopens : Opens before kind rest) (h : kind.tail? rest = some n) :
    Ends kind rest n ∨ n = 0 ∧ rest.head? = some 39 := by
  cases hopens with
  | @lineComment rest =>
    left
    obtain ⟨body, after, rfl, hbody, hafter⟩ := exists_line rest
    have hclosed : Closed .lineComment (47 :: 47 :: body) after := .lineComment hbody hafter
    obtain rfl : body.length + 1 = n := by simpa using (tail?_of_closed hclosed).symm.trans h
    exact ⟨by simp only [List.length_cons, List.length_append]; omega, by simpa using hclosed⟩
  | @blockComment rest =>
    left
    rw [tail?, blockEnd?_eq, Option.map_eq_some_iff] at h
    obtain ⟨m, hm, rfl⟩ := h
    obtain ⟨hlength, hbody⟩ := (through?_eq_some_iff (by simp)).1 hm
    simp only [List.drop_succ_cons, List.drop_zero] at hlength
    refine ⟨by simp only [List.length_cons]; omega, ?_⟩
    simpa using Closed.blockComment hbody
  | @rawString hashes rest =>
    left
    rw [tail?, rawEnd?_eq] at h
    obtain ⟨hlength, hbody⟩ := (through?_eq_some_iff (by simp)).1 h
    exact ⟨Nat.lt_succ_of_le hlength, Closed.rawString hbody⟩
  | @string rest =>
    left
    obtain ⟨hlength, hbody⟩ := stringEnd?_eq_some_iff.1 h
    exact ⟨Nat.lt_succ_of_le hlength, Closed.string hbody⟩
  | @backquoted rest =>
    left
    rw [tail?, markEnd?_eq] at h
    obtain ⟨hlength, hbody⟩ := (through?_eq_some_iff (by simp)).1 h
    exact ⟨Nat.lt_succ_of_le hlength, Closed.backquoted hbody⟩
  -- an apostrophe whose literal does not close stands alone
  | escapedChar => exact (ends_escapedChar h).imp_right fun hn => ⟨hn, rfl⟩
  | char => exact (ends_char h).imp_right fun hn => ⟨hn, rfl⟩

theorem two_le_length_of_closed {kind : PieceKind} {bytes after : Bytes}
    (h : Closed kind bytes after) : 2 ≤ bytes.length := by
  have hbody : ∀ {mark body : Bytes}, RunsThrough mark body → mark ≠ [] → body ≠ [] := by
    rintro mark _ h hmark rfl
    exact not_runsThrough_nil hmark h
  cases h with
  | lineComment => simp
  | blockComment => simp
  | rawString h => simpa [Nat.one_le_iff_ne_zero] using hbody h (by simp)
  | string h => cases h <;> simp
  | backquoted h => simpa [Nat.one_le_iff_ne_zero] using hbody h (by simp)
  | escapedChar => simp
  | char => simp

theorem exists_tail?_of_apostrophe {before after : Bytes} {kind : PieceKind}
    (h : Opens before kind (39 :: after)) : ∃ n, kind.tail? (39 :: after) = some n := by
  cases h with
  | escapedChar => rw [tail?]; split <;> exact ⟨_, rfl⟩
  | char => rw [tail?]; split <;> exact ⟨_, rfl⟩

theorem not_opens_plain {before rest : Bytes} : ¬ Opens before .plain rest := nofun

theorem reads_iff {before bytes after : Bytes} {kind : PieceKind} :
    Reads before kind bytes after ↔ bytes ≠ [] ∧ start before.reverse (bytes ++ after) = kind ∧
      kind.tail? (bytes ++ after) = some (bytes.length - 1) := by
  constructor
  · intro h
    cases h with
    | closed hopens hclosed =>
      have := two_le_length_of_closed hclosed
      exact ⟨List.ne_nil_of_length_pos (by omega), start_eq_of_opens hopens,
        tail?_of_closed hclosed⟩
    | lone hopens hnone =>
      obtain ⟨n, hn⟩ := exists_tail?_of_apostrophe hopens
      refine ⟨by simp, start_eq_of_opens hopens, hn.trans ?_⟩
      rcases ends_of_tail? hopens hn with ⟨-, hclosed⟩ | ⟨rfl, -⟩
      · exact absurd hclosed (hnone _ _ (List.take_append_drop ..))
      · rfl
    | @plain b _ hnone =>
      have hstart : start before.reverse (b :: after) = .plain := by
        by_contra hne
        exact hnone _ (opens_of_start hne)
      exact ⟨by simp, hstart, rfl⟩
  · rintro ⟨hne, hstart, htail⟩
    obtain ⟨b, bs, rfl⟩ := List.exists_cons_of_ne_nil hne
    by_cases hplain : kind = .plain
    · subst hplain
      obtain rfl : bs = [] := by simpa [tail?] using htail.symm
      refine .plain fun kind hopens => ?_
      have hkind : kind = .plain := (start_eq_of_opens hopens).symm.trans hstart
      exact not_opens_plain (hkind ▸ hopens)
    · have hopens : Opens before kind (b :: bs ++ after) := by
        subst hstart
        exact opens_of_start hplain
      rcases ends_of_tail? hopens htail with ⟨-, hclosed⟩ | ⟨hzero, hhead⟩
      · exact .closed hopens (by simpa using hclosed)
      · obtain rfl : bs = [] := by simpa using hzero
        obtain rfl : b = 39 := by simpa using hhead
        refine .lone hopens fun bytes' after' heq hclosed => ?_
        -- a literal that closed here would be as long as the scan says, and that is one byte
        have hlonger := tail?_of_closed hclosed
        rw [heq] at hlonger
        have := hlonger.symm.trans htail
        have := two_le_length_of_closed hclosed
        simp at *
        omega

theorem tail?_lt {before rest : Bytes} {n : Nat} (hne : rest ≠ [])
    (h : (start before.reverse rest).tail? rest = some n) : n < rest.length := by
  have hpos := List.length_pos_of_ne_nil hne
  by_cases hplain : start before.reverse rest = .plain
  · rw [hplain] at h
    obtain rfl : n = 0 := by simpa [tail?] using h.symm
    exact hpos
  · rcases ends_of_tail? (opens_of_start hplain) h with ⟨hlt, -⟩ | ⟨rfl, -⟩
    · exact hlt
    · exact hpos

theorem exists_reads {before rest : Bytes} {n : Nat} (hne : rest ≠ [])
    (h : (start before.reverse rest).tail? rest = some n) :
    ∃ kind bytes after, rest = bytes ++ after ∧ bytes ≠ [] ∧ Reads before kind bytes after := by
  have hlt := tail?_lt hne h
  refine ⟨start before.reverse rest, rest.take (n + 1), rest.drop (n + 1),
    (List.take_append_drop ..).symm, by simpa using hne, reads_iff.2 ?_⟩
  rw [List.take_append_drop, List.length_take, Nat.min_eq_left hlt]
  exact ⟨by simpa using hne, rfl, h⟩

end PieceKind

open PieceKind

inductive TilesTo : (before : Bytes) → List Piece → (bytes after : Bytes) → Prop
  | nil : TilesTo before [] [] after
  | cons : Reads before kind bytes (more ++ after) → TilesTo (before ++ bytes) ps more after →
      TilesTo before (⟨kind, before.length, bytes⟩ :: ps) (bytes ++ more) after

namespace TilesTo

theorem flatMap_bytes {before bytes after : Bytes} {ps : List Piece}
    (h : TilesTo before ps bytes after) : ps.flatMap Piece.bytes = bytes := by
  induction h with
  | nil => rfl
  | cons _ _ ih => rw [List.flatMap_cons, ih]

end TilesTo

inductive Tiles : (before : Bytes) → List Piece → (rest : Bytes) → Prop
  | nil : Tiles before [] []
  | cons : Reads before kind bytes after → Tiles (before ++ bytes) ps after →
      Tiles before (⟨kind, before.length, bytes⟩ :: ps) (bytes ++ after)

namespace Tiles

theorem flatMap_bytes {before rest : Bytes} {ps : List Piece} (h : Tiles before ps rest) :
    ps.flatMap Piece.bytes = rest := by
  induction h with
  | nil => rfl
  | cons _ _ ih => rw [List.flatMap_cons, ih]

end Tiles

namespace Scan

theorem after_skip (before : Bytes) (offset : Nat) (bytes rest : Bytes) :
    after before offset bytes.length (bytes ++ rest) =
      after (bytes.reverse ++ before) (offset + bytes.length) 0 rest := by
  induction bytes generalizing before offset with
  | nil => rfl
  | cons b bytes ih =>
    simp only [List.length_cons, List.cons_append, after, ih, List.reverse_cons, List.append_assoc,
      List.nil_append, Nat.add_assoc, Nat.add_comm 1]

theorem after_of_reads {before bytes rest : Bytes} {kind : PieceKind}
    (h : Reads before kind bytes rest) :
    after before.reverse before.length 0 (bytes ++ rest) =
      let later := after (before ++ bytes).reverse (before ++ bytes).length 0 rest
      ⟨⟨kind, before.length, bytes⟩ :: later.pieces, later.failure⟩ := by
  obtain ⟨hne, hstart, htail⟩ := reads_iff.1 h
  obtain ⟨b, bs, rfl⟩ := List.exists_cons_of_ne_nil hne
  have hskip := after_skip (b :: before.reverse) (before.length + 1) bs rest
  rw [List.cons_append] at hstart htail ⊢
  rw [after, hstart, htail]
  simp only [List.length_cons, Nat.add_one_sub_one, hskip]
  simp [Nat.add_assoc, Nat.add_comm 1]

theorem after_of_tilesTo {before bytes rest : Bytes} {ps : List Piece}
    (h : TilesTo before ps bytes rest) :
    after before.reverse before.length 0 (bytes ++ rest) =
      let later := after (before ++ bytes).reverse (before ++ bytes).length 0 rest
      ⟨ps ++ later.pieces, later.failure⟩ := by
  induction h with
  | nil => simp
  | cons hreads _ ih =>
    rw [List.append_assoc, after_of_reads hreads, ih, List.append_assoc]
    rfl

theorem after_of_tail?_eq_none {before rest : Bytes} (hne : rest ≠ []) (offset : Nat)
    (h : (start before rest).tail? rest = none) :
    after before offset 0 rest =
      ⟨[], some ((start before rest).failure (min (before.count newline + 1) lineLimit))⟩ := by
  obtain ⟨b, bs, rfl⟩ := List.exists_cons_of_ne_nil hne
  rw [after, h]

theorem after_of_tiles {before rest : Bytes} {ps : List Piece} (h : Tiles before ps rest) :
    after before.reverse before.length 0 rest = ⟨ps, none⟩ := by
  induction h with
  | nil => rfl
  | cons hreads _ ih => rw [after_of_reads hreads, ih]

theorem exists_tail?_of_failure_eq_none {before rest : Bytes} {offset : Nat} (hne : rest ≠ [])
    (h : (after before offset 0 rest).failure = none) :
    ∃ n, (start before rest).tail? rest = some n := by
  obtain ⟨b, bs, rfl⟩ := List.exists_cons_of_ne_nil hne
  cases htail : (start before (b :: bs)).tail? (b :: bs) with
  | none => simp [after, htail] at h
  | some n => exact ⟨n, rfl⟩

theorem tiles_of_after {before rest : Bytes}
    (h : (after before.reverse before.length 0 rest).failure = none) :
    Tiles before (after before.reverse before.length 0 rest).pieces rest := by
  rcases eq_or_ne rest [] with rfl | hne
  · exact .nil
  · obtain ⟨n, hn⟩ := exists_tail?_of_failure_eq_none hne h
    obtain ⟨kind, bytes, later, rfl, hbytes, hreads⟩ := exists_reads hne hn
    have : later.length < (bytes ++ later).length := by
      simpa using List.length_pos_of_ne_nil hbytes
    rw [after_of_reads hreads] at h ⊢
    exact .cons hreads (tiles_of_after h)
termination_by rest.length

theorem ofBytes_eq_iff {source : Bytes} {ps : List Piece} :
    ofBytes source = ⟨ps, none⟩ ↔ Tiles [] ps source := by
  constructor
  · intro h
    have htiles : Tiles [] (ofBytes source).pieces source :=
      tiles_of_after (congrArg Scan.failure h)
    rwa [h] at htiles
  · exact fun h => after_of_tiles h

end Scan

/-- The comments are read off the one tiling of the source. -/
theorem Comment.all_eq_ok_iff_tiles (source : String) (comments : List Comment) :
    Comment.all source = .ok comments ↔
      ∃ ps, Tiles [] ps (Bytes.ofString source) ∧
        (∀ qs, Tiles [] qs (Bytes.ofString source) → qs = ps) ∧
        ps.flatMap Piece.bytes = Bytes.ofString source ∧
        ps.filterMap Piece.comment? = comments := by
  have hall : Comment.all source = .ok comments ↔
      ∃ ps, Scan.ofBytes (Bytes.ofString source) = ⟨ps, none⟩ ∧
        ps.filterMap Piece.comment? = comments := by
    rcases hscan : Scan.ofBytes (Bytes.ofString source) with ⟨ps, _ | error⟩
    · simp [Comment.all, hscan, Scan.comments]
    · simp [Comment.all, hscan]
  rw [hall]
  constructor
  · rintro ⟨ps, hscan, hcomments⟩
    have htiles := Scan.ofBytes_eq_iff.1 hscan
    refine ⟨ps, htiles, fun qs hqs => ?_, htiles.flatMap_bytes, hcomments⟩
    have := (Scan.ofBytes_eq_iff.2 hqs).symm.trans hscan
    simpa using this
  · rintro ⟨ps, htiles, -, -, hcomments⟩
    exact ⟨ps, Scan.ofBytes_eq_iff.2 htiles, hcomments⟩

end InlineAssert
