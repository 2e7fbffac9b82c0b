import InlineAssert.Proofs.Encoding
import InlineAssert.Proofs.Tiling
import Mathlib.Algebra.Group.Nat.Defs

/-! A scan is local to whole lines. Where bytes end with a line, and all of their pieces do, the
scan of what comes after them is the scan of that alone: no piece reaches forward over the break,
and what begins after it does not depend on what stands before. -/

namespace InlineAssert

namespace PieceKind

/-- Whole characters, the last of which is a newline without an apostrophe and a backslash before
it. -/
structure CleanBreak (bs : Bytes) : Prop where
  ends : ∀ b ∈ bs.getLast?, b = newline
  unescaped : ¬ [39, 92, newline] <:+ bs
  whole : Bytes.WholeChars bs

theorem CleanBreak.of_append {u v : Bytes} (h : CleanBreak (u ++ v)) : CleanBreak v where
  ends b hb := h.ends b (by simp [List.getLast?_append, Option.mem_def.1 hb])
  unescaped hv := h.unescaped (hv.trans (List.suffix_append ..))
  whole := h.whole.of_append

theorem CleanBreak.newline_mem {bs : Bytes} (h : CleanBreak bs) (hne : bs ≠ []) : newline ∈ bs := by
  have hlast := List.getLast?_eq_some_getLast hne
  rw [← h.ends _ hlast]
  exact List.getLast_mem hne

variable {before : Bytes} {kind : PieceKind}

theorem not_opens_newline {rest : Bytes} : ¬ Opens before kind (newline :: rest) := by
  intro h
  obtain rfl : PieceKind.plain = kind := start_eq_of_opens h
  exact not_opens_plain h

theorem exists_of_opens_apostrophe {rest : Bytes} (h : Opens before kind (39 :: rest)) :
    kind ≠ .lineComment ∧ ∃ b more, rest = b :: more := by
  cases h with
  | escapedChar => exact ⟨nofun, _, _, rfl⟩
  | char => exact ⟨nofun, _, _, rfl⟩

theorem Opens.append {rest : Bytes} (h : Opens before kind rest) (hlength : 2 ≤ rest.length)
    (later : Bytes) : Opens before kind (rest ++ later) := by
  match rest, hlength with
  | a :: b :: rest, _ => exact h.of_pair (rest ++ later)

theorem Closed.newline_mem_iff {bytes after : Bytes} (h : Closed kind bytes after)
    (hopens : Opens before kind (bytes ++ after)) (hwhole : Bytes.WholeChars (bytes ++ after))
    (hquote : bytes.head? = some 39) :
    newline ∈ bytes ↔ ∃ body, newline ∉ body ∧ bytes = 39 :: 92 :: newline :: body := by
  have hmarks : newline ≠ 39 ∧ newline ≠ 92 := by decide
  cases h with
  | @escapedChar body b _ _ _ hline =>
    constructor
    · intro hmem
      have hb : newline = b := by simpa [hmarks, hline] using hmem
      exact ⟨body, hline, by rw [hb]⟩
    · rintro ⟨body', -, heq⟩
      simp [heq]
  | @char lead more _ hwidth =>
    have hlead : lead ≠ newline ∧ lead ≠ 92 := by
      cases hopens with
      | char _ hslash hnewline => exact ⟨hnewline, hslash⟩
    obtain ⟨own, rest, hown, hlength, hlater⟩ :=
      hwhole [] 39 lead (more ++ [39] ++ after) rfl (by decide)
    have hsame : more.length = own.length := by
      simp only [List.length_cons] at hwidth
      omega
    rw [List.append_assoc] at hown
    obtain ⟨rfl, -⟩ := List.append_inj hown hsame
    have hmore : newline ∉ more := fun h => absurd (hlater newline h) (by decide)
    constructor
    · intro hmem
      have : newline = lead := by simpa [hmarks, hmore] using hmem
      exact absurd this.symm hlead.1
    · rintro ⟨body, -, heq⟩
      simp only [List.cons.injEq, true_and] at heq
      exact absurd heq.1 hlead.2
  | lineComment | blockComment | rawString | string | backquoted => simp at hquote

theorem not_closed_across {rest mid after : Bytes} (hbreak : CleanBreak (39 :: rest))
    (hmid : mid ≠ []) (hopens : Opens before kind (39 :: rest)) :
    ¬ Closed kind (39 :: rest ++ mid) after := by
  intro hclosed
  generalize hbytes : 39 :: rest ++ mid = bytes at hclosed
  cases hopens with
  | @escapedChar rest =>
    cases hclosed with
    | @escapedChar body b _ _ _ hline =>
      have hrest : rest ++ mid = b :: body := by simpa using hbytes
      have hnewline : newline ∈ 39 :: 92 :: rest := hbreak.newline_mem (by simp)
      cases rest with
      | nil => exact absurd hnewline (by decide)
      | cons x rest =>
        obtain ⟨rfl, rfl⟩ := List.cons.inj hrest
        -- the newline that ends the line is either escaped itself or inside of the literal
        have hmem : newline ∉ rest := fun h => hline (List.mem_append_left mid h)
        have hempty : rest = [] := by
          by_contra hne
          have hbehind : CleanBreak rest := hbreak.of_append (u := [39, 92, x])
          exact hmem (hbehind.newline_mem hne)
        subst hempty
        have hx : x = newline := hbreak.ends x rfl
        exact hbreak.unescaped (hx ▸ List.suffix_rfl)
  | @char lead rest hquote hslash hnewline =>
    cases hclosed with
    | @char _ more _ hwidth =>
      obtain ⟨rfl, hrest⟩ : lead = _ ∧ rest ++ mid = more ++ [39] := by simpa using hbytes
      obtain ⟨own, others, rfl, hown, hlater⟩ := hbreak.whole [] 39 lead rest rfl (by decide)
      have hlength := congrArg List.length hrest
      have hpos := List.length_pos_of_ne_nil hmid
      simp only [List.length_append, List.length_cons, List.length_nil] at hlength hwidth
      obtain rfl : others = [] := List.length_eq_zero_iff.1 (by omega)
      -- the newline that ends the line would be a later byte of the character
      have hmem : newline ∈ 39 :: lead :: (own ++ []) := hbreak.newline_mem (by simp)
      have hquote : newline ≠ 39 := by decide
      have hmem : newline ∈ own := by simpa [hquote, Ne.symm hnewline] using hmem
      exact absurd (hlater newline hmem) (by decide)

theorem Closed.append {bytes after : Bytes} (h : Closed kind bytes after)
    (hbreak : CleanBreak (bytes ++ after)) (later : Bytes) :
    Closed kind bytes (after ++ later) := by
  cases h with
  | @lineComment body after hbody hafter =>
    refine .lineComment hbody ?_
    cases after with
    | nil =>
      have hmem := hbreak.newline_mem (by simp)
      exact absurd (by simpa [newline] using hmem) hbody
    | cons b after => exact hafter
  | blockComment h => exact .blockComment h
  | rawString h => exact .rawString h
  | string h => exact .string h
  | backquoted h => exact .backquoted h
  | escapedChar h hlimit hline => exact .escapedChar h hlimit hline
  | char h => exact .char h

theorem Closed.elsewhere {bytes after : Bytes} (h : Closed kind bytes after)
    (hkind : kind ≠ .lineComment) (after' : Bytes) : Closed kind bytes after' := by
  cases h with
  | lineComment => exact absurd rfl hkind
  | blockComment h => exact .blockComment h
  | rawString h => exact .rawString h
  | string h => exact .string h
  | backquoted h => exact .backquoted h
  | escapedChar h hlimit hline => exact .escapedChar h hlimit hline
  | char h => exact .char h

theorem Reads.append {bytes after : Bytes} (h : Reads before kind bytes after)
    (hbreak : CleanBreak (bytes ++ after)) (later : Bytes) :
    Reads before kind bytes (after ++ later) := by
  cases h with
  | closed hopens hclosed =>
    have hlength := two_le_length_of_closed hclosed
    refine .closed ?_ (hclosed.append hbreak later)
    rw [← List.append_assoc]
    exact hopens.append (by rw [List.length_append]; omega) later
  | lone hopens hnone =>
    -- a literal that closes now had closed before, unless it reaches over the break
    obtain ⟨hkind, b, more, rfl⟩ := exists_of_opens_apostrophe hopens
    refine .lone (hopens.of_pair (more ++ later)) fun bytes' after' heq hclosed => ?_
    rw [← List.cons_append] at heq
    rcases List.append_eq_append_iff.1 heq with ⟨mid, hbytes, rfl⟩ | ⟨mid, rfl, -⟩
    · exact hnone bytes' mid hbytes.symm (hclosed.elsewhere hkind mid)
    · rcases eq_or_ne mid [] with rfl | hmid
      · rw [List.append_nil] at hclosed
        exact hnone _ [] (List.append_nil _) (hclosed.elsewhere hkind [])
      · exact not_closed_across hbreak hmid hopens hclosed
  | @plain b after hnone =>
    refine .plain fun kind hopens => ?_
    cases after with
    | nil =>
      obtain rfl : b = newline := hbreak.ends b rfl
      exact not_opens_newline hopens
    | cons c after => exact hnone kind (hopens.of_pair after)

theorem rawHashes?_below (front before : Bytes) :
    rawHashes? (before ++ newline :: front) = rawHashes? before := by
  fun_induction rawHashes? before with
  | case1 before ih => simp [rawHashes?, ih]
  | case2 => rfl
  | case3 b bs h => simp [rawHashes?, h]
  | case4 b bs h => simp [rawHashes?, h]
  | case5 bs hhash hend hword =>
    cases bs with
    | nil => rfl
    | cons b bs =>
      have hhash : b ≠ 35 := fun h => hhash bs (by rw [h])
      have hr : b ≠ 114 := by
        rintro rfl
        cases bs with
        | nil => exact hend rfl
        | cons c bs => exact hword c bs rfl
      exact rawHashes?_cons_of_ne hhash hr _

theorem start_below (front before rest : Bytes) :
    start (before ++ newline :: front) rest = start before rest := by
  fun_cases start before rest <;> simp_all [start, rawHashes?_below]

end PieceKind

open PieceKind

theorem Tiles.tilesTo {before rest : Bytes} {ps : List Piece} (h : Tiles before ps rest)
    (hbreak : CleanBreak rest) (later : Bytes) : TilesTo before ps rest later := by
  induction h with
  | nil => exact .nil
  | cons hreads _ ih => exact .cons (hreads.append hbreak later) (ih hbreak.of_append)

def ScanError.below (lines : Nat) : ScanError → ScanError
  | .unterminatedComment line => .unterminatedComment (line + lines)
  | .unterminatedString line => .unterminatedString (line + lines)

def Piece.below (bytes : Nat) (p : Piece) : Piece := { p with offset := bytes + p.offset }

def Comment.below (bytes : Nat) (c : Comment) : Comment := { c with offset := bytes + c.offset }

def Scan.below (bytes lines : Nat) (s : Scan) : Scan :=
  ⟨s.pieces.map (Piece.below bytes), s.failure.map (ScanError.below lines)⟩

namespace Scan

theorem after_below (front before : Bytes) (bytes offset skip : Nat) (rest : Bytes)
    (hlines : (before ++ newline :: front).count newline + rest.count newline < lineLimit) :
    after (before ++ newline :: front) (bytes + offset) skip rest =
      (after before offset skip rest).below bytes (front.count newline + 1) := by
  induction rest generalizing before offset skip with
  | nil => cases skip <;> rfl
  | cons b rest ih =>
    have hlines' : (b :: before ++ newline :: front).count newline + rest.count newline <
        lineLimit := by
      simp only [List.count_cons, List.count_append, List.cons_append] at hlines ⊢
      omega
    cases skip with
    | succ skip => exact ih (b :: before) (offset + 1) skip hlines'
    | zero =>
      rw [after, after, start_below]
      cases h : (start before (b :: rest)).tail? (b :: rest) with
      | none =>
        have hline : min ((before ++ newline :: front).count newline + 1) lineLimit =
            min (before.count newline + 1) lineLimit + (front.count newline + 1) := by
          simp only [List.count_append, List.count_cons_self] at hlines ⊢
          omega
        simp only [hline]
        cases start before (b :: rest) <;> rfl
      | some n =>
        have hlater := ih (b :: before) (offset + 1) n hlines'
        rw [List.cons_append, ← Nat.add_assoc] at hlater
        simp only [hlater]
        rfl

theorem ofBytes_below {upper lower : Bytes} (hend : upper.getLast? = some newline)
    (hlines : upper.count newline + lower.count newline + 1 < 2 ^ 32) :
    after upper.reverse upper.length 0 lower =
      (ofBytes lower).below upper.length (upper.count newline) := by
  obtain ⟨front, rfl⟩ := List.getLast?_eq_some_iff.1 hend
  have hbelow : ([] ++ newline :: front.reverse).count newline + lower.count newline <
      lineLimit := by
    rw [List.count_append, List.count_singleton_self] at hlines
    rw [List.nil_append, List.count_cons_self, List.count_reverse, lineLimit]
    omega
  simpa [ofBytes] using after_below front.reverse [] (front ++ [newline]).length 0 0 lower hbelow

theorem comments_append (ps qs : List Piece) (f g : Option ScanError) :
    comments ⟨ps ++ qs, f⟩ = comments ⟨ps, g⟩ ++ comments ⟨qs, f⟩ :=
  List.filterMap_append

theorem comments_below (bytes lines : Nat) (s : Scan) :
    (s.below bytes lines).comments = s.comments.map (Comment.below bytes) := by
  rw [comments, comments, below, List.filterMap_map, List.map_filterMap]
  refine List.filterMap_congr fun p _ => ?_
  rcases p with ⟨_ | _ | _ | _ | _ | _ | _ | _, offset, bytes⟩ <;> rfl

end Scan

theorem cleanBreak_ofString {s : String}
    (hend : (Bytes.ofString s).getLast? = some newline)
    (hescape : ¬ [39, 92, newline] <:+ Bytes.ofString s) : CleanBreak (Bytes.ofString s) where
  ends b hb := by
    rw [hend] at hb
    exact (Option.some.inj hb).symm
  unescaped := hescape
  whole := by
    rw [Bytes.ofString_eq]
    exact Bytes.wholeChars_encode _

theorem Comment.exists_tiles_of_all {source : String} {comments : List Comment}
    (h : Comment.all source = .ok comments) :
    ∃ ps, Tiles [] ps (Bytes.ofString source) ∧ Scan.comments ⟨ps, none⟩ = comments := by
  rcases hscan : Scan.ofBytes (Bytes.ofString source) with ⟨ps, _ | error⟩
  · rw [Comment.all, hscan] at h
    exact ⟨ps, Scan.ofBytes_eq_iff.1 hscan, Except.ok.inj h⟩
  · rw [Comment.all, hscan] at h
    cases h

/-- Behind a line at whose end no literal is open, a source is scanned as if it stood alone: after
the comments before the line come its own, each so many bytes further on, and if it has a comment or
a string that does not end, the scan fails with that, so many lines further down. -/
theorem Comment.scan_append {upper lower : String} {comments : List Comment}
    (hend : (Bytes.ofString upper).getLast? = some newline)
    (hescape : ¬ [39, 92, newline] <:+ Bytes.ofString upper)
    (hupper : Comment.all upper = .ok comments)
    (hlines : (Bytes.ofString (upper ++ lower)).count newline + 1 < 2 ^ 32) :
    let whole := Scan.ofBytes (Bytes.ofString (upper ++ lower))
    let alone := Scan.ofBytes (Bytes.ofString lower)
    whole.comments =
        comments ++ alone.comments.map (Comment.below (Bytes.ofString upper).length) ∧
      whole.failure =
        alone.failure.map (ScanError.below ((Bytes.ofString upper).count newline)) := by
  intro whole alone
  obtain ⟨ps, htiles, rfl⟩ := Comment.exists_tiles_of_all hupper
  have hgoesOn := Scan.after_of_tilesTo
    (htiles.tilesTo (cleanBreak_ofString hend hescape) (Bytes.ofString lower))
  rw [Bytes.ofString_append, List.count_append] at hlines
  have hbelow := Scan.ofBytes_below hend hlines
  rw [List.nil_append, hbelow, List.reverse_nil, List.length_nil] at hgoesOn
  have hwhole : whole = Scan.ofBytes (Bytes.ofString upper ++ Bytes.ofString lower) :=
    congrArg Scan.ofBytes (Bytes.ofString_append upper lower)
  rw [hwhole, Scan.ofBytes, hgoesOn]
  exact ⟨(Scan.comments_append ..).trans (congrArg _ (Scan.comments_below ..)), rfl⟩

theorem Comment.scan_append_open_string :
    let upper := "a := '\\n' // x\n/* y\n*/ r#\"//\"#\n"
    let lower := "// z\n\"é\n"
    let whole := Scan.ofBytes (Bytes.ofString (upper ++ lower))
    whole.comments = [⟨.line, "// x", 10⟩, ⟨.block, "/* y\n*/", 15⟩, ⟨.line, "// z", 31⟩] ∧
      whole.failure = some (.unterminatedString 5) := by
  intro upper lower whole
  have hupper : Comment.all upper =
      .ok [⟨.line, "// x", 10⟩, ⟨.block, "/* y\n*/", 15⟩] := by decide +kernel
  obtain ⟨hcomments, hfailure⟩ : _ ∧ whole.failure = _ := Comment.scan_append
    (by decide +kernel) (by decide +kernel) hupper (by decide +kernel)
  refine ⟨hcomments.trans ?_, hfailure.trans ?_⟩
  · decide +kernel
  · decide +kernel

end InlineAssert
