import InlineAssert.Proofs.Unclosed

namespace InlineAssert

namespace PieceKind

variable {before bytes after rest : Bytes} {kind : PieceKind}

theorem exists_reads_of_apostrophe (before rest : Bytes) :
    ∃ kind bytes after, 39 :: rest = bytes ++ after ∧ Reads before kind bytes after := by
  have htail : ∃ n, (start before.reverse (39 :: rest)).tail? (39 :: rest) = some n := by
    by_cases hplain : start before.reverse (39 :: rest) = .plain
    · exact ⟨0, by rw [hplain]; rfl⟩
    · exact exists_tail?_of_apostrophe (opens_of_start hplain)
  obtain ⟨n, hn⟩ := htail
  obtain ⟨kind, bytes, after, heq, -, hreads⟩ := exists_reads (List.cons_ne_nil 39 rest) hn
  exact ⟨kind, bytes, after, heq, hreads⟩

theorem Reads.newline_mem_iff (h : Reads before kind bytes after)
    (hwhole : Bytes.WholeChars (bytes ++ after)) (hquote : bytes.head? = some 39) :
    newline ∈ bytes ↔ ∃ body, newline ∉ body ∧ bytes = 39 :: 92 :: newline :: body := by
  have hnewline : newline ≠ 39 := by decide
  cases h with
  | closed hopens hclosed => exact hclosed.newline_mem_iff hopens hwhole hquote
  | lone => simp [hnewline]
  | plain =>
    obtain rfl := Option.some.inj hquote
    simp [hnewline]

def isWord (b : UInt8) : Bool := isAlnum b || b = 95

def hashes (before : Bytes) : Nat := (before.reverse.takeWhile (· = 35)).length

def wordBack (before : Bytes) : Bytes := (before.reverse.dropWhile (· = 35)).takeWhile isWord

def word (before : Bytes) : Bytes := (wordBack before).reverse

theorem takeWhile_word_r (bs : Bytes) :
    ((114 :: bs).dropWhile (· = 35)).takeWhile isWord = 114 :: bs.takeWhile isWord := by
  rw [List.dropWhile_cons_of_neg (by decide), List.takeWhile_cons_of_pos (by decide)]

theorem rawHashes?_eq (bs : Bytes) :
    rawHashes? bs =
      if (bs.dropWhile (· = 35)).takeWhile isWord = [114] ∨
          [114, 98] <+: (bs.dropWhile (· = 35)).takeWhile isWord then
        some (bs.takeWhile (· = 35)).length
      else none := by
  fun_induction rawHashes? bs with
  | case1 bs ih =>
    simp only [ih, decide_true, List.dropWhile_cons_of_pos, List.takeWhile_cons_of_pos,
      List.length_cons]
    split <;> rfl
  | case2 => decide
  | case3 b bs h =>
    have hb : isWord b ∧ b ≠ 98 := by
      rcases eq_or_ne b 95 with rfl | hne
      · decide
      · simp only [hne, decide_false, Bool.false_or, Bool.and_eq_true, bne_iff_ne] at h
        exact ⟨by simp [isWord, h.1], h.2⟩
    rw [takeWhile_word_r, List.takeWhile_cons_of_pos hb.1, if_neg]
    simp [hb.2.symm]
  | case4 b bs h =>
    have hb : isWord b → b = 98 := by
      simp only [Bool.or_eq_true, decide_eq_true_eq, Bool.and_eq_true, bne_iff_ne, not_or,
        not_and, not_not] at h
      simpa [isWord, h.1] using h.2
    have hlength : ((114 :: b :: bs).takeWhile (· = 35)).length = 0 := rfl
    rw [takeWhile_word_r, hlength, if_pos]
    by_cases hword : isWord b
    · rw [List.takeWhile_cons_of_pos hword, hb hword]
      exact .inr (by simp)
    · rw [List.takeWhile_cons_of_neg hword]
      exact .inl rfl
  | case5 bs hhash hend hr =>
    rw [if_neg]
    cases bs with
    | nil => simp
    | cons b bs =>
      have hb : b ≠ 35 ∧ b ≠ 114 := by
        refine ⟨fun h => hhash bs (by rw [h]), ?_⟩
        rintro rfl
        cases bs with
        | nil => exact hend rfl
        | cons c bs => exact hr c bs rfl
      rw [List.dropWhile_cons_of_neg (by simpa using hb.1), List.takeWhile_cons]
      split <;> simp [hb.2, hb.2.symm]

theorem endsRaw_iff (w : Bytes) :
    (w = [114] ∨ [98, 114] <:+ w ↔ w = [114] ∨ w = [98, 114]) ↔
      ¬ ∃ front, front ≠ [] ∧ w = front ++ [98, 114] := by
  constructor
  · rintro h ⟨front, hne, rfl⟩
    rcases h.1 (.inr (List.suffix_append ..)) with h | h
    · simpa using congrArg List.length h
    · exact hne (by simpa using h)
  · refine fun hnone => or_congr_right ⟨?_, fun h => h ▸ List.suffix_rfl⟩
    rintro ⟨front, rfl⟩
    by_cases hne : front = []
    · simp [hne]
    · exact absurd ⟨front, hne, rfl⟩ hnone

theorem start_quote (before rest : Bytes) :
    start before.reverse (34 :: rest) =
      if word before = [114] ∨ [98, 114] <:+ word before then .rawString (hashes before)
      else .string := by
  have hr : word before = [114] ↔ wordBack before = [114] := by
    rw [word, List.reverse_eq_iff]
    rfl
  have hbr : [98, 114] <:+ word before ↔ [114, 98] <+: wordBack before := by
    rw [word, ← List.reverse_prefix, List.reverse_reverse]
    rfl
  rw [start, rawHashes?_eq, ← wordBack, ← hashes]
  by_cases h : word before = [114] ∨ [98, 114] <:+ word before
  · rw [if_pos h, if_pos (h.imp hr.1 hbr.1)]
  · rw [if_neg h, if_neg (fun h' => h (h'.imp hr.2 hbr.2))]

end PieceKind

namespace LineTable

theorem lineOf_add {u bytes v : Bytes} (h : newline ∉ bytes) {i : Nat} (hi : i < bytes.length) :
    (ofBytes (u ++ (bytes ++ v))).lineOf (u.length + i) =
      (ofBytes (u ++ (bytes ++ v))).lineOf u.length := by
  have hpart := lineOf_length (u ++ bytes.take i) (bytes.drop i ++ v)
  have hi' : min i bytes.length = i := Nat.min_eq_left hi.le
  rw [List.append_assoc, ← List.append_assoc (bytes.take i), List.take_append_drop,
    List.length_append, List.length_take, hi', List.count_append] at hpart
  have hcount : (bytes.take i).count newline = 0 :=
    List.count_eq_zero_of_not_mem fun hmem => h (List.mem_of_mem_take hmem)
  rw [hpart, hcount, lineOf_length, Nat.add_zero]

end LineTable

open PieceKind

namespace Scan

/-- At an apostrophe the scan takes a piece. It has a newline exactly if it is a character literal
in which the newline is escaped, and then it has no other; else all of it is on one line. -/
theorem newline_mem_apostrophe_iff {source : String} {ps : List Piece} {head rest : Bytes}
    (h : Reaches source ps head (39 :: rest)) :
    ∃ p later, (ofBytes (Bytes.ofString source)).pieces = ps ++ p :: later ∧
      p.offset = head.length ∧ p.bytes <+: 39 :: rest ∧
      (newline ∈ p.bytes ↔ ∃ body, newline ∉ body ∧ p.bytes = 39 :: 92 :: newline :: body) ∧
      let table := LineTable.ofBytes (Bytes.ofString source)
      (newline ∉ p.bytes → ∀ i < p.bytes.length,
        table.lineOf (p.offset + i) = table.lineOf p.offset) := by
  obtain ⟨kind, bytes, after, hrest, hreads⟩ := exists_reads_of_apostrophe head rest
  have hquote : bytes.head? = some 39 := by
    obtain ⟨hne, -⟩ := reads_iff.1 hreads
    obtain ⟨b, bs, rfl⟩ := List.exists_cons_of_ne_nil hne
    rw [(List.cons.inj hrest).1]
    rfl
  have hwhole : Bytes.WholeChars (bytes ++ after) := by
    have hsource := Bytes.wholeChars_encode source.toList
    rw [← Bytes.ofString_eq, h.bytes, hrest] at hsource
    exact hsource.of_append
  have hscan := h.ofBytes_eq
  rw [hrest, after_of_reads hreads] at hscan
  refine ⟨⟨kind, head.length, bytes⟩, _, congrArg Scan.pieces hscan, rfl, ⟨after, hrest.symm⟩,
    hreads.newline_mem_iff hwhole hquote, fun hline i hi => ?_⟩
  rw [h.bytes, hrest]
  exact LineTable.lineOf_add hline hi

theorem newline_mem_apostrophe_two_bytes :
    let source := "f('é', \"//\")"
    let rest := Bytes.ofString "é', \"//\")"
    ∃ ps, Reaches source ps (Bytes.ofString "f(") (39 :: rest) ∧
      ∃ p ∈ (ofBytes (Bytes.ofString source)).pieces, p.offset = 2 ∧ newline ∉ p.bytes := by
  intro source rest
  have hreaches : Reaches source [⟨.plain, 0, [102]⟩, ⟨.plain, 1, [40]⟩] (Bytes.ofString "f(")
      (39 :: rest) :=
    .of_pieces (by decide +kernel) (by decide +kernel)
  obtain ⟨p, later, hpieces, hoffset, ⟨after, hafter⟩, hnewline, -⟩ :=
    newline_mem_apostrophe_iff hreaches
  refine ⟨_, hreaches, p, by simp [hpieces], hoffset, ?_⟩
  rw [hnewline]
  rintro ⟨body, -, hbytes⟩
  rw [hbytes] at hafter
  have hsecond : some 92 = rest.head? := congrArg List.head? (List.cons.inj hafter).2
  exact absurd hsecond (by decide +kernel)

theorem newline_mem_apostrophe_hides_comment :
    let scan := ofBytes (Bytes.ofString "'\\\n// a'\n")
    (∃ p ∈ scan.pieces, p.bytes.head? = some 39 ∧ newline ∈ p.bytes) ∧ scan.comments = [] := by
  decide +kernel

/-- A double quote opens a raw string exactly after the words `r` and `br` and after a longer word
that ends in `br`. Any other opens a string that backslashes escape in. -/
theorem quote_isRaw_iff {source : String} {ps : List Piece} {head rest : Bytes}
    (h : Reaches source ps head (34 :: rest)) :
    let scan := ofBytes (Bytes.ofString source)
    let kind := start head.reverse (34 :: rest)
    (kind = .string ∨ kind = .rawString (hashes head)) ∧
      ((∃ bytes after later, 34 :: rest = bytes ++ after ∧ Closed kind bytes after ∧
          scan.pieces = ps ++ ⟨kind, head.length, bytes⟩ :: later) ∨
        (∀ bytes after, 34 :: rest = bytes ++ after → ¬ Closed kind bytes after) ∧
          ∃ line, scan = ⟨ps, some (.unterminatedString line)⟩) ∧
      ((kind = .rawString (hashes head) ↔ word head = [114] ∨ word head = [98, 114]) ↔
        ¬ ∃ front, front ≠ [] ∧ word head = front ++ [98, 114]) := by
  intro scan kind
  have hkind : kind = .string ∨ kind = .rawString (hashes head) := by
    simp only [kind, start_quote]
    split <;> simp
  refine ⟨hkind, ?_, ?_⟩
  · have hopens : Opens head kind (34 :: rest) :=
      opens_of_start fun hplain => by rcases hkind with h | h <;> cases h.symm.trans hplain
    cases htail : kind.tail? (34 :: rest) with
    | none =>
      refine .inr ⟨fun bytes after heq hclosed => ?_, ?_⟩
      · cases (heq ▸ htail).symm.trans (tail?_of_closed hclosed)
      · have hfails := h.fails (hopens.unclosed htail)
        rcases hkind with hk | hk
        all_goals
          rw [hk] at hfails
          exact ⟨_, hfails⟩
    | some n =>
      rcases ends_of_tail? hopens htail with ⟨-, hclosed⟩ | ⟨-, hquote⟩
      · have hcut := (List.take_append_drop (n + 1) (34 :: rest)).symm
        have hreads : Reads head kind _ _ := .closed (hcut ▸ hopens) hclosed
        have hscan := h.ofBytes_eq
        rw [hcut, after_of_reads hreads] at hscan
        exact .inl ⟨_, _, _, hcut, hclosed, congrArg Scan.pieces hscan⟩
      · cases hquote
  · have hraw : kind = .rawString (hashes head) ↔
        word head = [114] ∨ [98, 114] <:+ word head := by
      simp only [kind, start_quote]
      split <;> simp_all
    rw [hraw]
    exact endsRaw_iff (word head)

theorem quote_isRaw_two_hashes :
    let source := "br##\"x\"# // not\"## // real"
    let rest := Bytes.ofString "x\"# // not\"## // real"
    ∃ ps, Reaches source ps (Bytes.ofString "br##") (34 :: rest) ∧
      start (Bytes.ofString "br##").reverse (34 :: rest) = .rawString 2 := by
  intro source rest
  have hreaches : Reaches source
      [⟨.plain, 0, [98]⟩, ⟨.plain, 1, [114]⟩, ⟨.plain, 2, [35]⟩, ⟨.plain, 3, [35]⟩]
      (Bytes.ofString "br##") (34 :: rest) :=
    .of_pieces (by decide +kernel) (by decide +kernel)
  obtain ⟨-, -, hexact⟩ := quote_isRaw_iff hreaches
  have hword : word (Bytes.ofString "br##") = [98, 114] := by decide +kernel
  rw [hword] at hexact
  have hraw := (hexact.2 fun ⟨front, hne, h⟩ => hne (by simpa using h)).2 (.inr rfl)
  have hhashes : hashes (Bytes.ofString "br##") = 2 := by decide +kernel
  exact ⟨_, hreaches, hhashes ▸ hraw⟩

theorem quote_isRaw_longer_word :
    let scan := ofBytes (Bytes.ofString "abbr\"x\\\" // not\" // real")
    word (Bytes.ofString "abbr") = Bytes.ofString "abbr" ∧
      (∃ p ∈ scan.pieces, p.offset = 4 ∧ p.kind = .rawString 0) ∧
      scan.comments = [⟨.line, "// not\" // real", 9⟩] := by
  decide +kernel

end Scan

end InlineAssert
