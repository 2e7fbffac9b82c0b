import InlineAssert.Proofs.Conservation
import InlineAssert.Proofs.Numbering
import InlineAssert.Proofs.Precedence

namespace InlineAssert

namespace Bytes

theorem exists_lastLine (bs : Bytes) : ∃ upper front, bs = upper ++ front ∧ newline ∉ front ∧
    ∀ b ∈ upper.getLast?, b = newline := by
  obtain ⟨front, upper, hbs, hfront, hupper⟩ := PieceKind.exists_line bs.reverse
  refine ⟨upper.reverse, front.reverse, ?_, by simpa using hfront, by simpa using hupper⟩
  rw [← List.reverse_append, ← hbs, List.reverse_reverse]

theorem dropReturn_append {bs : Bytes} (h : bs ≠ []) (front : Bytes) :
    dropReturn (front ++ bs) = front ++ dropReturn bs := by
  rw [dropReturn, dropReturn, List.getLast?_append_of_ne_nil _ h, List.dropLast_append_of_ne_nil h]
  split <;> rfl

end Bytes

namespace LineTable

variable {upper line below : Bytes}

theorem exists_starts_eq (hupper : ∀ b ∈ upper.getLast?, b = newline) (rest : Bytes) :
    ∃ earlier, earlier.length = upper.count newline ∧
      (ofBytes (upper ++ rest)).starts =
        earlier ++ upper.length :: startsFrom upper.length rest := by
  rcases List.eq_nil_or_concat' upper with rfl | ⟨front, b, rfl⟩
  · exact ⟨[], rfl, rfl⟩
  · obtain rfl : b = newline := hupper b (by simp)
    refine ⟨0 :: startsFrom 0 front, ?_, ?_⟩
    · rw [List.length_cons, length_startsFrom, List.count_append, List.count_singleton_self]
    · rw [ofBytes, List.append_assoc, startsFrom_append]
      simp [startsFrom]

theorem startsFrom_line_head? (hline : newline ∉ line) (hbelow : ∀ b ∈ below.head?, b = newline)
    (pos : Nat) : (startsFrom pos (line ++ below)).head? =
      below.head?.map fun _ => pos + line.length + 1 := by
  cases below with
  | nil => rw [List.append_nil, startsFrom_eq_nil hline]; rfl
  | cons b below =>
    obtain rfl := hbelow b rfl
    rw [startsFrom_line hline]
    rfl

theorem line?_between (hupper : ∀ b ∈ upper.getLast?, b = newline) (hline : newline ∉ line)
    (hbelow : ∀ b ∈ below.head?, b = newline) :
    (ofBytes (upper ++ (line ++ below))).starts[upper.count newline]? = some upper.length ∧
      (ofBytes (upper ++ (line ++ below))).line? (upper ++ (line ++ below))
        (upper.count newline + 1) = some (Bytes.dropReturn line) := by
  obtain ⟨earlier, hlength, hstarts⟩ := exists_starts_eq hupper (line ++ below)
  have hstart : (ofBytes (upper ++ (line ++ below))).starts[upper.count newline]? =
      some upper.length := by
    rw [hstarts, ← hlength]
    simp
  have hnext : (ofBytes (upper ++ (line ++ below))).starts[upper.count newline + 1]? =
      below.head?.map fun _ => upper.length + line.length + 1 := by
    rw [← startsFrom_line_head? hline hbelow, hstarts, ← hlength, List.head?_eq_getElem?,
      List.getElem?_append_right (Nat.le_add_right ..), Nat.add_sub_cancel_left,
      List.getElem?_cons_succ]
  refine ⟨hstart, ?_⟩
  rw [line?, hstart, Option.bind_eq_bind, Option.bind_some, List.drop_left, hnext]
  cases below with
  | nil => rw [List.append_nil]; rfl
  | cons b below =>
    simp

end LineTable

namespace TilesTo

theorem exists_of_mem {before bytes after : Bytes} {ps : List Piece} {p : Piece}
    (h : TilesTo before ps bytes after) (hp : p ∈ ps) :
    ∃ u v, bytes = u ++ (p.bytes ++ v) ∧ p.offset = (before ++ u).length ∧
      PieceKind.Reads (before ++ u) p.kind p.bytes (v ++ after) := by
  induction h with
  | nil => cases hp
  | @cons before kind bytes more after ps hreads _ ih =>
    rcases List.mem_cons.1 hp with rfl | hp
    · exact ⟨[], more, rfl, by simp, by simpa using hreads⟩
    · obtain ⟨u, v, rfl, hoffset, hlater⟩ := ih hp
      rw [List.append_assoc] at hoffset hlater
      exact ⟨bytes ++ u, v, by simp, hoffset, hlater⟩

end TilesTo

/-- The line comment ends line number `line` of the source: its place in the source is behind
`front`, which begins the line, and the text told of the line is `front` and then the comment. -/
structure Comment.Ends (source : String) (line : Nat) (front : String) (c : Comment) : Prop where
  kind : c.kind = .line
  line_eq : (LineTable.ofBytes (Bytes.ofString source)).findLine c.offset = line
  start : ∃ start, (LineTable.ofBytes (Bytes.ofString source)).starts[line - 1]? = some start ∧
    start + (Bytes.ofString front).length = c.offset ∧
    Bytes.ofString front <+: (Bytes.ofString source).drop start
  text : (LineTable.ofBytes (Bytes.ofString source)).line? (Bytes.ofString source) line =
    some (Bytes.ofString (front ++ c.text))

theorem PieceKind.Reads.exists_body {before bytes after : Bytes}
    (h : Reads before .lineComment bytes after) :
    ∃ body, bytes = 47 :: 47 :: body ∧ newline ∉ body ∧ ∀ b ∈ after.head?, b = newline := by
  cases h with
  | closed _ hclosed =>
    cases hclosed with
    | lineComment hbody hafter => exact ⟨_, rfl, hbody, hafter⟩
  | lone hopens => cases hopens

namespace Scan

theorem exists_of_mem_comments {source : String} {c : Comment}
    (hc : c ∈ (ofBytes (Bytes.ofString source)).comments) (hkind : c.kind = .line) :
    ∃ head body below, Bytes.ofString source = head ++ (47 :: 47 :: body ++ below) ∧
      newline ∉ body ∧ (∀ b ∈ below.head?, b = newline) ∧
      c = ⟨.line, Bytes.text (Bytes.dropReturn (47 :: 47 :: body)), head.length⟩ := by
  obtain ⟨bytes, later, hsource, htiles, -⟩ := exists_tilesTo [] (Bytes.ofString source)
  obtain ⟨⟨kind, offset, own⟩, hp, hcomment⟩ := List.mem_filterMap.1 hc
  obtain ⟨head, v, rfl, hoffset, hreads⟩ := htiles.exists_of_mem hp
  cases kind with
  | lineComment =>
    obtain ⟨body, rfl, hbody, hbelow⟩ := hreads.exists_body
    obtain rfl : offset = head.length := hoffset
    refine ⟨head, body, v ++ later, ?_, hbody, hbelow, (Option.some.inj hcomment).symm⟩
    rw [hsource, List.append_assoc, List.append_assoc]
  | blockComment =>
    cases hcomment
    cases hkind
  | _ => cases hcomment

theorem exists_text_of_mem_comments {source : String} {c : Comment}
    (hc : c ∈ (ofBytes (Bytes.ofString source)).comments) (hkind : c.kind = .line) :
    ∃ head own below, Bytes.ofString source = head ++ (own ++ below) ∧ own ≠ [] ∧
      newline ∉ own ∧ (∀ b ∈ own.head?, b < 128) ∧ (∀ b ∈ below.head?, b = newline) ∧
      c.offset = head.length ∧ Bytes.dropReturn own = Bytes.ofString c.text := by
  obtain ⟨head, body, below, hsource, hbody, hbelow, rfl⟩ := exists_of_mem_comments hc hkind
  have hmarks : newline ∉ (47 :: 47 :: body : Bytes) := by
    simpa [show newline ≠ 47 by decide] using hbody
  refine ⟨head, 47 :: 47 :: body, below, hsource, List.cons_ne_nil _ _, hmarks, by simp, hbelow,
    rfl, ?_⟩
  -- the comment begins with a slash, and the line ends at a newline or with the source
  obtain ⟨-, back, -, -, hback⟩ := Bytes.exists_append_of_ofString hsource (by decide)
  have hends : ∀ b ∈ below.head?, b < 128 := fun b hb => hbelow b hb ▸ by decide
  obtain ⟨own, -, -, hown, -⟩ := Bytes.exists_append_of_seam (u := 47 :: 47 :: body) hback (.inr hends)
  rw [← hown, Bytes.ofString_eq, Bytes.dropReturn_encode, ← Bytes.ofString_ofList,
    Bytes.text_ofString]

end Scan

theorem Comment.exists_ends {source : String} {c : Comment}
    (hc : c ∈ (Scan.ofBytes (Bytes.ofString source)).comments) (hkind : c.kind = .line)
    (hlines : (Bytes.ofString source).count newline + 1 < 2 ^ 32 - 1) :
    ∃ line front, c.Ends source line front := by
  obtain ⟨head, own, below, hsource, hne, hown, hslash, hbelow, hoffset, htext⟩ :=
    Scan.exists_text_of_mem_comments hc hkind
  obtain ⟨upper, front, rfl, hfront, hupper⟩ := Bytes.exists_lastLine head
  rw [List.append_assoc] at hsource
  have hends : ∀ b ∈ upper.getLast?, b < 128 := fun b hb => hupper b hb ▸ by decide
  obtain ⟨-, back, -, -, hback⟩ := Bytes.exists_append_of_seam hsource (.inl hends)
  have hstarts : ∀ b ∈ (own ++ below).head?, b < 128 := by
    rwa [List.head?_append_of_ne_nil _ hne]
  obtain ⟨front, -, -, rfl, -⟩ := Bytes.exists_append_of_seam hback (.inr hstarts)
  have hline : newline ∉ Bytes.ofString front ++ own := List.not_mem_append hfront hown
  have hbetween := LineTable.line?_between hupper hline hbelow
  rw [List.append_assoc, ← hsource] at hbetween
  have hcount : upper.count newline ≤ (Bytes.ofString source).count newline := by
    rw [hsource, List.count_append]
    omega
  have hlineOf : (LineTable.ofBytes (Bytes.ofString source)).findLine c.offset =
      upper.count newline + 1 := by
    have hlength := LineTable.lineOf_length (upper ++ Bytes.ofString front) (own ++ below)
    rw [List.append_assoc, ← hsource, ← hoffset, List.count_append,
      List.count_eq_zero_of_not_mem hfront] at hlength
    rw [LineTable.findLine_eq, hlength, lineLimit]
    omega
  refine ⟨upper.count newline + 1, front, hkind, hlineOf, ⟨upper.length, hbetween.1, ?_, ?_⟩, ?_⟩
  · rw [hoffset, List.length_append]
  · rw [hsource, List.drop_left]
    exact List.prefix_append ..
  · rw [hbetween.2, Bytes.dropReturn_append hne, htext, Bytes.ofString_append]

namespace Table

def matchers (t : Table) (id : String) (polarity : Polarity) : List Matcher :=
  ((t.get? id).getD { id }).matchers polarity

variable {id : String} {polarity : Polarity} {m : Matcher}

theorem mem_matchers_of_extend {c c' : TestCase} {a : Mention} (h : c.extend a.1 a.2 = .ok c')
    (hm : m ∈ c'.matchers polarity) :
    m ∈ c.matchers polarity ∨ a.1.key = .diagnostic polarity ∧ a.matcher? polarity = some m := by
  obtain ⟨⟨id, key, value⟩, site⟩ := a
  cases key with
  | name =>
    left
    simp only [TestCase.extend] at h
    split at h
    · cases h
      cases polarity <;> exact hm
    · cases h
  | alloc =>
    left
    obtain ⟨r, -, rfl⟩ : ∃ r, Range.read value = .ok r ∧ _ = c' := by
      simpa [TestCase.extend] using h
    cases polarity <;> exact hm
  | bytes =>
    left
    obtain ⟨r, -, rfl⟩ : ∃ r, Range.read value = .ok r ∧ _ = c' := by
      simpa [TestCase.extend] using h
    cases polarity <;> exact hm
  | diagnostic given =>
    obtain ⟨made, hmade, h⟩ : ∃ made,
        Matcher.forPlace given site.fileName site.line value site.text = .ok made ∧
          _ = Except.ok c' := by
      simpa [TestCase.extend] using h
    have hmatcher : Mention.matcher? given (⟨id, .diagnostic given, value⟩, site) = some made := by
      simp [Mention.matcher?, hmade]
    rcases eq_or_ne given polarity with rfl | hother
    · have hlast : m ∈ c.matchers given ++ [made] := by
        cases given <;> cases h <;> exact hm
      rcases List.mem_append.1 hlast with hold | hnew
      · exact .inl hold
      · exact .inr ⟨rfl, List.mem_singleton.1 hnew ▸ hmatcher⟩
    · left
      cases given <;> cases polarity <;> cases h <;> first | exact hm | exact absurd rfl hother

theorem mem_matchers_of_apply {t t' : Table} {a : Mention} {i : Nat}
    (h : t.apply a.1 a.2 = .ok (t', i)) (hm : m ∈ t'.matchers id polarity) :
    m ∈ t.matchers id polarity ∨
      a.1.id = id ∧ a.1.key = .diagnostic polarity ∧ a.matcher? polarity = some m := by
  simp only [apply, Except.bind_eq_ok_iff, Except.pure_eq_ok_iff, Prod.mk.injEq] at h
  obtain ⟨c, hc, rfl, -⟩ := h
  rw [matchers, get?, OrderedMap.get?_insert] at hm
  split at hm
  · next hid =>
    subst hid
    exact (mem_matchers_of_extend hc hm).imp_right fun hnew => ⟨rfl, hnew⟩
  · exact .inl hm

theorem mem_matchers_of_applyAll {t : Table} {as : List Mention}
    (hm : m ∈ (t.applyAll as).1.matchers id polarity) :
    m ∈ t.matchers id polarity ∨ ∃ a ∈ as,
      a.1.id = id ∧ a.1.key = .diagnostic polarity ∧ a.matcher? polarity = some m := by
  induction as generalizing t with
  | nil => exact .inl hm
  | cons a as ih =>
    cases happly : t.apply a.1 a.2 with
    | error e =>
      simp only [applyAll, happly] at hm
      exact .inl hm
    | ok r =>
      simp only [applyAll, happly] at hm
      rcases ih hm with hold | ⟨b, hb, hmade⟩
      · exact (mem_matchers_of_apply happly hold).imp_right fun hmade =>
          ⟨a, List.mem_cons_self, hmade⟩
      · exact .inr ⟨b, List.mem_cons_of_mem _ hb, hmade⟩

end Table

namespace Mention

variable {path : String}

theorem Recognized.exists_of_mem {source : Bytes} {cs : List Comment} {as : List Mention}
    {a : Mention} (h : Recognized path source cs as) (ha : a ∈ as) :
    ∃ c ∈ cs, c.kind = .line ∧ Directive.read? c.text = some a.1 ∧ ∃ text,
      (LineTable.ofBytes source).line? source ((LineTable.ofBytes source).lineOf c.offset) =
        some (Bytes.ofString text) ∧
      a.2 = ⟨path, baseName path, (LineTable.ofBytes source).lineOf c.offset, text⟩ := by
  induction h with
  | nil => cases ha
  | block _ _ ih =>
    obtain ⟨c, hc, hrest⟩ := ih ha
    exact ⟨c, List.mem_cons_of_mem _ hc, hrest⟩
  | other _ _ _ ih =>
    obtain ⟨c, hc, hrest⟩ := ih ha
    exact ⟨c, List.mem_cons_of_mem _ hc, hrest⟩
  | @directive d line text cs as c hkind hread hline htext _ ih =>
    subst hline
    rcases List.mem_cons.1 ha with rfl | ha
    · exact ⟨c, List.mem_cons_self, hkind, hread, text, htext, rfl⟩
    · obtain ⟨c, hc, hrest⟩ := ih ha
      exact ⟨c, List.mem_cons_of_mem _ hc, hrest⟩

theorem exists_ends {source : String} {a : Mention} (ha : a ∈ Site.directives path source)
    (hlines : (Bytes.ofString source).count newline + 1 < 2 ^ 32 - 1) :
    ∃ c ∈ (Scan.ofBytes (Bytes.ofString source)).comments, ∃ line front, c.Ends source line front ∧
      Directive.read? c.text = some a.1 ∧ a.2 = ⟨path, baseName path, line, front ++ c.text⟩ := by
  have hrecognized := recognized_iff.2 (Eq.refl (Site.directives path source))
  obtain ⟨c, hc, hkind, hread, text, htext, hsite⟩ := hrecognized.exists_of_mem ha
  obtain ⟨line, front, hends⟩ := Comment.exists_ends hc hkind hlines
  refine ⟨c, hc, line, front, hends, hread, ?_⟩
  rw [← LineTable.findLine_eq, hends.line_eq] at htext hsite
  have hsame : text = front ++ c.text := by
    have hbytes := Option.some.inj (htext.symm.trans hends.text)
    simpa using congrArg Bytes.text hbytes
  rw [hsite, hsame]

end Mention

theorem Scanner.exists_call_iff {source : Bytes} {c : Comment} :
    (∃ k, (Scanner.ofBytes source).call k = some (.ok c)) ↔ c ∈ (Scan.ofBytes source).comments := by
  have hitems : (Scanner.ofBytes source).items = (Scan.ofBytes source).items := rfl
  simp only [call_eq, ← List.mem_iff_getElem?, hitems, Scan.items, List.mem_append, List.mem_map,
    Except.ok.injEq, exists_eq_right, reduceCtorEq, and_false, exists_false, or_false]

/-- Every line comment that is given out of a source ends the line that its offset is on, behind
what stands there before it. That line and its text are the site of a directive in the comment, and
every matcher that the source adds to a table has them. -/
theorem Table.readSource_attributes (source : String)
    (hlines : (Bytes.ofString source).count newline + 1 < 2 ^ 32 - 1) :
    let given := (Scanner.ofBytes (Bytes.ofString source)).call
    (∀ k c, given k = some (.ok c) → c.kind = .line → ∃ line front, c.Ends source line front) ∧
      (∀ path, ∀ a ∈ Site.directives path source, ∃ k c line front,
        given k = some (.ok c) ∧ c.Ends source line front ∧ Directive.read? c.text = some a.1 ∧
          a.2 = ⟨path, baseName path, line, front ++ c.text⟩) ∧
      ∀ t path id polarity, ∀ m ∈ (Table.readSource t path source).1.matchers id polarity,
        m ∈ t.matchers id polarity ∨ ∃ k c line front value,
          given k = some (.ok c) ∧ c.Ends source line front ∧
            Directive.read? c.text = some ⟨id, .diagnostic polarity, value⟩ ∧
            m.source = front ++ c.text ∧
            Matcher.forPlace polarity (baseName path) line value m.source = .ok m := by
  intro given
  have hdirectives (path : String) : ∀ a ∈ Site.directives path source, ∃ k c line front,
      given k = some (.ok c) ∧ c.Ends source line front ∧ Directive.read? c.text = some a.1 ∧
        a.2 = ⟨path, baseName path, line, front ++ c.text⟩ := by
    intro a ha
    obtain ⟨c, hc, line, front, hends⟩ := Mention.exists_ends ha hlines
    obtain ⟨k, hk⟩ := Scanner.exists_call_iff.2 hc
    exact ⟨k, c, line, front, hk, hends⟩
  refine ⟨fun k c hk hkind => ?_, hdirectives, fun t path id polarity m hm => ?_⟩
  · exact Comment.exists_ends (Scanner.exists_call_iff.1 ⟨k, hk⟩) hkind hlines
  · refine (mem_matchers_of_applyAll hm).imp_right ?_
    rintro ⟨⟨⟨_, _, value⟩, site⟩, ha, rfl, rfl, hmade⟩
    obtain ⟨k, c, line, front, hk, hends, hread, rfl⟩ := hdirectives path _ ha
    have hplace : Matcher.forPlace polarity (baseName path) line value (front ++ c.text) = .ok m :=
      Except.toOption_eq_some_iff.1 hmade
    have hsource : m.source = front ++ c.text := by
      obtain ⟨pattern, -, hmatcher⟩ := Except.bind_eq_ok_iff.1 hplace
      exact Except.pure_eq_ok_iff.1 hmatcher ▸ rfl
    exact ⟨k, c, line, front, value, hk, hends, hread, hsource, hsource ▸ hplace⟩

theorem Table.readSource_attributes_behind_literals :
    let source := "s := `é\n` /* x\n*/ f() // lem.a.m=ok\r\n"
    let c : Comment := ⟨.line, "// lem.a.m=ok", 23⟩
    (Bytes.ofString source).count newline + 1 < 2 ^ 32 - 1 ∧
      (Scanner.ofBytes (Bytes.ofString source)).call 1 = some (.ok c) ∧
      (∃ front, c.Ends source 3 front) ∧
      ((readSource {} "d/a.go" source).1.matchers "a" .present).map (·.source) =
        ["*/ f() // lem.a.m=ok"] := by
  intro source c
  have hlines : (Bytes.ofString source).count newline + 1 < 2 ^ 32 - 1 := by decide +kernel
  have hcall : (Scanner.ofBytes (Bytes.ofString source)).call 1 = some (.ok c) := by
    decide +kernel
  obtain ⟨hends, -⟩ := readSource_attributes source hlines
  obtain ⟨line, front, hc⟩ := hends 1 c hcall rfl
  have hline : line = 3 := by
    rw [← hc.line_eq, LineTable.findLine_eq]
    decide +kernel
  exact ⟨hlines, hcall, ⟨front, hline ▸ hc⟩, by decide +kernel⟩

end InlineAssert
