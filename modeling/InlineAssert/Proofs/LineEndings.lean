import InlineAssert.Proofs.Lines
import InlineAssert.Proofs.Locality
import InlineAssert.Table
import Mathlib.Data.List.Forall2
import Mathlib.Data.Option.Basic

/-! A source says the same whichever way its lines end. With a carriage return before each newline
every piece is as it was, but for the returns inside of it and the one that a line comment takes in
at its end, and every comment stays on its line. -/

namespace InlineAssert

namespace Text

def crlf (cs : List Char) : List Char := cs.flatMap fun c => if c = '\n' then ['\r', '\n'] else [c]

end Text

namespace Bytes

def crlf (bs : Bytes) : Bytes := bs.flatMap fun b => if b = newline then [13, newline] else [b]

@[simp] theorem crlf_nil : crlf [] = [] := rfl

@[simp] theorem crlf_append (u v : Bytes) : crlf (u ++ v) = crlf u ++ crlf v := List.flatMap_append

@[simp] theorem crlf_newline (bs : Bytes) : crlf (newline :: bs) = 13 :: newline :: crlf bs := rfl

theorem crlf_cons {b : UInt8} (hb : b ≠ newline) (bs : Bytes) : crlf (b :: bs) = b :: crlf bs := by
  simp [crlf, hb]

theorem crlf_ne_nil {bs : Bytes} (h : bs ≠ []) : crlf bs ≠ [] := by
  cases bs with
  | nil => exact absurd rfl h
  | cons b bs =>
    by_cases hb : b = newline
    · subst hb
      exact List.cons_ne_nil _ _
    · rw [crlf_cons hb]
      exact List.cons_ne_nil _ _

theorem crlf_eq_self {bs : Bytes} (h : newline ∉ bs) : crlf bs = bs := by
  induction bs with
  | nil => rfl
  | cons b bs ih =>
    obtain ⟨hb, hbs⟩ := List.ne_and_not_mem_of_not_mem_cons h
    rw [crlf_cons hb.symm, ih hbs]

theorem count_newline_crlf (bs : Bytes) : (crlf bs).count newline = bs.count newline := by
  induction bs with
  | nil => rfl
  | cons b bs ih =>
    by_cases hb : b = newline
    · subst hb
      have : (13 : UInt8) ≠ newline := by decide
      simp [this, ih]
    · simp [crlf_cons hb, hb, ih]

theorem crlf_encode (cs : List Char) : encode (Text.crlf cs) = crlf (encode cs) := by
  induction cs with
  | nil => rfl
  | cons c cs ih =>
    have hcons : Text.crlf (c :: cs) = Text.crlf [c] ++ Text.crlf cs := by simp [Text.crlf]
    rw [hcons, encode_append, encode_cons, crlf_append, ih]
    by_cases hc : c = '\n'
    · subst hc
      rfl
    · have hnewline : newline ∉ String.utf8EncodeChar c := fun h =>
        hc (Char.toNat_inj.1 (eq_of_mem_utf8EncodeChar h (by decide)).2)
      rw [crlf_eq_self hnewline]
      simp [Text.crlf, hc]

theorem dropReturn_of_not_mem {bs : Bytes} (h : 13 ∉ bs) : dropReturn bs = bs :=
  if_neg fun hlast => h (List.mem_of_getLast? hlast)

theorem dropReturn_return (bs : Bytes) : dropReturn (bs ++ [13]) = bs := by
  simp [dropReturn]

theorem splitOn_crlf {bs : Bytes} (h : 13 ∉ bs) :
    ((crlf bs).splitOn newline).map dropReturn = (bs.splitOn newline).map dropReturn := by
  by_cases hmem : newline ∈ bs
  · obtain ⟨a, b, rfl, ha⟩ := List.eq_append_cons_of_mem hmem
    have ha' : newline ∉ a ++ [13] := by
      rw [List.mem_append]
      exact not_or.2 ⟨ha, by decide⟩
    have hcrlf : crlf (a ++ newline :: b) = (a ++ [13]) ++ newline :: crlf b := by
      simp [crlf_eq_self ha]
    simp only [List.mem_append, List.mem_cons, not_or] at h
    rw [hcrlf, List.splitOn_append_cons_self_of_not_mem ha',
      List.splitOn_append_cons_self_of_not_mem ha, List.map_cons, List.map_cons, dropReturn_return,
      dropReturn_of_not_mem h.1, splitOn_crlf h.2.2]
  · rw [crlf_eq_self hmem]
termination_by bs.length

/-- Whole characters, none of them a carriage return, with no newline as an escaped character. -/
structure LineFeeds (bs : Bytes) : Prop where
  unreturned : 13 ∉ bs
  unescaped : ¬ [39, 92, newline] <:+: bs
  whole : WholeChars bs

theorem LineFeeds.of_append {u v : Bytes} (h : LineFeeds (u ++ v)) : LineFeeds v where
  unreturned hv := h.unreturned (List.mem_append_right u hv)
  unescaped hv := h.unescaped (hv.trans (List.suffix_append u v).isInfix)
  whole := h.whole.of_append

end Bytes

open Bytes

section Marks

variable {mark : Bytes}

theorem not_prefix_cons (hmark : mark ≠ []) {b : UInt8} (hb : b ∉ mark) (bs : Bytes) :
    ¬ mark <+: b :: bs := by
  cases mark with
  | nil => exact absurd rfl hmark
  | cons m mark =>
    rw [List.cons_prefix_cons]
    exact fun h => hb (h.1 ▸ List.mem_cons_self)

theorem prefix_crlf_iff (hnewline : newline ∉ mark) (hreturn : 13 ∉ mark) (bs : Bytes) :
    mark <+: crlf bs ↔ mark <+: bs := by
  induction mark generalizing bs with
  | nil => simp
  | cons m mark ih =>
    cases bs with
    | nil => simp
    | cons b bs =>
      by_cases hb : b = newline
      · subst hb
        have hmark := List.cons_ne_nil m mark
        exact iff_of_false (not_prefix_cons hmark hreturn _) (not_prefix_cons hmark hnewline _)
      · rw [crlf_cons hb, List.cons_prefix_cons, List.cons_prefix_cons,
          ih (List.not_mem_of_not_mem_cons hnewline) (List.not_mem_of_not_mem_cons hreturn)]

end Marks

theorem through?_crlf (mark : Bytes) (hmark : mark ≠ []) (hnewline : newline ∉ mark)
    (hreturn : 13 ∉ mark) (bs : Bytes) :
    through? mark (crlf bs) = (through? mark bs).map fun n => (crlf (bs.take n)).length := by
  induction bs with
  | nil => rfl
  | cons b bs ih =>
    by_cases hb : b = newline
    · subst hb
      rw [crlf_newline, through?, if_neg (not_prefix_cons hmark hreturn _), through?,
        if_neg (not_prefix_cons hmark hnewline _), through?,
        if_neg (not_prefix_cons hmark hnewline _), ih]
      simp [Function.comp_def]
    · have hstart := prefix_crlf_iff hnewline hreturn (b :: bs)
      rw [crlf_cons hb] at hstart ⊢
      rw [through?, through?]
      by_cases hprefix : mark <+: b :: bs
      · have htake : (b :: bs).take mark.length = mark := (List.prefix_iff_eq_take.1 hprefix).symm
        rw [if_pos (hstart.2 hprefix), if_pos hprefix, Option.map_some, htake,
          crlf_eq_self hnewline]
      · rw [if_neg (fun h => hprefix (hstart.1 h)), if_neg hprefix, ih]
        simp [Function.comp_def, crlf_cons hb]

namespace PieceKind

theorem stringEnd?_crlf (bs : Bytes) :
    stringEnd? (crlf bs) = (stringEnd? bs).map fun n => (crlf (bs.take n)).length := by
  fun_induction stringEnd? bs with
  | case1 => rfl
  | case2 b bs ih =>
    have hslash : (92 : UInt8) ≠ newline := by decide
    by_cases hb : b = newline
    · subst hb
      have hend : stringEnd? (crlf (92 :: newline :: bs)) =
          ((stringEnd? (crlf bs)).map (· + 1)).map (· + 2) := rfl
      rw [hend, ih]
      simp [Function.comp_def, crlf_cons hslash]
    · have hend : stringEnd? (92 :: b :: crlf bs) = (stringEnd? (crlf bs)).map (· + 2) := rfl
      rw [crlf_cons hslash, crlf_cons hb, hend, ih]
      simp [Function.comp_def, crlf_cons hslash, crlf_cons hb]
  | case3 b bs hquote hslash ih =>
    by_cases hb : b = newline
    · subst hb
      have hend : stringEnd? (crlf (newline :: bs)) =
          ((stringEnd? (crlf bs)).map (· + 1)).map (· + 1) := rfl
      rw [hend, ih]
      simp [Function.comp_def]
    · have hend : stringEnd? (b :: crlf bs) = (stringEnd? (crlf bs)).map (· + 1) := by
        rw [stringEnd?]
        · exact hquote
        · intro c tail hb' hcrlf
          cases bs with
          | nil => cases hcrlf
          | cons c' tail' => exact hslash c' tail' hb' rfl
      rw [crlf_cons hb, hend, ih]
      simp [Function.comp_def, crlf_cons hb]
  | case4 => rfl

theorem escape_crlf (bs : Bytes) (limit : Nat) :
    through? [39] (((crlf bs).take limit).takeWhile (· ≠ newline)) =
      through? [39] ((bs.take limit).takeWhile (· ≠ newline)) := by
  induction bs generalizing limit with
  | nil => rfl
  | cons b bs ih =>
    rcases limit with _ | limit
    · rfl
    · by_cases hb : b = newline
      · subst hb
        -- the window ends here, and the return in front of the newline closes nothing
        rcases limit with _ | limit <;> rfl
      · have hcons : ∀ more : Bytes, ((b :: more).take (limit + 1)).takeWhile (· ≠ newline) =
            b :: (more.take limit).takeWhile (· ≠ newline) := by
          simp [hb]
        rw [crlf_cons hb, hcons, hcons]
        simp only [through?, List.cons_prefix_cons, List.nil_prefix, and_true, ih]

theorem start_crlf (before rest : Bytes) :
    start (crlf before).reverse rest = start before.reverse rest := by
  by_cases h : newline ∈ before.reverse
  · obtain ⟨a, b, hab, ha⟩ := List.eq_append_cons_of_mem h
    have hbefore : before = b.reverse ++ newline :: a.reverse := by
      simpa using congrArg List.reverse hab
    have hcrlf : (crlf before).reverse = a ++ newline :: 13 :: (crlf b.reverse).reverse := by
      have ha' : newline ∉ a.reverse := by simpa using ha
      rw [hbefore, crlf_append, crlf_newline, crlf_eq_self ha']
      simp
    rw [hcrlf, hab, start_below, start_below]
  · rw [crlf_eq_self (by simpa using h)]

variable {before rest : Bytes} {kind : PieceKind}

theorem opens_iff_start :
    Opens before kind rest ↔ kind ≠ .plain ∧ start before.reverse rest = kind := by
  constructor
  · intro h
    exact ⟨fun hplain => not_opens_plain (hplain ▸ h), start_eq_of_opens h⟩
  · rintro ⟨hplain, rfl⟩
    exact opens_of_start hplain

theorem not_opens_return : ¬ Opens before kind (13 :: rest) := by
  rw [opens_iff_start]
  rintro ⟨hplain, rfl⟩
  exact hplain rfl

theorem Opens.of_head {b : UInt8} (h : Opens before kind (b :: rest)) (hslash : b ≠ 47)
    (hquote : b ≠ 39) (rest' : Bytes) : Opens before kind (b :: rest') := by
  cases h with
  | lineComment => exact absurd rfl hslash
  | blockComment => exact absurd rfl hslash
  | rawString h => exact .rawString h
  | string h => exact .string h
  | backquoted => exact .backquoted
  | escapedChar => exact absurd rfl hquote
  | char => exact absurd rfl hquote

theorem opens_crlf_iff (hquote : ¬ [39, newline] <+: rest) :
    Opens (crlf before) kind (crlf rest) ↔ Opens before kind rest := by
  have hbefore : Opens (crlf before) kind rest ↔ Opens before kind rest := by
    rw [opens_iff_start, opens_iff_start, start_crlf]
  rw [← hbefore]
  match rest with
  | [] => rfl
  | b :: rest =>
    by_cases hb : b = newline
    · subst hb
      exact iff_of_false not_opens_return not_opens_newline
    · rw [crlf_cons hb]
      match rest with
      | [] => rfl
      | c :: rest =>
        by_cases hc : c = newline
        · subst hc
          have hquote : b ≠ 39 := by
            rintro rfl
            exact hquote (List.prefix_append [39, newline] rest)
          by_cases hslash : b = 47
          · subst hslash
            exact iff_of_false (by rintro ⟨⟩) (by rintro ⟨⟩)
          · exact ⟨fun h => h.of_head hslash hquote _, fun h => h.of_head hslash hquote _⟩
        · rw [crlf_cons hc]
          exact ⟨fun h => h.of_pair rest, fun h => h.of_pair (crlf rest)⟩

theorem Opens.not_prefix (h : Opens before kind rest) : ¬ [39, newline] <+: rest := by
  rintro ⟨more, rfl⟩
  cases h with
  | char _ _ hnewline => exact hnewline rfl

theorem tail?_crlf_escapedChar (hfeeds : LineFeeds (39 :: 92 :: rest)) :
    PieceKind.escapedChar.tail? (crlf (39 :: 92 :: rest)) =
      PieceKind.escapedChar.tail? (39 :: 92 :: rest) := by
  cases rest with
  | nil => rfl
  | cons b rest =>
    have hb : b ≠ newline := by
      rintro rfl
      exact hfeeds.unescaped (List.prefix_append [39, 92, newline] rest).isInfix
    have hcrlf : crlf (39 :: 92 :: b :: rest) = 39 :: 92 :: b :: crlf rest := by
      rw [crlf_cons (by decide), crlf_cons (by decide), crlf_cons hb]
    simp only [hcrlf, tail?, List.drop_succ_cons, List.drop_zero, markEnd?_eq, escape_crlf]

theorem tail?_crlf_char {lead : UInt8} (hlead : lead ≠ newline)
    (hfeeds : LineFeeds (39 :: lead :: rest)) :
    PieceKind.char.tail? (crlf (39 :: lead :: rest)) =
      PieceKind.char.tail? (39 :: lead :: rest) := by
  obtain ⟨more, rest, rfl, hwidth, hmore⟩ := hfeeds.whole [] 39 lead rest rfl (by decide)
  have hnewline : newline ∉ more := fun h => absurd (hmore newline h) (by decide)
  have hcrlf : crlf (39 :: lead :: (more ++ rest)) = 39 :: lead :: (more ++ crlf rest) := by
    rw [crlf_cons (by decide), crlf_cons hlead, crlf_append, crlf_eq_self hnewline]
  have hquote : (crlf rest)[0]? = some 39 ↔ rest[0]? = some 39 := by
    cases rest with
    | nil => rfl
    | cons b rest =>
      by_cases hb : b = newline
      · subst hb
        rw [crlf_newline]
        simp [newline]
      · simp [crlf_cons hb]
  have hplace : ∀ bs : Bytes, (39 :: lead :: (more ++ bs))[more.length + 1 + 1]? = bs[0]? := by
    simp [List.getElem?_append_right]
  rw [hcrlf]
  simp only [tail?, List.tail_cons, List.headD_cons, ← hwidth, hplace, hquote]

theorem Closed.newline_not_mem {bytes after : Bytes} (h : Closed kind (39 :: bytes) after)
    (hopens : Opens before kind (39 :: bytes ++ after))
    (hfeeds : LineFeeds (39 :: bytes ++ after)) :
    newline ∉ 39 :: bytes := by
  rw [h.newline_mem_iff hopens hfeeds.whole rfl]
  rintro ⟨body, -, hbytes⟩
  refine hfeeds.unescaped (List.IsPrefix.isInfix ⟨body ++ after, ?_⟩)
  rw [hbytes]
  rfl

theorem map_tail?_apostrophe (hopens : Opens before kind (39 :: rest))
    (hfeeds : LineFeeds (39 :: rest)) :
    ((kind.tail? (39 :: rest)).map fun n => (crlf ((39 :: rest).take (n + 1))).length - 1) =
      kind.tail? (39 :: rest) := by
  cases htail : kind.tail? (39 :: rest) with
  | none => rfl
  | some n =>
    rcases ends_of_tail? hopens htail with ⟨hlt, hclosed⟩ | ⟨rfl, -⟩
    · rw [List.take_succ_cons] at hclosed
      have hsplit : 39 :: rest.take n ++ (39 :: rest).drop (n + 1) = 39 :: rest := by simp
      rw [← hsplit] at hopens
      have hline := hclosed.newline_not_mem hopens (by rwa [hsplit])
      rw [Option.map_some, List.take_succ_cons, crlf_eq_self hline]
      simp only [List.length_cons, List.length_take] at hlt ⊢
      rw [Nat.min_eq_left (by omega), Nat.add_one_sub_one]
    · rfl

theorem tail?_crlf (hopens : Opens before kind rest) (hkind : kind ≠ .lineComment)
    (hfeeds : LineFeeds rest) :
    kind.tail? (crlf rest) =
      (kind.tail? rest).map fun n => (crlf (rest.take (n + 1))).length - 1 := by
  have hliteral {more : Bytes} (heq : rest = 39 :: more)
      (hsame : kind.tail? (crlf rest) = kind.tail? rest) :
      kind.tail? (crlf rest) =
        (kind.tail? rest).map fun n => (crlf (rest.take (n + 1))).length - 1 := by
    subst heq
    rw [hsame, map_tail?_apostrophe hopens hfeeds]
  cases hopens with
  | lineComment => exact absurd rfl hkind
  | @blockComment rest =>
    have hmark := through?_crlf [42, 47] (by decide) (by decide) (by decide) rest
    simp (disch := decide) only [tail?, crlf_cons, blockEnd?_eq, List.drop_succ_cons,
      List.drop_zero, hmark, Option.map_map, Function.comp_def, List.take_succ_cons,
      List.length_cons, Nat.add_one_sub_one]
  | @rawString hashes rest =>
    have hmark := through?_crlf (34 :: List.replicate hashes 35) (by simp) (by simp [newline])
      (by simp) rest
    simp (disch := decide) only [tail?, crlf_cons, rawEnd?_eq, List.tail_cons, hmark,
      List.take_succ_cons, List.length_cons, Nat.add_one_sub_one]
  | @string rest =>
    simp (disch := decide) only [tail?, crlf_cons, stringEnd?_crlf, List.tail_cons,
      List.take_succ_cons, List.length_cons, Nat.add_one_sub_one]
  | @backquoted rest =>
    have hmark := through?_crlf [96] (by decide) (by decide) (by decide) rest
    simp (disch := decide) only [tail?, crlf_cons, markEnd?_eq, List.tail_cons, hmark,
      List.take_succ_cons, List.length_cons, Nat.add_one_sub_one]
  | escapedChar => exact hliteral rfl (tail?_crlf_escapedChar hfeeds)
  | char _ _ hnewline => exact hliteral rfl (tail?_crlf_char hnewline hfeeds)

def Alike (kind kind' : PieceKind) : Prop := kind' = kind ∨ kind = .plain ∧ kind' = .char

theorem reads_plain {b : UInt8} (hstart : start before.reverse (b :: rest) = .plain) :
    Reads before .plain [b] rest := reads_iff.2 ⟨by simp, hstart, rfl⟩

theorem Reads.crlf {bytes after : Bytes} (h : Reads before kind bytes after)
    (hkind : kind ≠ .lineComment) (hnewline : bytes ≠ [newline])
    (hfeeds : LineFeeds (bytes ++ after)) :
    ∃ kind', Alike kind kind' ∧
      Reads (Bytes.crlf before) kind' (Bytes.crlf bytes) (Bytes.crlf after) := by
  obtain ⟨hne, hstart, htail⟩ := reads_iff.1 h
  obtain ⟨b, bs, rfl⟩ := List.exists_cons_of_ne_nil hne
  by_cases hplain : kind = .plain
  · subst hplain
    obtain rfl : bs = [] := by simpa [tail?] using htail.symm
    have hb : b ≠ newline := fun h => hnewline (h ▸ rfl)
    rw [crlf_cons hb, crlf_nil]
    -- before a return, an apostrophe begins a literal, which does not close
    by_cases hquote : [39, newline] <+: [b] ++ after
    · obtain ⟨more, hmore⟩ := hquote
      obtain ⟨rfl, rfl⟩ := List.cons.inj hmore
      exact ⟨.char, .inr ⟨rfl, rfl⟩, reads_iff.2 ⟨by simp, rfl, rfl⟩⟩
    · refine ⟨.plain, .inl rfl, reads_plain ?_⟩
      by_contra hnot
      have hopens := opens_of_start hnot
      rw [← crlf_cons hb] at hopens
      have hsame := start_eq_of_opens ((opens_crlf_iff hquote).1 hopens)
      rw [crlf_cons hb] at hsame
      exact hnot (hsame.symm.trans hstart)
  · have hopens : Opens before kind (b :: bs ++ after) := opens_iff_start.2 ⟨hplain, hstart⟩
    refine ⟨kind, .inl rfl, reads_iff.2 ⟨crlf_ne_nil hne, ?_, ?_⟩⟩
    · rw [← crlf_append]
      exact start_eq_of_opens ((opens_crlf_iff hopens.not_prefix).2 hopens)
    · rw [← crlf_append, tail?_crlf hopens hkind hfeeds, htail]
      simp

theorem Reads.crlf_lineComment {bytes after : Bytes} (h : Reads before .lineComment bytes after) :
    newline ∉ bytes ∧
      (after = [] ∧ Reads (Bytes.crlf before) .lineComment bytes [] ∨
        ∃ more, after = newline :: more ∧
          Reads (Bytes.crlf before) .lineComment (bytes ++ [13]) (newline :: Bytes.crlf more)) := by
  cases h with
  | closed hopens hclosed =>
    cases hclosed with
    | @lineComment body _ hbody hafter =>
      have hline : newline ∉ 47 :: 47 :: body := by
        simp only [List.mem_cons, not_or]
        exact ⟨by decide, by decide, hbody⟩
      refine ⟨hline, ?_⟩
      cases after with
      | nil => exact .inl ⟨rfl, .closed .lineComment (.lineComment hbody (by simp))⟩
      | cons b more =>
        obtain rfl : b = newline := hafter b rfl
        have hbody' : newline ∉ body ++ [13] := by
          rw [List.mem_append]
          exact not_or.2 ⟨hbody, by decide⟩
        exact .inr ⟨more, rfl, .closed .lineComment (.lineComment hbody' (by simp))⟩
  | lone hopens => cases hopens

end PieceKind

open PieceKind

inductive Comment.Twin (source : Bytes) : Comment → Comment → Prop
  | line : source = u ++ v → Twin source ⟨.line, s, u.length⟩ ⟨.line, s, (crlf u).length⟩
  | block : Twin source ⟨.block, s, m⟩ ⟨.block, s', n⟩

structure Scan.Twin (source : Bytes) (s s' : Scan) : Prop where
  failure : s'.failure = s.failure
  comments : List.Forall₂ (Comment.Twin source) s.comments s'.comments

namespace Scan

def behind (before rest : Bytes) : Scan := after before.reverse before.length 0 rest

def cons (p : Piece) (s : Scan) : Scan := ⟨p :: s.pieces, s.failure⟩

variable {source before rest : Bytes} {s s' : Scan}

theorem behind_of_reads {bytes : Bytes} {kind : PieceKind} (h : Reads before kind bytes rest) :
    behind before (bytes ++ rest) =
      cons ⟨kind, before.length, bytes⟩ (behind (before ++ bytes) rest) :=
  after_of_reads h

theorem comments_cons (p : Piece) (s : Scan) :
    (cons p s).comments = p.comment?.toList ++ s.comments := by
  rw [comments, cons, List.filterMap_cons]
  cases p.comment? <;> rfl

theorem Twin.step {p p' : Piece} (hp : Option.Rel (Comment.Twin source) p.comment? p'.comment?)
    (h : Twin source s s') : Twin source (cons p s) (cons p' s') where
  failure := h.failure
  comments := by
    rw [comments_cons, comments_cons]
    refine List.rel_append ?_ h.comments
    generalize p.comment? = c, p'.comment? = c' at hp
    cases hp with
    | some h => exact .cons h .nil
    | none => exact .nil

theorem Twin.skip {p : Piece} (hp : p.comment? = none) (h : Twin source s s') :
    Twin source s (cons p s') where
  failure := h.failure
  comments := by
    rw [comments_cons, hp]
    exact h.comments

theorem rel_lineComment {bytes bytes' : Bytes} (hsource : source = before ++ rest)
    (h : dropReturn bytes' = dropReturn bytes) :
    Option.Rel (Comment.Twin source) (Piece.comment? ⟨.lineComment, before.length, bytes⟩)
      (Piece.comment? ⟨.lineComment, (crlf before).length, bytes'⟩) := by
  simp only [Piece.comment?, h]
  exact .some (.line hsource)

theorem rel_of_alike {kind kind' : PieceKind} (h : Alike kind kind') (hkind : kind ≠ .lineComment)
    {m n : Nat} {bytes bytes' : Bytes} :
    Option.Rel (Comment.Twin source) (Piece.comment? ⟨kind, m, bytes⟩)
      (Piece.comment? ⟨kind', n, bytes'⟩) := by
  rcases h with rfl | ⟨rfl, rfl⟩
  · cases kind' with
    | lineComment => exact absurd rfl hkind
    | blockComment => exact .some .block
    | string => exact .none
    | rawString => exact .none
    | backquoted => exact .none
    | escapedChar => exact .none
    | char => exact .none
    | plain => exact .none
  · exact .none

theorem behind_newline (before rest : Bytes) :
    behind before (newline :: rest) =
      cons ⟨.plain, before.length, [newline]⟩ (behind (before ++ [newline]) rest) :=
  behind_of_reads (reads_plain rfl)

theorem behind_return (before rest : Bytes) :
    behind before (13 :: rest) =
      cons ⟨.plain, before.length, [13]⟩ (behind (before ++ [13]) rest) :=
  behind_of_reads (reads_plain rfl)

theorem twin_newline (h : Twin source (behind (before ++ [newline]) rest)
    (behind (crlf (before ++ [newline])) (crlf rest))) :
    Twin source (behind before (newline :: rest))
      (behind (crlf before) (crlf (newline :: rest))) := by
  have hcrlf : crlf (before ++ [newline]) = crlf before ++ [13] ++ [newline] := by simp
  rw [behind_newline, crlf_newline, behind_return, behind_newline, ← hcrlf]
  exact .skip rfl (.step .none h)

/-- The return of a line goes to a comment at its end, so the comment and its newline are read in
one step. -/
theorem twin_lineComment {bytes : Bytes} (hsource : source = before ++ (bytes ++ rest))
    (hreads : Reads before .lineComment bytes rest) (hreturn : 13 ∉ bytes)
    (ih : ∀ more, rest = newline :: more →
      Twin source (behind (before ++ (bytes ++ [newline])) more)
        (behind (crlf (before ++ (bytes ++ [newline]))) (crlf more))) :
    Twin source (behind before (bytes ++ rest)) (behind (crlf before) (crlf (bytes ++ rest))) := by
  obtain ⟨hline, ⟨rfl, hreads'⟩ | ⟨more, rfl, hreads'⟩⟩ := hreads.crlf_lineComment
  · have hbehind := behind_of_reads hreads'
    rw [List.append_nil] at hbehind
    rw [behind_of_reads hreads, List.append_nil, crlf_eq_self hline, hbehind]
    exact .step (rel_lineComment hsource rfl) ⟨rfl, .nil⟩
  · have hcrlf : crlf (before ++ (bytes ++ [newline])) =
        crlf before ++ (bytes ++ [13]) ++ [newline] := by
      simp [crlf_eq_self hline]
    have hbytes : crlf (bytes ++ newline :: more) = bytes ++ [13] ++ newline :: crlf more := by
      simp [crlf_eq_self hline]
    rw [behind_of_reads hreads, behind_newline, hbytes, behind_of_reads hreads', behind_newline,
      List.append_assoc before, ← hcrlf]
    refine .step (rel_lineComment hsource ?_) (.step .none (ih more rfl))
    rw [dropReturn_return, dropReturn_of_not_mem hreturn]

theorem twin_stuck (hne : rest ≠ []) (hfeeds : LineFeeds rest)
    (hstuck : (start before.reverse rest).tail? rest = none) :
    Twin source (behind before rest) (behind (crlf before) (crlf rest)) := by
  have hplain : start before.reverse rest ≠ .plain := fun h => by simp [h, tail?] at hstuck
  have hkind : start before.reverse rest ≠ .lineComment := fun h => by simp [h, tail?] at hstuck
  have hopens := opens_of_start hplain
  have hstart := start_eq_of_opens ((opens_crlf_iff hopens.not_prefix).2 hopens)
  have hstuck' := tail?_crlf hopens hkind hfeeds
  rw [hstuck, Option.map_none, ← hstart] at hstuck'
  rw [behind, behind, after_of_tail?_eq_none hne _ hstuck,
    after_of_tail?_eq_none (crlf_ne_nil hne) _ hstuck', hstart, List.count_reverse,
    List.count_reverse, count_newline_crlf]
  exact ⟨rfl, .nil⟩

theorem twin_behind {before rest : Bytes} (hsource : source = before ++ rest)
    (hfeeds : LineFeeds rest) :
    Twin source (behind before rest) (behind (crlf before) (crlf rest)) := by
  rcases eq_or_ne rest [] with rfl | hne
  · exact ⟨rfl, .nil⟩
  · cases htail : (start before.reverse rest).tail? rest with
    | none => exact twin_stuck hne hfeeds htail
    | some n =>
      -- a line comment and a bare newline gain a return, every other piece keeps its place
      obtain ⟨kind, bytes, after, rfl, hbytes, hreads⟩ := exists_reads hne htail
      have hlater : after.length < (bytes ++ after).length := by
        simpa using List.length_pos_of_ne_nil hbytes
      have hafter : LineFeeds after := hfeeds.of_append
      by_cases hkind : kind = .lineComment
      · subst hkind
        refine twin_lineComment hsource hreads ?_ fun more hmore => ?_
        · exact fun h => hfeeds.unreturned (List.mem_append_left after h)
        · subst hmore
          exact twin_behind (by simpa using hsource) (hafter.of_append (u := [newline]))
      · by_cases hnewline : bytes = [newline]
        · subst hnewline
          exact twin_newline (twin_behind (by simpa using hsource) hafter)
        · obtain ⟨kind', halike, hreads'⟩ := hreads.crlf hkind hnewline hfeeds
          rw [behind_of_reads hreads, crlf_append, behind_of_reads hreads', ← crlf_append]
          exact .step (rel_of_alike halike hkind) (twin_behind (by simpa using hsource) hafter)
termination_by rest.length

theorem twin_ofBytes (hfeeds : LineFeeds source) :
    Twin source (ofBytes source) (ofBytes (crlf source)) :=
  twin_behind (List.nil_append source).symm hfeeds

end Scan

namespace LineTable

theorem lineOf_crlf (u v : Bytes) :
    (ofBytes (crlf (u ++ v))).lineOf (crlf u).length = (ofBytes (u ++ v)).lineOf u.length := by
  rw [crlf_append, lineOf_length, lineOf_length, count_newline_crlf]

theorem line?_crlf {source : Bytes} (h : 13 ∉ source) (line : Nat) :
    (ofBytes (crlf source)).line? (crlf source) line = (ofBytes source).line? source line := by
  cases line with
  | zero => rfl
  | succ k =>
    rw [line?_ofBytes, line?_ofBytes, ← List.getElem?_map, ← List.getElem?_map, splitOn_crlf h]

end LineTable

theorem lineFeeds_encode {cs : List Char} (hreturn : '\r' ∉ cs)
    (hescape : ¬ ['\'', '\\', '\n'] <:+: cs) : LineFeeds (encode cs) where
  unreturned h := hreturn ((mem_encode_iff (c := '\r') (by decide)).1 h)
  unescaped := by
    rintro ⟨u, v, h⟩
    have h : encode cs = u ++ 39 :: 92 :: newline :: v := by simpa using h.symm
    obtain ⟨before, quote, after, rfl, hquote, -, hafter⟩ := exists_of_encode_eq h (by decide)
    obtain ⟨slash, after, rfl, hslash, hafter⟩ := exists_of_encode_eq_cons hafter (by decide)
    obtain ⟨feed, after, rfl, hfeed, -⟩ := exists_of_encode_eq_cons hafter (by decide)
    obtain rfl : quote = '\'' := Char.toNat_inj.1 hquote
    obtain rfl : slash = '\\' := Char.toNat_inj.1 hslash
    obtain rfl : feed = '\n' := Char.toNat_inj.1 hfeed
    exact hescape ⟨before, after, by simp⟩
  whole := wholeChars_encode cs

theorem filterMap_eq_of_forall₂ {α β γ : Type} {r : α → β → Prop} {f : α → Option γ}
    {g : β → Option γ} {as : List α} {bs : List β} (h : List.Forall₂ r as bs)
    (hfg : ∀ a b, r a b → f a = g b) : as.filterMap f = bs.filterMap g := by
  induction h with
  | nil => rfl
  | cons hab _ ih => rw [List.filterMap_cons, List.filterMap_cons, hfg _ _ hab, ih]

theorem Site.directives_crlf {cs : List Char} (hfeeds : LineFeeds (encode cs)) (path : String) :
    Site.directives path (String.ofList (Text.crlf cs)) =
      Site.directives path (String.ofList cs) := by
  simp only [Site.directives, ofString_ofList, crlf_encode]
  symm
  refine filterMap_eq_of_forall₂ (Scan.twin_ofBytes hfeeds).comments fun c c' h => ?_
  cases h with
  | line hsource =>
    have hreturn := hfeeds.unreturned
    rw [hsource] at hreturn ⊢
    simp only [LineTable.lineOf_crlf, LineTable.line?_crlf hreturn]
  | block => rfl

/-- A source gives the same table and the same result whichever way its lines end. -/
theorem Table.readSource_crlf (t : Table) (path source : String) (hreturn : '\r' ∉ source.toList)
    (hescape : ¬ ['\'', '\\', '\n'] <:+: source.toList) :
    t.readSource path (String.ofList (Text.crlf source.toList)) = t.readSource path source := by
  have hfeeds := lineFeeds_encode hreturn hescape
  have hdirectives := Site.directives_crlf hfeeds path
  rw [String.ofList_toList] at hdirectives
  simp only [Table.readSource, hdirectives, ofString_ofList, crlf_encode, ofString_eq source,
    (Scan.twin_ofBytes hfeeds).failure]

theorem Table.readSource_crlf_two_directives :
    let source := "x := '\\n' // lem.a.m=s: x\n/* y\n*/ a` // lem.b.name=b\n` // lem.b.bytes=2-3\n'"
    let t : Table := ⟨.empty⟩
    ('\r' ∉ source.toList ∧ ¬ ['\'', '\\', '\n'] <:+: source.toList) ∧
      t.readSource "a.go" (String.ofList (Text.crlf source.toList)) = t.readSource "a.go" source ∧
      (t.readSource "a.go" source).2 = .ok 2 := by
  intro source t
  have hreturn : '\r' ∉ source.toList := by decide +kernel
  have hescape : ¬ ['\'', '\\', '\n'] <:+: source.toList := by decide +kernel
  exact ⟨⟨hreturn, hescape⟩, Table.readSource_crlf t "a.go" source hreturn hescape,
    by decide +kernel⟩

end InlineAssert
