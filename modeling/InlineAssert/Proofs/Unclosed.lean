import InlineAssert.Proofs.Lines
import InlineAssert.Proofs.Places
import InlineAssert.Scanner

namespace InlineAssert

namespace PieceKind

inductive Unclosed (before : Bytes) : (rest : Bytes) → (failure : Nat → ScanError) → Prop
  | blockComment : ¬ [42, 47] <:+: rest →
      Unclosed before (47 :: 42 :: rest) .unterminatedComment
  | rawString : OpensRaw before hashes → ¬ 34 :: List.replicate hashes 35 <:+: rest →
      Unclosed before (34 :: rest) .unterminatedString
  | string : (∀ hashes, ¬ OpensRaw before hashes) → (∀ body, StringBody body → ¬ body <+: rest) →
      Unclosed before (34 :: rest) .unterminatedString
  | backquoted : 96 ∉ rest → Unclosed before (96 :: rest) .unterminatedString

variable {before rest : Bytes} {kind : PieceKind} {failure : Nat → ScanError}

theorem Unclosed.exists_kind (h : Unclosed before rest failure) :
    ∃ kind, Opens before kind rest ∧ kind.tail? rest = none ∧
      ∀ line, kind.failure line = failure line := by
  cases h with
  | blockComment h =>
    refine ⟨_, .blockComment, ?_, fun _ => rfl⟩
    simpa [tail?, blockEnd?_eq] using (through?_eq_none_iff (by simp)).2 h
  | rawString hopens h =>
    refine ⟨_, .rawString hopens, ?_, fun _ => rfl⟩
    simpa [tail?, rawEnd?_eq] using (through?_eq_none_iff (by simp)).2 h
  | string hopens h =>
    refine ⟨_, .string hopens, ?_, fun _ => rfl⟩
    simpa [tail?] using stringEnd?_eq_none_iff.2 h
  | @backquoted rest h =>
    refine ⟨_, .backquoted, ?_, fun _ => rfl⟩
    have hnone : ¬ [96] <:+: rest := by rwa [List.singleton_infix_iff]
    simpa [tail?, markEnd?_eq] using (through?_eq_none_iff (by simp)).2 hnone

theorem Opens.unclosed (hopens : Opens before kind rest) (h : kind.tail? rest = none) :
    Unclosed before rest (kind.failure ·) := by
  cases hopens with
  | lineComment => cases h
  | blockComment =>
    rw [tail?, blockEnd?_eq, Option.map_eq_none_iff, through?_eq_none_iff (by simp)] at h
    exact .blockComment h
  | rawString hopens =>
    rw [tail?, rawEnd?_eq, through?_eq_none_iff (by simp)] at h
    exact .rawString hopens h
  | string hopens => exact .string hopens (stringEnd?_eq_none_iff.1 h)
  | backquoted =>
    rw [tail?, markEnd?_eq, through?_eq_none_iff (by simp), List.singleton_infix_iff] at h
    exact .backquoted h
  | escapedChar =>
    obtain ⟨n, hn⟩ := @exists_tail?_of_apostrophe before _ _ .escapedChar
    cases hn.symm.trans h
  | char hquote hslash hnewline =>
    obtain ⟨n, hn⟩ := @exists_tail?_of_apostrophe before _ _ (.char hquote hslash hnewline)
    cases hn.symm.trans h

theorem exists_unclosed (h : (start before.reverse rest).tail? rest = none) :
    ∃ failure, Unclosed before rest failure := by
  by_cases hplain : start before.reverse rest = .plain
  · rw [hplain] at h
    cases h
  · exact ⟨_, (opens_of_start hplain).unclosed h⟩

end PieceKind

open PieceKind

namespace Scan

variable {source : String} {ps : List Piece} {head rest : Bytes} {failure : Nat → ScanError}

namespace Reaches

theorem fails (h : Reaches source ps head rest) (hunclosed : Unclosed head rest failure) :
    ofBytes (Bytes.ofString source) =
      ⟨ps, some (failure ((LineTable.ofBytes (Bytes.ofString source)).lineOf head.length))⟩ := by
  obtain ⟨kind, hopens, htail, hfailure⟩ := hunclosed.exists_kind
  have hne : rest ≠ [] := by
    rintro rfl
    cases hopens
  obtain rfl := start_eq_of_opens hopens
  rw [h.ofBytes_eq, after_of_tail?_eq_none hne _ htail, h.bytes, LineTable.lineOf_length,
    List.count_reverse, hfailure]
  simp

theorem all_before {front : String} (h : Reaches source ps (Bytes.ofString front) rest) :
    Comment.all front = .ok (ps.filterMap Piece.comment?) := by
  obtain ⟨qs, htiles, hcomments⟩ := h.tiles.exists_tiles
  rw [← hcomments, Comment.all, Scan.ofBytes_eq_iff.2 htiles]
  rfl

end Reaches

def FailsAt (source : String) (head : Bytes) (failure : Nat → ScanError) : Prop :=
  ∃ ps rest, Reaches source ps head rest ∧ Unclosed head rest failure

theorem FailsAt.failure_eq (h : FailsAt source head failure) :
    (ofBytes (Bytes.ofString source)).failure =
      some (failure ((LineTable.ofBytes (Bytes.ofString source)).lineOf head.length)) := by
  obtain ⟨ps, rest, hreaches, hunclosed⟩ := h
  exact congrArg Scan.failure (hreaches.fails hunclosed)

theorem FailsAt.unique {head' : Bytes} {failure' : Nat → ScanError}
    (h : FailsAt source head failure) (h' : FailsAt source head' failure') : head' = head := by
  obtain ⟨ps, rest, hreaches, hunclosed⟩ := h
  obtain ⟨ps', rest', hreaches', hunclosed'⟩ := h'
  have hpieces : ps' = ps :=
    congrArg Scan.pieces ((hreaches'.fails hunclosed').symm.trans (hreaches.fails hunclosed))
  rw [← hreaches'.tiles.flatMap_bytes, ← hreaches.tiles.flatMap_bytes, hpieces]

theorem FailsAt.all_front {front : String} (h : FailsAt source (Bytes.ofString front) failure) :
    Comment.all front = .ok (ofBytes (Bytes.ofString source)).comments := by
  obtain ⟨ps, rest, hreaches, hunclosed⟩ := h
  rw [hreaches.all_before, hreaches.fails hunclosed]
  rfl

theorem exists_failsAt {error : ScanError}
    (h : (ofBytes (Bytes.ofString source)).failure = some error) :
    ∃ front back failure, source = front ++ back ∧
      FailsAt source (Bytes.ofString front) failure := by
  obtain ⟨ps, head, rest, hreaches, hend⟩ := exists_reaches_of_failure h
  obtain ⟨failure, hunclosed⟩ := exists_unclosed hend
  obtain ⟨b, bs, rfl, hb⟩ : ∃ b bs, rest = b :: bs ∧ b < 128 := by
    cases hunclosed <;> exact ⟨_, _, rfl, by decide⟩
  obtain ⟨front, back, hsource, rfl, -⟩ := Bytes.exists_append_of_ofString hreaches.bytes hb
  exact ⟨front, back, failure, hsource, ps, b :: bs, hreaches, hunclosed⟩

def items (s : Scan) : List (Except ScanError Comment) :=
  s.comments.map .ok ++ s.failure.toList.map .error

end Scan

namespace Scanner

def items (s : Scanner) : List (Except ScanError Comment) :=
  if s.failed then [] else (Scan.after s.before s.before.length 0 s.rest).items

theorem find_eq (before : Bytes) (skip : Nat) (rest : Bytes) :
    let later := (Scan.after before before.length skip rest).items
    (find before before.length skip rest).1 = later.head? ∧
      (find before before.length skip rest).2.items = later.tail := by
  induction rest generalizing before skip with
  | nil => cases skip <;> exact ⟨rfl, rfl⟩
  | cons b rest ih =>
    cases skip with
    | succ skip => exact ih (b :: before) skip
    | zero =>
      rw [find, Scan.after]
      cases htail : (start before (b :: rest)).tail? (b :: rest) with
      | none => exact ⟨rfl, rfl⟩
      | some n =>
        cases hcomment : Piece.comment?
            ⟨start before (b :: rest), before.length, b :: rest.take n⟩ with
        | none => simpa [Scan.items, Scan.comments, hcomment] using ih (b :: before) n
        | some c =>
          -- the scanner stands behind the comment, where the scan goes on
          have hn : n ≤ rest.length := by
            rw [← before.reverse_reverse] at htail
            exact Nat.le_of_lt_succ (tail?_lt (List.cons_ne_nil b rest) htail)
          have hskip :=
            Scan.after_skip (b :: before) (before.length + 1) (rest.take n) (rest.drop n)
          rw [List.take_append_drop, List.length_take, Nat.min_eq_left hn] at hskip
          refine ⟨by simp [Scan.items, Scan.comments, hcomment], ?_⟩
          simp [Scan.items, Scan.comments, hcomment, items, hskip, Nat.min_eq_left hn,
            Nat.add_comm]

theorem next_eq (s : Scanner) : s.next.1 = s.items.head? ∧ s.next.2.items = s.items.tail := by
  rcases s with ⟨before, rest, _ | _⟩
  · exact find_eq before 0 rest
  · exact ⟨rfl, rfl⟩

theorem call_eq (s : Scanner) (k : Nat) : s.call k = s.items[k]? := by
  induction k generalizing s with
  | zero => rw [call, (next_eq s).1, List.head?_eq_getElem?]
  | succ k ih => rw [call, ih, (next_eq s).2, List.getElem?_tail]

/-- Call after call come all comments of the source, or else those before the one place at which
something opens that is closed nowhere, and then the failure, on the line of that place. -/
theorem call_ofBytes (source : String) :
    let scanner := Scanner.ofBytes (Bytes.ofString source)
    ∃ comments : List Comment,
      ((∀ head failure, ¬ Scan.FailsAt source head failure) ∧
        Comment.all source = .ok comments ∧
        ∀ k, scanner.call k = (comments.map .ok)[k]?) ∨
      ∃ front back failure, source = front ++ back ∧
        Scan.FailsAt source (Bytes.ofString front) failure ∧
        (∀ head failure', Scan.FailsAt source head failure' → head = Bytes.ofString front) ∧
        let line := (LineTable.ofBytes (Bytes.ofString source)).lineOf (Bytes.ofString front).length
        Comment.all source = .error (failure line) ∧ Comment.all front = .ok comments ∧
        ∀ k, scanner.call k = (comments.map .ok ++ [.error (failure line)])[k]? := by
  intro scanner
  have hcall : ∀ k, scanner.call k = (Scan.ofBytes (Bytes.ofString source)).items[k]? :=
    call_eq scanner
  refine ⟨(Scan.ofBytes (Bytes.ofString source)).comments, ?_⟩
  cases hfailure : (Scan.ofBytes (Bytes.ofString source)).failure with
  | none =>
    refine .inl ⟨fun head failure hfails => ?_, ?_, fun k => ?_⟩
    · cases hfailure.symm.trans hfails.failure_eq
    · rw [Comment.all, hfailure]
    · rw [hcall, Scan.items, hfailure, Option.toList_none, List.map_nil, List.append_nil]
  | some error =>
    obtain ⟨front, back, failure, hsource, hfails⟩ := Scan.exists_failsAt hfailure
    obtain rfl := Option.some.inj (hfailure.symm.trans hfails.failure_eq)
    refine .inr ⟨front, back, failure, hsource, hfails, fun _ _ => hfails.unique, ?_,
      hfails.all_front, fun k => ?_⟩
    · rw [Comment.all, hfailure]
    · rw [hcall, Scan.items, hfailure, Option.toList_some, List.map_singleton]

end Scanner

end InlineAssert
