import InlineAssert.Proofs.Grammar
import InlineAssert.Proofs.LineEndings
import InlineAssert.Proofs.Precedence

namespace InlineAssert

namespace Directive

theorem Key.newline_not_mem_print (k : Key) : '\n' ∉ k.print.toList := by
  rcases k with _ | _ | _ | (_ | _) <;> decide

end Directive

namespace PieceKind

def Idle (b : UInt8) : Prop := b ≠ 47 ∧ b ≠ 34 ∧ b ≠ 96 ∧ b ≠ 39

theorem Idle.reads {b : UInt8} (h : Idle b) (before rest : Bytes) :
    Reads before .plain [b] rest := by
  obtain ⟨hslash, hquote, hback, happ⟩ := h
  refine .plain fun kind hopens => ?_
  cases hopens with
  | lineComment => exact hslash rfl
  | blockComment => exact hslash rfl
  | rawString => exact hquote rfl
  | string => exact hquote rfl
  | backquoted => exact hback rfl
  | escapedChar => exact happ rfl
  | char => exact happ rfl

end PieceKind

open Bytes Scan PieceKind

theorem Scan.behind_code {code : Bytes} (h : ∀ b ∈ code, Idle b) (before rest : Bytes) :
    (behind before (code ++ rest)).failure = (behind (before ++ code) rest).failure ∧
      (behind before (code ++ rest)).comments = (behind (before ++ code) rest).comments := by
  induction code generalizing before with
  | nil => simp
  | cons b code ih =>
    obtain ⟨hb, hcode⟩ := List.forall_mem_cons.1 h
    have hreads := hb.reads before (code ++ rest)
    have hlater := ih hcode (before ++ [b])
    rw [List.append_assoc] at hlater
    rw [List.cons_append, ← List.singleton_append, behind_of_reads hreads, comments_cons]
    exact hlater

/-- A line of code in which nothing opens, with a directive in a comment behind it. -/
structure AnnotatedLine where
  code : String
  directive : Directive
  code_idle : ∀ c ∈ code.toList, c ∉ ['\n', '/', '"', '`', '\'']
  id_ne : directive.id ≠ ""
  id_plain : ∀ c ∈ directive.id.toList, c ∉ ['.', '\n']
  value_ne : directive.value ≠ ""
  value_plain : '\n' ∉ directive.value.toList
  value_end : directive.value.toList.getLast? ≠ some '\r'

namespace AnnotatedLine

def text (l : AnnotatedLine) : String := l.code ++ l.directive.print

def source : List AnnotatedLine → String
  | [] => ""
  | l :: ls => l.text ++ "\n" ++ source ls

def mentions (path : String) (k : Nat) : List AnnotatedLine → List Mention
  | [] => []
  | l :: ls => (l.directive, ⟨path, baseName path, k, l.text⟩) :: mentions path (k + 1) ls

variable (l : AnnotatedLine)

theorem read?_print : Directive.read? l.directive.print = some l.directive :=
  Directive.read?_print l.id_ne (fun h => l.id_plain _ h (by simp)) l.value_ne

theorem newline_not_mem_print : '\n' ∉ l.directive.print.toList := by
  have hid : '\n' ∉ l.directive.id.toList := fun h => l.id_plain _ h (by simp)
  simp [Directive.print, hid, l.directive.key.newline_not_mem_print, l.value_plain]

theorem newline_not_mem_text : newline ∉ ofString l.text := by
  have hcode : '\n' ∉ l.code.toList := fun h => l.code_idle _ h (by simp)
  rw [ofString_eq, newline_mem_encode_iff]
  simp [text, hcode, l.newline_not_mem_print]

theorem dropReturn_value (before : List Char) :
    dropReturn (encode (before ++ l.directive.value.toList)) =
      encode (before ++ l.directive.value.toList) := by
  have hvalue : l.directive.value.toList ≠ [] := fun h =>
    l.value_ne (String.toList_eq_nil_iff.1 h)
  rw [dropReturn_encode, Text.dropFinal, List.getLast?_append_of_ne_nil _ hvalue,
    if_neg l.value_end]

theorem dropReturn_print :
    dropReturn (ofString l.directive.print) = ofString l.directive.print := by
  rw [ofString_eq, Directive.print, String.toList_append, l.dropReturn_value]

theorem dropReturn_text : dropReturn (ofString l.text) = ofString l.text := by
  rw [ofString_eq, text, Directive.print, String.toList_append, String.toList_append,
    ← List.append_assoc, l.dropReturn_value]

theorem idle_of_mem_code {b : UInt8} (h : b ∈ ofString l.code) : Idle b := by
  have hnot {c : Char} (hc : c.toNat < 128) (hmem : c ∈ ['\n', '/', '"', '`', '\'']) :
      UInt8.ofNat c.toNat ∉ ofString l.code := by
    rw [ofString_eq, mem_encode_iff hc]
    exact fun hcode => l.code_idle c hcode hmem
  refine ⟨?_, ?_, ?_, ?_⟩ <;> rintro rfl
  · exact hnot (c := '/') (by decide) (by simp) h
  · exact hnot (c := '"') (by decide) (by simp) h
  · exact hnot (c := '`') (by decide) (by simp) h
  · exact hnot (c := '\'') (by decide) (by simp) h

theorem reads_print (before rest : Bytes) :
    Reads before .lineComment (ofString l.directive.print) (newline :: rest) := by
  have hline : newline ∉ ofString l.directive.print := by
    rw [ofString_eq, newline_mem_encode_iff]
    exact l.newline_not_mem_print
  obtain ⟨body, hprint⟩ : ∃ body, ofString l.directive.print = 47 :: 47 :: body := by
    rw [ofString_eq, Directive.toList_print]
    exact ⟨_, rfl⟩
  rw [hprint] at hline ⊢
  have hbody : newline ∉ body := fun h => hline (List.mem_cons_of_mem _ (List.mem_cons_of_mem _ h))
  exact .closed .lineComment (.lineComment hbody (by simp))

theorem comment?_print (offset : Nat) :
    Piece.comment? ⟨.lineComment, offset, ofString l.directive.print⟩ =
      some ⟨.line, l.directive.print, offset⟩ := by
  rw [Piece.comment?, l.dropReturn_print, text_ofString]

theorem behind_line (before rest : Bytes) :
    let upper := behind before (ofString l.text ++ newline :: rest)
    let lower := behind (before ++ (ofString l.text ++ [newline])) rest
    upper.failure = lower.failure ∧
      upper.comments =
        ⟨.line, l.directive.print, (before ++ ofString l.code).length⟩ :: lower.comments := by
  intro upper lower
  obtain ⟨hfailure, hcomments⟩ := behind_code (fun _ => l.idle_of_mem_code) before
    (ofString l.directive.print ++ newline :: rest)
  have hlower : before ++ ofString l.code ++ ofString l.directive.print ++ [newline] =
      before ++ (ofString l.text ++ [newline]) := by
    simp [text, ofString_append]
  have hcomment := behind_of_reads (l.reads_print (before ++ ofString l.code) rest)
  rw [behind_newline, hlower] at hcomment
  have hupper : upper = behind before
      (ofString l.code ++ (ofString l.directive.print ++ newline :: rest)) := by
    rw [← List.append_assoc, ← ofString_append]
    rfl
  rw [hupper, hfailure, hcomments, hcomment, comments_cons, comment?_print, comments_cons]
  exact ⟨rfl, rfl⟩

section Written

def written (ls : List AnnotatedLine) : Bytes := ls.flatMap fun l => ofString l.text ++ [newline]

theorem ofString_source (ls : List AnnotatedLine) : ofString (source ls) = written ls := by
  induction ls with
  | nil => rfl
  | cons l ls ih =>
    rw [source, ofString_append, ofString_append, ih]
    rfl

theorem count_written (ls : List AnnotatedLine) : (written ls).count newline = ls.length := by
  induction ls with
  | nil => rfl
  | cons l ls ih =>
    have hcons : written (l :: ls) = ofString l.text ++ [newline] ++ written ls := rfl
    rw [hcons, List.count_append, List.count_append, ih,
      List.count_eq_zero_of_not_mem l.newline_not_mem_text, List.count_singleton_self]
    simp [Nat.add_comm]

theorem splitOn_written (ls : List AnnotatedLine) :
    (written ls).splitOn newline = ls.map (fun l => ofString l.text) ++ [[]] := by
  induction ls with
  | nil => rfl
  | cons l ls ih =>
    have hcons : written (l :: ls) = ofString l.text ++ newline :: written ls := by
      simp [written]
    rw [hcons, List.splitOn_append_cons_self_of_not_mem l.newline_not_mem_text, ih]
    rfl

variable (path : String) (front ls : List AnnotatedLine)

theorem line?_written :
    (LineTable.ofBytes (written (front ++ l :: ls))).line? (written (front ++ l :: ls))
      (front.length + 1) = some (ofString l.text) := by
  rw [LineTable.line?_ofBytes, splitOn_written]
  simp [l.dropReturn_text]

theorem lineOf_written (h : front.length + 1 < 2 ^ 32) :
    (LineTable.ofBytes (written (front ++ l :: ls))).lineOf
      (written front ++ ofString l.code).length = front.length + 1 := by
  have hsplit : written (front ++ l :: ls) = written front ++ ofString l.code ++
      (ofString l.directive.print ++ newline :: written ls) := by
    simp [written, text, ofString_append]
  have hcode : newline ∉ ofString l.code := fun hmem =>
    l.newline_not_mem_text (by simp [text, ofString_append, hmem])
  rw [hsplit, LineTable.lineOf_length, List.count_append, count_written,
    List.count_eq_zero_of_not_mem hcode, lineLimit]
  omega

theorem of?_written (h : front.length + 1 < 2 ^ 32) :
    Mention.of? path (written (front ++ l :: ls))
        ⟨.line, l.directive.print, (written front ++ ofString l.code).length⟩ =
      some (l.directive, ⟨path, baseName path, front.length + 1, l.text⟩) := by
  have hline := l.lineOf_written front ls h
  have htext : (LineTable.ofBytes (written (front ++ l :: ls))).line? (written (front ++ l :: ls))
      ((LineTable.ofBytes (written (front ++ l :: ls))).lineOf
        (written front ++ ofString l.code).length) = some (ofString l.text) := by
    rw [hline, l.line?_written front ls]
  refine (Mention.of?_directive
    (c := ⟨.line, l.directive.print, (written front ++ ofString l.code).length⟩)
    rfl l.read?_print htext).trans ?_
  rw [hline]

structure Finds (s : Scan) : Prop where
  failure : s.failure = none
  texts : s.comments.map (·.text) = ls.map fun l => l.directive.print
  directives : s.comments.filterMap (Mention.of? path (written (front ++ ls))) =
    mentions path (front.length + 1) ls

theorem finds_behind (h : (front ++ ls).length + 1 < 2 ^ 32) :
    Finds path front ls (behind (written front) (written ls)) := by
  -- Lines are numbered from the start of the source: each goes over to `front` once it is read.
  induction ls generalizing front with
  | nil => exact ⟨rfl, rfl, rfl⟩
  | cons l ls ih =>
    have hfront : front ++ l :: ls = front ++ [l] ++ ls := by simp
    obtain ⟨hfailure, hcomments⟩ := l.behind_line (written front) (written ls)
    have hlater := ih (front ++ [l]) (by rwa [← hfront])
    have hlines : written (l :: ls) = ofString l.text ++ newline :: written ls := by
      simp [written]
    have hbefore : written (front ++ [l]) = written front ++ (ofString l.text ++ [newline]) := by
      simp [written]
    have hdirective := l.of?_written path front ls (by simp at h; omega)
    rw [hbefore] at hlater
    rw [hlines]
    refine ⟨hfailure.trans hlater.failure, ?_, ?_⟩
    · rw [hcomments, List.map_cons, hlater.texts]
      rfl
    · rw [hcomments, List.filterMap_cons_some hdirective, hfront, hlater.directives]
      simp [mentions]

end Written

end AnnotatedLine

open AnnotatedLine in
/-- Of a source whose lines each have a directive behind some code, every comment is found and
nothing else, and to read it is to apply the directives in order, each with the number and the text
of its line. -/
theorem Table.readSource_annotated (t : Table) (path : String) (ls : List AnnotatedLine)
    (h : ls.length < 2 ^ 32 - 1) :
    (∃ comments, Comment.all (source ls) = .ok comments ∧
        comments.map (·.text) = ls.map fun l => l.directive.print) ∧
      t.readSource path (source ls) = t.applyAll (mentions path 1 ls) := by
  have hfinds : Finds path [] ls (Scan.ofBytes (written ls)) :=
    finds_behind path [] ls (by simp; omega)
  rw [← ofString_source] at hfinds
  have hdirectives : Site.directives path (source ls) = mentions path 1 ls := by
    refine Eq.trans ?_ hfinds.directives
    rw [List.nil_append, ← ofString_source]
    rfl
  constructor
  · refine ⟨_, ?_, hfinds.texts⟩
    rw [Comment.all, hfinds.failure]
  · rw [readSource, hdirectives, hfinds.failure]
    rcases t.applyAll (mentions path 1 ls) with ⟨t', error | n⟩ <;> rfl

theorem Table.readSource_annotated_openers :
    let ls : List AnnotatedLine :=
      [⟨"f(r#) ", ⟨"a\"/*'", .diagnostic .present, "s: // lem.b.name=x /* \""⟩,
          by simp, by decide, by simp, by decide, by decide, by decide⟩,
        ⟨"é\r ", ⟨"`=", .name, "'\\"⟩,
          by simp, by decide, by simp, by decide, by decide, by decide⟩,
        ⟨"", ⟨"`=", .name, "*/"⟩,
          by simp, by decide, by simp, by decide, by decide, by decide⟩]
    ls.length < 2 ^ 32 - 1 ∧
      (∃ comments, Comment.all (AnnotatedLine.source ls) = .ok comments) ∧
      (readSource {} "d/a.go" (AnnotatedLine.source ls)).2 =
        .error (.duplicateName "`=" "d/a.go" 3) := by
  intro ls
  have hlength : ls.length < 2 ^ 32 - 1 := by decide
  obtain ⟨⟨comments, hcomments, -⟩, hread⟩ := readSource_annotated {} "d/a.go" ls hlength
  refine ⟨hlength, ⟨comments, hcomments⟩, ?_⟩
  rw [hread]
  decide +kernel

end InlineAssert
