import InlineAssert.Proofs.Leftmost
import InlineAssert.Text
import Mathlib.Algebra.GroupWithZero.Nat
import Mathlib.Data.List.Basic

namespace InlineAssert

namespace Text

variable {sep : Char} {cs : List Char}

theorem pieces_of_not_mem (h : sep ∉ cs) : pieces sep cs = [cs] := by
  induction cs with
  | nil => rfl
  | cons c cs ih =>
    obtain ⟨hc, hcs⟩ := List.ne_and_not_mem_of_not_mem_cons h
    simp [pieces, hc.symm, ih hcs]

theorem pieces_append_sep {a : List Char} (h : sep ∉ a) (b : List Char) :
    pieces sep (a ++ sep :: b) = a :: pieces sep b := by
  induction a with
  | nil => simp [pieces]
  | cons c a ih =>
    obtain ⟨hc, ha⟩ := List.ne_and_not_mem_of_not_mem_cons h
    simp [pieces, hc.symm, ih ha]

def offset (before : List (List Char)) : Nat := (before.map (·.length + 1)).sum

/-- The line stands at `start` of the text, between newlines or the ends of the text. -/
def LineAt (text : List Char) (start : Nat) (line : List Char) : Prop :=
  ∃ before after, text = before ++ line ++ after ∧ before.length = start ∧ '\n' ∉ line ∧
    (∀ c ∈ before.getLast?, c = '\n') ∧ ∀ c ∈ after.head?, c = '\n'

theorem LineAt.shift {text line : List Char} {start : Nat} (h : LineAt text start line)
    (front : List Char) : LineAt (front ++ '\n' :: text) (front.length + 1 + start) line := by
  obtain ⟨before, after, rfl, rfl, hline, hbefore, hafter⟩ := h
  refine ⟨front ++ '\n' :: before, after, by simp, by simp; omega, hline, ?_, hafter⟩
  intro c hc
  rw [List.getLast?_append, List.getLast?_cons, Option.some_or] at hc
  cases hlast : before.getLast? with
  | none => simpa [hlast, eq_comm] using hc
  | some d =>
    obtain rfl : d = c := by simpa [hlast] using hc
    exact hbefore d hlast

theorem lineAt_of_pieces {text line : List Char} {as bs : List (List Char)}
    (h : pieces '\n' text = as ++ line :: bs) : LineAt text (offset as) line := by
  induction as generalizing text with
  | nil =>
    by_cases hmem : '\n' ∈ text
    · obtain ⟨a, b, rfl, ha⟩ := List.eq_append_cons_of_mem hmem
      rw [pieces_append_sep ha] at h
      obtain ⟨rfl, -⟩ := List.cons.inj h
      exact ⟨[], '\n' :: b, by simp, rfl, ha, by simp, by simp⟩
    · rw [pieces_of_not_mem hmem] at h
      obtain ⟨rfl, -⟩ := List.cons.inj h
      exact ⟨[], [], by simp, rfl, hmem, by simp, by simp⟩
  | cons a as ih =>
    have hmem : '\n' ∈ text := by
      by_contra hmem
      rw [pieces_of_not_mem hmem] at h
      simp at h
    obtain ⟨a', b, rfl, ha⟩ := List.eq_append_cons_of_mem hmem
    rw [pieces_append_sep ha] at h
    obtain ⟨rfl, htail⟩ := List.cons.inj h
    simpa [offset] using (ih htail).shift a'

theorem exists_pieces_of_lineAt {text line : List Char} {start : Nat} (h : LineAt text start line) :
    ∃ as bs, pieces '\n' text = as ++ line :: bs ∧ offset as = start := by
  obtain ⟨before, after, rfl, rfl, hline, hbefore, hafter⟩ := h
  induction hn : before.length using Nat.strongRecOn generalizing before with
  | ind n ih =>
    by_cases hmem : '\n' ∈ before
    · obtain ⟨a, b, rfl, ha⟩ := List.eq_append_cons_of_mem hmem
      have hb : ∀ c ∈ b.getLast?, c = '\n' := by
        intro c hc
        apply hbefore
        simp [List.getLast?_append, List.getLast?_cons, Option.mem_def.1 hc]
      obtain ⟨as, bs, hpieces, hoffset⟩ := ih b.length (by simp at hn; omega) b hb rfl
      refine ⟨a :: as, bs, ?_, ?_⟩
      · rw [List.append_assoc, List.append_assoc, List.cons_append, pieces_append_sep ha,
          ← List.append_assoc, hpieces, List.cons_append]
      · simp only [offset, List.map_cons, List.sum_cons] at hoffset ⊢
        simp only [List.length_append, List.length_cons] at hn
        omega
    · have hnil : before = [] := by
        rw [← List.getLast?_eq_none_iff]
        rw [Option.eq_none_iff_forall_not_mem]
        intro c hc
        exact hmem (hbefore c hc ▸ List.mem_of_getLast? hc)
      subst hnil
      refine ⟨[], (pieces '\n' (line ++ after)).tail, ?_, by simpa [offset] using hn⟩
      cases after with
      | nil => simp [pieces_of_not_mem hline]
      | cons c after =>
        obtain rfl := hafter c rfl
        simp [pieces_append_sep hline]

def IsFirstLine (P : List Char → Prop) (text line : List Char) : Prop :=
  ∃ before after, pieces '\n' text = before ++ line :: after ∧ P line ∧ ∀ other ∈ before, ¬ P other

theorem IsFirstLine.unique {P : List Char → Prop} {text line other : List Char}
    (h : IsFirstLine P text line) (h' : IsFirstLine P text other) : line = other := by
  obtain ⟨as, bs, hpieces, hline, has⟩ := h
  obtain ⟨cs, ds, hpieces', hother, hcs⟩ := h'
  rw [hpieces] at hpieces'
  obtain ⟨ms, rfl, hrest⟩ | ⟨ms, rfl, hrest⟩ := List.append_eq_append_iff.1 hpieces'
  · cases ms with
    | nil => exact (List.cons.inj hrest).1
    | cons m ms =>
      obtain ⟨rfl, -⟩ := List.cons.inj hrest
      exact absurd hline (hcs _ (by simp))
  · cases ms with
    | nil => exact (List.cons.inj hrest).1.symm
    | cons m ms =>
      obtain ⟨rfl, -⟩ := List.cons.inj hrest
      exact absurd hother (has _ (by simp))

end Text

namespace Pattern.Program

open Text

variable {e : Expr} {P : List Char → Prop} {text : List Char}

def MatchesLines (e : Expr) (P : List Char → Prop) (text : List Char) : Prop :=
  ∀ i ≤ text.length, ∀ j, e.Spans text.toArray i j ↔
    ∃ line, LineAt text i line ∧ P line ∧ j = i + line.length

theorem exists_firstLine_of_find? (h : MatchesLines e P text) {i j : Nat}
    (hfind : (ofExpr e).find? text.toArray = some (i, j)) :
    ∃ line, IsFirstLine P text line ∧ LineAt text i line ∧ j = i + line.length := by
  obtain ⟨hi, hspans⟩ := find?_ofExpr_spans hfind
  rw [List.size_toArray] at hi
  obtain ⟨line, hat, hline, hj⟩ := (h i hi j).1 hspans
  obtain ⟨as, bs, hpieces, hoffset⟩ := exists_pieces_of_lineAt hat
  refine ⟨line, ⟨as, bs, hpieces, hline, ?_⟩, hat, hj⟩
  intro other hother hP
  -- a line before it with the property would match from an earlier start
  obtain ⟨cs, ds, rfl⟩ := List.append_of_mem hother
  have hother' : pieces '\n' text = cs ++ other :: (ds ++ line :: bs) := by simpa using hpieces
  have hat' := lineAt_of_pieces hother'
  have hlt : offset cs < i := by
    rw [← hoffset]
    simp only [offset, List.map_append, List.map_cons, List.sum_append, List.sum_cons]
    omega
  have hnone : ¬ e.Spans text.toArray (offset cs) (offset cs + other.length) := by
    apply not_spans_of_find? (by simp; omega)
    intro found hfound
    obtain rfl : found = (i, j) := by simpa [hfind, eq_comm] using hfound
    exact hlt
  exact hnone ((h _ (by omega) _).2 ⟨other, hat', hP, rfl⟩)

theorem find?_eq_none_iff_lines (h : MatchesLines e P text) :
    (ofExpr e).find? text.toArray = none ↔ ∀ line ∈ pieces '\n' text, ¬ P line := by
  rw [find?_ofExpr_eq_none_iff, List.size_toArray]
  constructor
  · intro hnone line hline hP
    obtain ⟨as, bs, hpieces⟩ := List.append_of_mem hline
    have hat := lineAt_of_pieces hpieces
    have hle : offset as ≤ text.length := by
      obtain ⟨before, after, rfl, hstart, -⟩ := hat
      simp only [List.length_append]
      omega
    exact hnone _ hle _ ((h _ hle _).2 ⟨line, hat, hP, rfl⟩)
  · intro hnone i hi j hspans
    obtain ⟨line, hat, hP, -⟩ := (h i hi j).1 hspans
    obtain ⟨as, bs, hpieces, -⟩ := exists_pieces_of_lineAt hat
    exact hnone line (by simp [hpieces]) hP

end Pattern.Program

end InlineAssert
