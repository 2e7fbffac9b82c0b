import InlineAssert.Pattern.Form

namespace InlineAssert.Pattern

inductive SpansAll (text : Array Char) : List Expr → Nat → Nat → Prop
  | nil : SpansAll text [] i i
  | cons : e.Spans text i j → SpansAll text es j k → SpansAll text (e :: es) i k

variable {text : Array Char} {i j k : Nat}

namespace SpansAll

@[simp] theorem nil_iff : SpansAll text [] i j ↔ i = j := by
  constructor
  · intro h
    cases h
    rfl
  · rintro rfl
    exact .nil

@[simp] theorem cons_iff {e : Expr} {es : List Expr} :
    SpansAll text (e :: es) i k ↔ ∃ j, e.Spans text i j ∧ SpansAll text es j k := by
  constructor
  · intro h
    cases h with
    | cons he hes => exact ⟨_, he, hes⟩
  · rintro ⟨j, he, hes⟩
    exact .cons he hes

theorem append_iff {as bs : List Expr} :
    SpansAll text (as ++ bs) i k ↔ ∃ j, SpansAll text as i j ∧ SpansAll text bs j k := by
  induction as generalizing i with
  | nil => simp
  | cons a as ih =>
    simp only [List.cons_append, cons_iff, ih]
    constructor
    · rintro ⟨l, ha, j, has, hbs⟩
      exact ⟨j, ⟨l, ha, has⟩, hbs⟩
    · rintro ⟨j, ⟨l, ha, has⟩, hbs⟩
      exact ⟨l, ha, j, has, hbs⟩

end SpansAll

theorem Expr.spans_empty_iff : Expr.empty.Spans text i j ↔ i = j := by
  constructor
  · intro h
    cases h
    rfl
  · rintro rfl
    exact .empty

theorem Expr.spans_look_iff {l : Look} : (Expr.look l).Spans text i j ↔
    i = j ∧ l.holds (if i = 0 then none else text[i - 1]?) text[i]? := by
  constructor
  · intro h
    cases h with
    | look hl => exact ⟨rfl, hl⟩
  · rintro ⟨rfl, hl⟩
    exact .look hl

theorem Expr.spans_cat_iff {a b : Expr} :
    (Expr.cat a b).Spans text i k ↔ ∃ j, a.Spans text i j ∧ b.Spans text j k := by
  constructor
  · intro h
    cases h with
    | cat ha hb => exact ⟨_, ha, hb⟩
  · rintro ⟨j, ha, hb⟩
    exact .cat ha hb

theorem Expr.spans_seq_iff {es : List Expr} :
    (Expr.seq es).Spans text i j ↔ SpansAll text es i j := by
  fun_induction Expr.seq es generalizing i with
  | case1 => simp [spans_empty_iff]
  | case2 => simp
  | case3 e es _ ih => simp [spans_cat_iff, ih]

namespace Form

theorem toExprs_eq_map (fs : List Form) : toExprs fs = fs.map toExpr := by
  induction fs with
  | nil => rfl
  | cons f fs ih => rw [toExprs, ih, List.map_cons]

def Spans (text : Array Char) (fs : List Form) (i j : Nat) : Prop :=
  SpansAll text (fs.map toExpr) i j

@[simp] theorem spans_nil_iff : Spans text [] i j ↔ i = j := SpansAll.nil_iff

@[simp] theorem spans_cons_iff {f : Form} {fs : List Form} :
    Spans text (f :: fs) i k ↔ ∃ j, f.toExpr.Spans text i j ∧ Spans text fs j k :=
  SpansAll.cons_iff

theorem spans_append_iff {fs gs : List Form} :
    Spans text (fs ++ gs) i k ↔ ∃ j, Spans text fs i j ∧ Spans text gs j k := by
  rw [Spans, List.map_append]
  exact SpansAll.append_iff

theorem spans_cat_iff {fs : List Form} :
    (Form.cat fs).toExpr.Spans text i j ↔ Spans text fs i j := by
  rw [toExpr, Expr.spans_seq_iff, toExprs_eq_map, Spans]

theorem spans_word_append_iff {as bs : List Char} :
    (Form.word (as ++ bs)).toExpr.Spans text i k ↔
      ∃ j, (Form.word as).toExpr.Spans text i j ∧ (Form.word bs).toExpr.Spans text j k := by
  simp only [toExpr, Expr.spans_seq_iff, List.map_append, SpansAll.append_iff]

theorem spans_parts_iff {f : Form} : Spans text f.parts i j ↔ f.toExpr.Spans text i j := by
  fun_cases parts f with
  | case1 => rw [toExpr, Expr.spans_empty_iff, spans_nil_iff]
  | case2 fs => exact spans_cat_iff.symm
  | case3 => simp

theorem spans_flatMap_parts_iff {fs : List Form} :
    Spans text (fs.flatMap parts) i k ↔ Spans text fs i k := by
  induction fs generalizing i with
  | nil => rfl
  | cons f fs ih =>
    simp only [List.flatMap_cons, spans_append_iff, spans_parts_iff, ih, spans_cons_iff]

theorem spans_joinWords_iff {fs : List Form} :
    Spans text (joinWords fs) i k ↔ Spans text fs i k := by
  fun_induction joinWords fs generalizing i with
  | case1 => rfl
  | case2 as fs bs rest hrest ih =>
    rw [hrest] at ih
    simp only [spans_cons_iff, spans_word_append_iff, ← ih]
    constructor
    · rintro ⟨l, ⟨j, ha, hb⟩, hrest⟩
      exact ⟨j, ha, l, hb, hrest⟩
    · rintro ⟨j, ha, l, hb, hrest⟩
      exact ⟨l, ⟨j, ha, hb⟩, hrest⟩
  | case3 as fs _ ih => simp only [spans_cons_iff, ← ih]
  | case4 f fs _ ih => simp only [spans_cons_iff, ih]

theorem spans_seq_iff {fs : List Form} : (seq fs).toExpr.Spans text i j ↔ Spans text fs i j := by
  rw [← spans_flatMap_parts_iff, ← spans_joinWords_iff]
  fun_cases seq fs with
  | case1 h => rw [h, toExpr, Expr.spans_empty_iff, spans_nil_iff]
  | case2 f h => simp [h]
  | case3 => exact spans_cat_iff

end Form

def Takes (text : Array Char) (i j : Nat) (cs : List Char) : Prop :=
  text.toList.drop i = cs ++ text.toList.drop j

namespace Takes

theorem nil : Takes text i i [] := rfl

theorem append {as bs : List Char} (ha : Takes text i j as) (hb : Takes text j k bs) :
    Takes text i k (as ++ bs) := by
  rw [Takes, ha, hb, List.append_assoc]

theorem one {s : CharSet} (h : (Expr.one s).Spans text i j) :
    ∃ c, s.contains c ∧ Takes text i j [c] := by
  cases h with
  | one hc hs =>
    obtain ⟨hi, hc⟩ := List.getElem?_eq_some_iff.1 (Array.getElem?_toList ▸ hc)
    exact ⟨_, hs, by rw [Takes, ← hc, List.singleton_append, List.drop_eq_getElem_cons hi]⟩

theorem star {s : CharSet} {greedy : Bool} (h : (Expr.star greedy (.one s)).Spans text i j) :
    ∃ cs, (∀ c ∈ cs, s.contains c) ∧ Takes text i j cs := by
  generalize he : Expr.star greedy (.one s) = e at h
  induction h with
  | starStop => exact ⟨[], by simp, nil⟩
  | starStep hone _ _ ih =>
    cases he
    obtain ⟨c, hc, hone⟩ := one hone
    obtain ⟨cs, hcs, hmore⟩ := ih rfl
    exact ⟨c :: cs, by simpa using ⟨hc, hcs⟩, hone.append hmore⟩
  | _ => cases he

theorem plus {s : CharSet} {greedy : Bool} (h : (Expr.plus greedy (.one s)).Spans text i j) :
    ∃ cs, cs ≠ [] ∧ (∀ c ∈ cs, s.contains c) ∧ Takes text i j cs := by
  cases h with
  | plus hone hmore =>
    obtain ⟨c, hc, hone⟩ := one hone
    obtain ⟨cs, hcs, hmore⟩ := star hmore
    exact ⟨c :: cs, by simp, by simpa using ⟨hc, hcs⟩, hone.append hmore⟩

end Takes

theorem contains_single_iff {c d : Char} : (CharSet.single c).contains d ↔ d = c := by
  have hcode : d = c ↔ d.toNat = c.toNat :=
    ⟨congrArg _, fun h => Char.ext (UInt32.toNat_inj.1 h)⟩
  have hinside : (CharSet.single c).contains d ↔ c.toNat ≤ d.toNat ∧ d.toNat < c.toNat + 1 := by
    simp [CharSet.single, CharSet.range, CharSet.contains, CharSet.hasCode, CharSet.inside]
  rw [hinside, hcode]
  omega

theorem Takes.word {cs : List Char} (h : (Form.word cs).toExpr.Spans text i j) :
    Takes text i j cs := by
  rw [Form.toExpr, Expr.spans_seq_iff] at h
  induction cs generalizing i with
  | nil =>
    obtain rfl := SpansAll.nil_iff.1 h
    exact nil
  | cons c cs ih =>
    obtain ⟨k, hone, hmore⟩ := SpansAll.cons_iff.1 h
    obtain ⟨d, hd, htakes⟩ := one hone
    obtain rfl := contains_single_iff.1 hd
    exact htakes.append (ih hmore)

end InlineAssert.Pattern
