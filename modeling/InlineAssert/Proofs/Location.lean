import InlineAssert.Proofs.Search
import InlineAssert.Proofs.Sequence
import InlineAssert.Proofs.Template

namespace InlineAssert

namespace Pattern

def Form.endsLine : Form → Bool
  | .look .textEnd | .look (.lineEnd false) => true
  | _ => false

variable {text : Array Char} {i j : Nat}

theorem Takes.letters {cs : List Char} (h : Form.Spans text (Form.letters cs) i j) :
    Takes text i j cs := by
  induction cs generalizing i with
  | nil =>
    obtain rfl := Form.spans_nil_iff.1 h
    exact nil
  | cons c cs ih =>
    obtain ⟨k, hword, hmore⟩ := Form.spans_cons_iff.1 h
    exact (word hword).append (ih hmore)

theorem Takes.anything (h : Form.anything.toExpr.Spans text i j) :
    ∃ cs, '\n' ∉ cs ∧ Takes text i j cs := by
  obtain ⟨cs, hcs, htakes⟩ := star h
  refine ⟨cs, fun hnewline => ?_, htakes⟩
  have := hcs _ hnewline
  revert this
  decide

theorem Takes.number (h : Form.number.toExpr.Spans text i j) :
    ∃ cs, cs ≠ [] ∧ (∀ c ∈ cs, Named.Letter.digit.unicode.contains c) ∧ Takes text i j cs :=
  plus h

theorem text_of_ofText {text : String} {p : Pattern} (h : ofText text = .ok p) : p.text = text := by
  rw [ofText] at h
  split at h
  · exact congrArg Pattern.text (Except.ok.inj h).symm
  · cases h

end Pattern

namespace Matcher

open Pattern

/-- Whether the fragment leaves the end of the line to the pattern: what stands after the place,
read by itself, is one sequence, and its last item is the end of a line. -/
def keepsEnd (polarity : Polarity) (fragment : String) : Bool :=
  let tail := tail polarity fragment
  match Reader.read (tail.length + 1) (.onLine []) tail with
  | some r =>
    r.outer.isEmpty && r.frame.branches.isEmpty && r.frame.items.head?.any (·.form.endsLine)
  | none => false

def NamesPlace (fileName : String) (line : Nat) (text : List Char) : Prop :=
  ∃ front digits back, text = front ++ fileName.toList ++ ':' :: (toString line).toList ++
      ':' :: digits ++ ':' :: back ∧
    digits ≠ [] ∧ ∀ d ∈ digits, Named.Letter.digit.unicode.contains d

def span? (m : Matcher) (diagnostics : String) : Option (Nat × Nat) :=
  (Program.ofExpr m.pattern.expr).find? diagnostics.toList.toArray

/-- The part found starts and ends with a line of the diagnostics, and the line that it starts on
names the place. -/
def AnswersFor (m : Matcher) (fileName : String) (line : Nat) (diagnostics found : String) : Prop :=
  ∃ before after, diagnostics.toList = before ++ found.toList ++ after ∧
    m.span? diagnostics = some (before.length, before.length + found.length) ∧
    (∀ c ∈ before.getLast?, c = '\n') ∧ (∀ c ∈ after.head?, c = '\n') ∧
    NamesPlace fileName line ((found.toList ++ after).takeWhile (· ≠ '\n'))

variable {text : Array Char} {i j : Nat} {fileName : String} {line : Nat}

theorem takes_of_placeForms (h : Form.Spans text (placeForms fileName line) i j) :
    (Look.lineStart false).holds (if i = 0 then none else text[i - 1]?) text[i]? ∧
      ∃ front digits, '\n' ∉ front ∧ digits ≠ [] ∧
        (∀ d ∈ digits, Named.Letter.digit.unicode.contains d) ∧
        Takes text i j (front ++ fileName.toList ++ [':'] ++ (toString line).toList ++ [':'] ++
          digits ++ [':']) := by
  simp only [placeForms, Form.spans_append_iff, Form.spans_cons_iff, Form.spans_nil_iff] at h
  obtain ⟨_, ⟨_, ⟨_, ⟨_, ⟨_, hempty, _, hstart, _, hfront, rfl⟩, hname⟩, _, hcolon, rfl⟩, hline⟩,
    _, hcolon', _, hdigits, _, hcolon'', rfl⟩ := h
  obtain rfl := Expr.spans_empty_iff.1 hempty
  obtain ⟨rfl, hbegins⟩ := Expr.spans_look_iff.1 hstart
  obtain ⟨front, hnewline, hfront⟩ := Takes.anything hfront
  obtain ⟨digits, hne, hall, hdigits⟩ := Takes.number hdigits
  have hplace := ((hfront.append (.letters hname)).append (.word hcolon)).append (.letters hline)
  exact ⟨hbegins, front, digits, hnewline, hne, hall,
    ((hplace.append (.word hcolon')).append hdigits).append (.word hcolon'')⟩

theorem exists_of_keepsEnd {polarity : Polarity} {fragment : String}
    (h : keepsEnd polarity fragment) : ∃ (t : Reader) (item : Item) (items : List Item),
      Reader.Reads (.onLine []) (tail polarity fragment) t ∧ t.outer = [] ∧
        t.frame = ⟨[], item :: items⟩ ∧ item.form.endsLine := by
  rw [keepsEnd] at h
  split at h
  · next t ht =>
    simp only [Bool.and_eq_true, List.isEmpty_iff] at h
    obtain ⟨⟨houter, hbranches⟩, hlast⟩ := h
    obtain ⟨flags, ⟨branches, items⟩, outer, names⟩ := t
    cases items with
    | nil => cases hlast
    | cons item items =>
      cases hbranches
      exact ⟨_, item, items, Reader.reads_of_read ht, houter, rfl, hlast⟩
  · cases h

theorem holds_of_endsLine {form : Form} (hform : form.endsLine) (h : form.toExpr.Spans text i j) :
    i = j ∧ ∀ c, text[j]? = some c → c = '\n' := by
  fun_cases Form.endsLine form with
  | case1 =>
    obtain ⟨rfl, hl⟩ := Expr.spans_look_iff.1 h
    refine ⟨rfl, fun c hc => ?_⟩
    simp [Look.holds, hc] at hl
  | case2 =>
    obtain ⟨rfl, hl⟩ := Expr.spans_look_iff.1 h
    exact ⟨rfl, fun c hc => by simpa [Look.holds, hc] using hl⟩
  | case3 form h₁ h₂ =>
    rw [Form.endsLine] at hform <;> first | assumption | cases hform

variable {polarity : Polarity} {fragment source diagnostics found : String} {m : Matcher}

theorem exists_form_of_forPlace (hm : forPlace polarity fileName line fragment source = .ok m) :
    ∃ form, Form.read? (patternText polarity fileName line fragment).toList = some form ∧
      m.pattern.expr = form.toExpr := by
  simp only [forPlace, Except.bind_eq_ok_iff, Except.pure_eq_ok_iff] at hm
  obtain ⟨pattern, hpattern, rfl⟩ := hm
  have hreads := pattern.reads
  rw [text_of_ofText hpattern, Expr.ofText] at hreads
  split at hreads
  · cases hreads
  · next form hform =>
    split at hreads
    · exact ⟨form, hform, (Except.ok.inj hreads).symm⟩
    · cases hreads

theorem span?_of_find? (hfound : m.find? diagnostics = some found) :
    ∃ i j, m.span? diagnostics = some (i, j) ∧
      found.toList = (diagnostics.toList.drop i).take (j - i) := by
  obtain ⟨⟨i, j⟩, hspan, rfl⟩ := Option.map_eq_some_iff.1 hfound
  exact ⟨i, j, hspan, by simp⟩

theorem newline_notMem_place {front digits : List Char} (line : Nat)
    (hfile : '\n' ∉ fileName.toList) (hfront : '\n' ∉ front)
    (hdigits : ∀ d ∈ digits, Named.Letter.digit.unicode.contains d) :
    '\n' ∉ front ++ fileName.toList ++ [':'] ++ (toString line).toList ++ [':'] ++ digits ++
      [':'] := by
  have hline : '\n' ∉ (toString line).toList := fun h =>
    absurd (Decimal.isDigit_of_mem_toString h) (by decide)
  have hcolumn : '\n' ∉ digits := fun h => absurd (hdigits _ h) (by decide)
  simp only [List.mem_append, List.mem_singleton, not_or]
  exact ⟨⟨⟨⟨⟨⟨hfront, hfile⟩, by decide⟩, hline⟩, by decide⟩, hcolumn⟩, by decide⟩

theorem namesPlace_of_takes {front digits : List Char} (hfile : '\n' ∉ fileName.toList)
    (hfront : '\n' ∉ front) (hne : digits ≠ [])
    (hdigits : ∀ d ∈ digits, Named.Letter.digit.unicode.contains d)
    (h : Takes text i j (front ++ fileName.toList ++ [':'] ++ (toString line).toList ++ [':'] ++
      digits ++ [':'])) :
    NamesPlace fileName line ((text.toList.drop i).takeWhile (· ≠ '\n')) := by
  refine ⟨front, digits, (text.toList.drop j).takeWhile (· ≠ '\n'), ?_, hne, hdigits⟩
  rw [h, List.takeWhile_append_of_pos]
  · simp
  · intro c hc
    have hnewline := newline_notMem_place line hfile hfront hdigits
    have hne : c ≠ '\n' := fun e => hnewline (e ▸ hc)
    simpa using hne

theorem newline_of_lineStart (hi : i ≤ text.size)
    (h : (Look.lineStart false).holds (if i = 0 then none else text[i - 1]?) text[i]?) :
    ∀ c ∈ (text.toList.take i).getLast?, c = '\n' := by
  intro c hc
  rw [List.getLast?_take] at hc
  split at hc
  · cases hc
  · next hzero =>
    have hlt : i - 1 < text.size := by omega
    rw [Array.getElem?_toList, Array.getElem?_eq_getElem hlt, Option.some_or] at hc
    simp only [if_neg hzero, Array.getElem?_eq_getElem hlt, Look.holds, Option.all_some,
      decide_eq_true_eq] at h
    exact (Option.some.inj hc).symm.trans h

/-- A matcher answers for its own place, if its fragment leaves the end of a line to the pattern. -/
theorem find?_answersFor (hfile : '\n' ∉ fileName.toList) (hends : keepsEnd polarity fragment)
    (hm : forPlace polarity fileName line fragment source = .ok m)
    (hfound : m.find? diagnostics = some found) :
    m.AnswersFor fileName line diagnostics found := by
  obtain ⟨t, item, items, htail, houter, hframe, hlast⟩ := exists_of_keepsEnd hends
  obtain ⟨form, hform, hexpr⟩ := exists_form_of_forPlace hm
  obtain rfl := read?_patternText htail houter (by rw [hframe]) hform
  obtain ⟨i, j, hspan, htaken⟩ := span?_of_find? hfound
  obtain ⟨hi, hspans⟩ := Program.find?_ofExpr_spans hspan
  have hij := hspans.le
  have hj := hspans.le_size hi
  rw [List.size_toArray] at hi hj
  rw [hexpr, Form.spans_seq_iff, hframe] at hspans
  simp only [List.map_cons, List.reverse_cons] at hspans
  obtain ⟨k, hplace, hrest⟩ := Form.spans_append_iff.1 hspans
  rw [← List.cons_append, Form.spans_append_iff] at hrest
  obtain ⟨l, -, hend⟩ := hrest
  rw [Form.spans_cons_iff] at hend
  simp only [Form.spans_nil_iff, exists_eq_right] at hend
  obtain ⟨rfl, hend⟩ := holds_of_endsLine hlast hend
  obtain ⟨hbegins, front, digits, hfront, hne, hdigits, htakes⟩ := takes_of_placeForms hplace
  have hline : found.toList ++ diagnostics.toList.drop l = diagnostics.toList.drop i := by
    have := List.take_append_drop (l - i) (diagnostics.toList.drop i)
    rwa [List.drop_drop, Nat.add_sub_cancel' hij, ← htaken] at this
  refine ⟨diagnostics.toList.take i, diagnostics.toList.drop l, ?_, ?_, ?_, ?_, ?_⟩
  · rw [List.append_assoc, hline, List.take_append_drop]
  · have hlength : found.length = l - i := by
      rw [← String.length_toList, htaken, List.length_take, List.length_drop]
      omega
    rw [hspan, List.length_take, Nat.min_eq_left hi, hlength, Nat.add_sub_cancel' hij]
  · exact newline_of_lineStart (by rwa [List.size_toArray]) hbegins
  · rw [List.head?_drop]
    simpa using hend
  · rw [hline]
    exact namesPlace_of_takes hfile hfront hne hdigits htakes

theorem find?_answersFor_grouped_choice :
    ∃ m, forPlace .present "f.go" 1 "(a|b)" "" = .ok m ∧
      m.find? "x\nf.go:1:2: b\nb" = some "f.go:1:2: b" ∧
      m.AnswersFor "f.go" 1 "x\nf.go:1:2: b\nb" "f.go:1:2: b" := by
  have hfinds : (forPlace .present "f.go" 1 "(a|b)" "").toOption.bind
      (find? · "x\nf.go:1:2: b\nb") = some "f.go:1:2: b" := by decide +kernel
  obtain ⟨m, hm, hfound⟩ := Option.bind_eq_some_iff.1 hfinds
  rw [Except.toOption_eq_some_iff] at hm
  exact ⟨m, hm, hfound, find?_answersFor (by decide) (by decide +kernel) hm hfound⟩

-- a comment takes in the end of the line, and carriage returns end lines of their own
example : keepsEnd .present "(?x)a#" = false ∧ keepsEnd .present "(?R)a" = false := by
  decide +kernel

theorem find?_not_answersFor_choice :
    ∃ m, forPlace .present "f.go" 1 "a|b" "" = .ok m ∧ (Pattern.ofText "a|b").toOption.isSome ∧
      m.find? "b" = some "b" ∧ ¬ m.AnswersFor "f.go" 1 "b" "b" := by
  have hfinds : (forPlace .present "f.go" 1 "a|b" "").toOption.bind (find? · "b") = some "b" := by
    decide +kernel
  obtain ⟨m, hm, hfound⟩ := Option.bind_eq_some_iff.1 hfinds
  rw [Except.toOption_eq_some_iff] at hm
  refine ⟨m, hm, by decide +kernel, hfound, ?_⟩
  rintro ⟨before, after, hsplit, -, -, -, front, digits, back, hplace, -⟩
  have hlength := congrArg List.length hsplit
  have hline := (List.takeWhile_prefix (· ≠ '\n') (l := "b".toList ++ after)).length_le
  rw [hplace] at hline
  simp at hlength hline
  omega

end Matcher

end InlineAssert
