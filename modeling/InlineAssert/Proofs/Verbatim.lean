import InlineAssert.Proofs.FirstLine
import InlineAssert.Proofs.Location

namespace InlineAssert

namespace Pattern

namespace Form

theorem drop_of_append {text cs rest : List Char} {i : Nat} (h : text.drop i = cs ++ rest) :
    text.drop (i + cs.length) = rest := by
  rw [← List.drop_drop, h, List.drop_left]

def Writes (fs : List Form) (cs : List Char) : Prop :=
  ∀ (text : Array Char) (i : Nat) (rest : List Char), text.toList.drop i = cs ++ rest →
    Spans text fs i (i + cs.length)

namespace Writes

theorem append {fs gs : List Form} {cs ds : List Char} (hfs : Writes fs cs) (hgs : Writes gs ds) :
    Writes (fs ++ gs) (cs ++ ds) := by
  intro text i rest h
  rw [spans_append_iff, List.length_append, ← Nat.add_assoc]
  rw [List.append_assoc] at h
  exact ⟨i + cs.length, hfs text i (ds ++ rest) h, hgs text _ rest (drop_of_append h)⟩

theorem spans_one {s : CharSet} {c : Char} (hc : s.contains c) {text : Array Char} {i : Nat}
    {rest : List Char} (h : text.toList.drop i = c :: rest) :
    (Expr.one s).Spans text i (i + 1) := by
  have hat : text[i]? = some c := by
    rw [← Array.getElem?_toList, ← List.head?_drop, h, List.head?_cons]
  exact .one hat hc

theorem spans_star {s : CharSet} {greedy : Bool} {cs : List Char} (hcs : ∀ c ∈ cs, s.contains c)
    {text : Array Char} {i : Nat} {rest : List Char} (h : text.toList.drop i = cs ++ rest) :
    (Expr.star greedy (.one s)).Spans text i (i + cs.length) := by
  induction cs generalizing i with
  | nil => exact .starStop
  | cons c cs ih =>
    have hrest : text.toList.drop (i + [c].length) = cs ++ rest := drop_of_append h
    have hmore := ih (fun d hd => hcs d (List.mem_cons_of_mem _ hd)) hrest
    rw [List.length_cons, Nat.add_comm cs.length, ← Nat.add_assoc]
    exact .starStep (spans_one (hcs c List.mem_cons_self) h) hmore

theorem word (c : Char) : Writes [.word [c]] [c] := by
  intro text i rest h
  exact spans_cons_iff.2 ⟨_, spans_one (contains_single_iff.2 rfl) h, spans_nil_iff.2 rfl⟩

theorem letters (cs : List Char) : Writes (letters cs) cs := by
  induction cs with
  | nil => exact fun _ _ _ _ => spans_nil_iff.2 rfl
  | cons c cs ih => exact (word c).append ih

theorem anything {cs : List Char} (hcs : '\n' ∉ cs) : Writes [.anything] cs := by
  intro text i rest h
  have hall : ∀ c ∈ cs, CharSet.contains ⟨[0, 0x0a, 0x0b]⟩ c := by
    intro c hc
    have hne : c.toNat ≠ 10 := by
      intro e
      obtain rfl : c = '\n' := Char.ext (UInt32.toNat_inj.1 e)
      exact hcs hc
    simp only [CharSet.contains, CharSet.hasCode, CharSet.inside, Nat.not_lt_zero, if_false]
    split <;> [rfl; (rw [if_neg (by omega)]; rfl)]
  exact spans_cons_iff.2 ⟨_, spans_star hall h, spans_nil_iff.2 rfl⟩

theorem number {cs : List Char} (hne : cs ≠ [])
    (hcs : ∀ c ∈ cs, Named.Letter.digit.unicode.contains c) : Writes [.number] cs := by
  intro text i rest h
  cases cs with
  | nil => exact absurd rfl hne
  | cons c cs =>
    have hrest : text.toList.drop (i + [c].length) = cs ++ rest := drop_of_append h
    have hfirst := spans_one (hcs c List.mem_cons_self) h
    have hmore : (Expr.star true (.one Named.Letter.digit.unicode)).Spans text (i + 1) _ :=
      spans_star (fun d hd => hcs d (List.mem_cons_of_mem _ hd)) hrest
    rw [List.length_cons, Nat.add_comm cs.length, ← Nat.add_assoc]
    exact spans_cons_iff.2 ⟨_, .plus hfirst hmore, spans_nil_iff.2 rfl⟩

end Writes

end Form

namespace Reader

variable {items : List Item} {r : Reader}

theorem Reads.dollar (h : Reads (onLine items) ['$'] r) :
    r = onLine ({ form := .look (.lineEnd false) } :: items) :=
  Reads.unique (h.of_step rfl rfl) (.done rfl)

theorem form_of_finish_onLine {form : Form} (hitems : 2 ≤ items.length)
    (h : (onLine items).finish = some form) : form = .seq (items.reverse.map (·.form)) :=
  finish_eq_seq (t := onLine []) rfl rfl hitems h

end Reader

end Pattern

namespace Matcher

open Pattern Pattern.Reader

def Says : Polarity → (text message : List Char) → Prop
  | .present, text, message => message = ' ' :: text
  | .absent, text, message => text <:+: message

def Reports (polarity : Polarity) (fileName : String) (line : Nat) (text : String)
    (found : List Char) : Prop :=
  ∃ front digits message, found = front ++ fileName.toList ++ ':' :: (toString line).toList ++
      ':' :: digits ++ ':' :: message ∧
    digits ≠ [] ∧ (∀ d ∈ digits, Named.Letter.digit.unicode.contains d) ∧
    Says polarity text.toList message

def messageForms (polarity : Polarity) (text : String) : List Form :=
  match polarity with
  | .present => .word [' '] :: Form.letters text.toList
  | .absent => .anything :: (Form.letters text.toList ++ [.anything])

def lineForms (polarity : Polarity) (fileName : String) (line : Nat) (text : String) : List Form :=
  placeForms fileName line ++ (messageForms polarity text ++ [.look (.lineEnd false)])

variable {polarity : Polarity} {fileName text source diagnostics : String} {line : Nat}

theorem read?_escape {form : Form}
    (h : Form.read? (patternText polarity fileName line (Pattern.escape text)).toList = some form) :
    form = .seq (lineForms polarity fileName line text) := by
  obtain ⟨r, hread, hfinish⟩ := Option.bind_eq_some_iff.1 h
  have hreads := reads_of_read hread
  rw [toList_patternText] at hreads
  cases polarity with
  | present =>
    simp only [joint, tail, Pattern.escape, String.toList_ofList] at hreads
    obtain rfl := (hreads.place.literal (by decide)).name.dollar
    refine (form_of_finish_onLine ?_ hfinish).trans ?_
    · simp [placeItems]
      omega
    simp [lineForms, messageForms, placeItems, placeForms, charItems, Form.letters,
      Function.comp_def]
  | absent =>
    simp only [joint, tail, Pattern.escape, String.toList_ofList] at hreads
    have hnext : ['.', '*', '$'].head? ≠ some '?' := by decide
    obtain rfl := ((hreads.place.anything (head?_escape_append _ hnext)).name.anything
      (by decide)).dollar
    refine (form_of_finish_onLine ?_ hfinish).trans ?_
    · simp [placeItems]
    simp [lineForms, messageForms, placeItems, placeForms, charItems, Form.letters,
      Function.comp_def]

variable {chars : Array Char} {i j : Nat}

theorem exists_message (htext : '\n' ∉ text.toList)
    (h : Form.Spans chars (messageForms polarity text) i j) :
    ∃ message, '\n' ∉ message ∧ Takes chars i j message ∧ Says polarity text.toList message := by
  cases polarity with
  | present =>
    obtain ⟨k, hblank, hletters⟩ := Form.spans_cons_iff.1 h
    exact ⟨' ' :: text.toList, by simpa using htext, (Takes.word hblank).append (.letters hletters),
      rfl⟩
  | absent =>
    obtain ⟨k, hgap, hmore⟩ := Form.spans_cons_iff.1 h
    obtain ⟨l, hletters, hback⟩ := Form.spans_append_iff.1 hmore
    simp only [Form.spans_cons_iff, Form.spans_nil_iff, exists_eq_right] at hback
    obtain ⟨gap, hgap', hgap⟩ := Takes.anything hgap
    obtain ⟨back, hback', hback⟩ := Takes.anything hback
    refine ⟨gap ++ text.toList ++ back, by simp [hgap', htext, hback'],
      (hgap.append (.letters hletters)).append hback, gap, back, rfl⟩

theorem writes_message {message : List Char} (hmessage : '\n' ∉ message)
    (h : Says polarity text.toList message) : Form.Writes (messageForms polarity text) message := by
  cases polarity with
  | present =>
    cases h
    exact (Form.Writes.word ' ').append (.letters text.toList)
  | absent =>
    obtain ⟨gap, back, rfl⟩ := h
    simp only [List.mem_append, not_or] at hmessage
    have hback := (Form.Writes.letters text.toList).append (.anything hmessage.2)
    rw [List.append_assoc]
    exact (Form.Writes.anything hmessage.1.1).append hback

def restForms (fileName : String) (line : Nat) : List Form :=
  .anything :: (Form.letters fileName.toList ++ .word [':'] ::
    (Form.letters (toString line).toList ++ [.word [':'], .number, .word [':']]))

theorem placeForms_eq (fileName : String) (line : Nat) :
    placeForms fileName line = .empty :: .look (.lineStart false) :: restForms fileName line := by
  simp [placeForms, restForms]

theorem writes_line {found : List Char} (hfound : '\n' ∉ found)
    (h : Reports polarity fileName line text found) :
    Form.Writes (restForms fileName line ++ messageForms polarity text) found := by
  obtain ⟨front, digits, message, rfl, hne, hdigits, hsays⟩ := h
  have hfront : '\n' ∉ front := fun hmem => hfound (by simp [hmem])
  have hmessage : '\n' ∉ message := fun hmem => hfound (by simp [hmem])
  have hcolon := Form.Writes.word ':'
  have hcolumn := hcolon.append ((Form.Writes.number hne hdigits).append hcolon)
  have hline := hcolon.append ((Form.Writes.letters (toString line).toList).append hcolumn)
  have hplace := (Form.Writes.anything hfront).append
    ((Form.Writes.letters fileName.toList).append hline)
  simpa [restForms] using hplace.append (writes_message hmessage hsays)

theorem takes_of_lineForms (htext : '\n' ∉ text.toList)
    (h : Form.Spans chars (lineForms polarity fileName line text) i j) :
    (Look.lineStart false).holds (if i = 0 then none else chars[i - 1]?) chars[i]? ∧
      (∀ c ∈ chars[j]?, c = '\n') ∧
      ∃ found, Takes chars i j found ∧ Reports polarity fileName line text found ∧
        ('\n' ∉ fileName.toList → '\n' ∉ found) := by
  obtain ⟨k, hplace, hrest⟩ := Form.spans_append_iff.1 h
  obtain ⟨l, hmessage, hend⟩ := Form.spans_append_iff.1 hrest
  rw [Form.spans_cons_iff] at hend
  simp only [Form.spans_nil_iff, exists_eq_right] at hend
  obtain ⟨rfl, hnewline⟩ := holds_of_endsLine rfl hend
  obtain ⟨hbegins, front, digits, hfront, hne, hdigits, htakes⟩ := takes_of_placeForms hplace
  obtain ⟨message, hmessage', hmessage, hsays⟩ := exists_message htext hmessage
  refine ⟨hbegins, hnewline, _, htakes.append hmessage,
    ⟨front, digits, message, by simp, hne, hdigits, hsays⟩, ?_⟩
  intro hfile hmem
  cases List.mem_append.1 hmem with
  | inl hmem => exact newline_notMem_place line hfile hfront hdigits hmem
  | inr hmem => exact hmessage' hmem

theorem lineStart_of_newline {before : List Char} (h : ∀ c ∈ before.getLast?, c = '\n')
    (rest : List Char) (next : Option Char) :
    (Look.lineStart false).holds
      (if before.length = 0 then none else (before ++ rest).toArray[before.length - 1]?) next := by
  rcases List.eq_nil_or_concat' before with rfl | ⟨front, c, rfl⟩
  · rfl
  · obtain rfl := h c (by simp)
    simp [Look.holds]

theorem spans_lineForms {found rest : List Char} (hfound : '\n' ∉ found)
    (h : Reports polarity fileName line text found) (hdrop : chars.toList.drop i = found ++ rest)
    (hbegins : (Look.lineStart false).holds (if i = 0 then none else chars[i - 1]?) chars[i]?)
    (hrest : ∀ c ∈ rest.head?, c = '\n') :
    Form.Spans chars (lineForms polarity fileName line text) i (i + found.length) := by
  have hends : chars[i + found.length]? = rest.head? := by
    rw [← Array.getElem?_toList, ← List.head?_drop, Form.drop_of_append hdrop]
  have hlook : (Look.lineEnd false).holds (if i + found.length = 0 then none
      else chars[i + found.length - 1]?) chars[i + found.length]? := by
    rw [hends]
    cases rest with
    | nil => rfl
    | cons c rest => simpa [Look.holds] using hrest
  rw [lineForms, placeForms_eq, List.cons_append, List.cons_append, ← List.append_assoc]
  refine Form.spans_cons_iff.2 ⟨i, .empty, Form.spans_cons_iff.2 ⟨i, .look hbegins, ?_⟩⟩
  refine Form.spans_append_iff.2 ⟨_, writes_line hfound h chars i rest hdrop, ?_⟩
  exact Form.spans_cons_iff.2 ⟨_, .look hlook, Form.spans_nil_iff.2 rfl⟩

theorem matchesLines_lineForms (hfile : '\n' ∉ fileName.toList) (htext : '\n' ∉ text.toList)
    (chars : List Char) :
    Program.MatchesLines (Form.seq (lineForms polarity fileName line text)).toExpr
      (Reports polarity fileName line text) chars := by
  intro i hi j
  constructor
  · intro hspans
    have hij := hspans.le
    have hj := hspans.le_size (by simpa using hi)
    obtain ⟨hbegins, hends, found, htakes, hreports, hnewline⟩ :=
      takes_of_lineForms htext (Form.spans_seq_iff.1 hspans)
    have htakes : chars.drop i = found ++ chars.drop j := htakes
    have hlength := congrArg List.length htakes
    simp only [List.length_drop, List.length_append, List.size_toArray] at hlength hj
    refine ⟨found, ⟨chars.take i, chars.drop j, ?_, ?_, hnewline hfile, ?_, ?_⟩, hreports, by omega⟩
    · rw [List.append_assoc, ← htakes, List.take_append_drop]
    · rw [List.length_take, Nat.min_eq_left hi]
    · have hi : i ≤ chars.toArray.size := by simpa using hi
      exact newline_of_lineStart hi hbegins
    · rw [List.head?_drop]
      simpa using hends
  · rintro ⟨found, ⟨before, after, rfl, rfl, hfound, hbefore, hafter⟩, hreports, rfl⟩
    rw [Form.spans_seq_iff]
    apply spans_lineForms hfound hreports (by simp) _ hafter
    rw [List.append_assoc]
    exact lineStart_of_newline hbefore _ _

variable {m : Matcher}

theorem matchesLines_of_forPlace (hfile : '\n' ∉ fileName.toList) (htext : '\n' ∉ text.toList)
    (hm : forPlace polarity fileName line (Pattern.escape text) source = .ok m)
    (chars : List Char) :
    Program.MatchesLines m.pattern.expr (Reports polarity fileName line text) chars := by
  obtain ⟨form, hform, hexpr⟩ := exists_form_of_forPlace hm
  obtain rfl := read?_escape hform
  rw [hexpr]
  exact matchesLines_lineForms hfile htext chars

theorem find?_eq_none_iff_of_lines {P : List Char → Prop}
    (h : Program.MatchesLines m.pattern.expr P diagnostics.toList) :
    m.find? diagnostics = none ↔ ∀ l ∈ Text.pieces '\n' diagnostics.toList, ¬ P l := by
  rw [← Program.find?_eq_none_iff_lines h]
  exact Option.map_eq_none_iff

theorem isFirstLine_of_find? {P : List Char → Prop}
    (h : Program.MatchesLines m.pattern.expr P diagnostics.toList) {found : String}
    (hfound : m.find? diagnostics = some found) :
    Text.IsFirstLine P diagnostics.toList found.toList := by
  obtain ⟨i, j, hspan, htaken⟩ := span?_of_find? hfound
  obtain ⟨l, hfirst, ⟨before, after, hsplit, rfl, -⟩, rfl⟩ :=
    Program.exists_firstLine_of_find? h hspan
  have hl : found.toList = l := by
    rw [htaken, hsplit, List.append_assoc, List.drop_left, Nat.add_sub_cancel_left, List.take_left]
  rwa [hl]

/-- The matcher of a text that is taken as it stands finds the first line that reports the text,
and nothing if no line does. -/
theorem find?_escape_iff (hfile : '\n' ∉ fileName.toList) (htext : '\n' ∉ text.toList)
    (hm : forPlace polarity fileName line (Pattern.escape text) source = .ok m)
    (diagnostics : String) :
    (∀ found : String, m.find? diagnostics = some found ↔
      Text.IsFirstLine (Reports polarity fileName line text) diagnostics.toList found.toList) ∧
    (m.find? diagnostics = none ↔
      ∀ l ∈ Text.pieces '\n' diagnostics.toList, ¬ Reports polarity fileName line text l) := by
  have hlines := matchesLines_of_forPlace hfile htext hm diagnostics.toList
  refine ⟨fun found => ⟨isFirstLine_of_find? hlines, fun hfirst => ?_⟩,
    find?_eq_none_iff_of_lines hlines⟩
  cases hfind : m.find? diagnostics with
  | none =>
    obtain ⟨before, after, hpieces, hreports, -⟩ := hfirst
    exact absurd hreports
      ((find?_eq_none_iff_of_lines hlines).1 hfind _ (by rw [hpieces]; simp))
  | some other =>
    have hsame := (isFirstLine_of_find? hlines hfind).unique hfirst
    rw [String.toList_inj.1 hsame]

theorem find?_escape_iff_two_places :
    let diagnostics := "a.go:3:1: x+\nz a+b.go:3:7: a+b.go:3:12: x+ (y)\na+b.go:3:9: x+ (y)"
    ∃ m, forPlace .present "a+b.go" 3 (Pattern.escape "x+ (y)") "" = .ok m ∧
      m.find? diagnostics = some "z a+b.go:3:7: a+b.go:3:12: x+ (y)" ∧
      Text.IsFirstLine (Reports .present "a+b.go" 3 "x+ (y)") diagnostics.toList
        "z a+b.go:3:7: a+b.go:3:12: x+ (y)".toList := by
  intro diagnostics
  have hfinds : (forPlace .present "a+b.go" 3 (Pattern.escape "x+ (y)") "").toOption.bind
      (find? · diagnostics) = some "z a+b.go:3:7: a+b.go:3:12: x+ (y)" := by decide +kernel
  obtain ⟨m, hm, hfound⟩ := Option.bind_eq_some_iff.1 hfinds
  rw [Except.toOption_eq_some_iff] at hm
  exact ⟨m, hm, hfound,
    ((find?_escape_iff (by decide) (by decide) hm diagnostics).1 _).1 hfound⟩

end Matcher

end InlineAssert
