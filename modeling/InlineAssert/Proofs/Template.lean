import InlineAssert.Matcher
import InlineAssert.Proofs.Decimal
import InlineAssert.Proofs.Outcome
import InlineAssert.Proofs.Reading

namespace InlineAssert.Pattern

def Form.anything : Form := .repeated 0 none true (.set ⟨[0, 0x0a, 0x0b]⟩)

def Form.number : Form := .repeated 1 none true (.set Named.Letter.digit.unicode)

def Form.letters (cs : List Char) : List Form := cs.map fun c => .word [c]

theorem of_isSpecial {p : Char → Bool} (h : ['\\', '.', '+', '*', '?', '(', ')', '|', '[', ']',
    '\x7b', '\x7d', '^', '$', '#', '&', '-', '~'].all p) {c : Char} (hc : isSpecial c) : p c :=
  List.all_eq_true.1 h c (List.contains_iff_mem.1 hc)

namespace Reader

def onLine (items : List Item) : Reader := { flags := { multiLine := true }, frame := { items } }

variable {items : List Item} {cs : List Char} {r : Reader}

theorem Reads.flag (h : Reads {} ('(' :: '?' :: 'm' :: ')' :: cs) r) :
    Reads (onLine [{ form := .empty, repeatable := false }]) cs r := h.of_step rfl rfl

theorem Reads.caret (h : Reads (onLine items) ('^' :: cs) r) :
    Reads (onLine ({ form := .look (.lineStart false) } :: items)) cs r := h.of_step rfl rfl

theorem Reads.literal {c : Char} (hc : isSpecial c = false) (h : Reads (onLine items) (c :: cs) r) :
    Reads (onLine ({ form := .word [c] } :: items)) cs r := by
  apply h.of_step rfl
  rw [step] <;> first | rfl | (rintro rfl; revert hc; decide)

theorem Reads.escaped {c : Char} (hc : isSpecial c) (h : Reads (onLine items) ('\\' :: c :: cs) r) :
    Reads (onLine ({ form := .word [c] } :: items)) cs r := by
  have hescapable : Token.isEscapable c := of_isSpecial rfl hc
  apply h.of_step rfl
  simp only [step, Token.escape, hescapable, if_true]
  rfl

theorem lazyMark_of_head (h : cs.head? ≠ some '?') : lazyMark cs = (false, cs) := by
  rw [lazyMark]
  rintro cs rfl
  exact h rfl

theorem Reads.anything (hnext : cs.head? ≠ some '?')
    (h : Reads (onLine items) ('.' :: '*' :: cs) r) :
    Reads (onLine ({ form := .anything, height := 1 } :: items)) cs r := by
  have h : Reads (onLine ({ form := .set ⟨[0, 0x0a, 0x0b]⟩ } :: items)) ('*' :: cs) r :=
    h.of_step rfl rfl
  apply h.of_step rfl
  rw [step, quantify, lazyMark_of_head hnext]
  rfl

theorem ofSet_digit : Form.ofSet Named.Letter.digit.unicode = .set Named.Letter.digit.unicode := rfl

theorem Reads.number (hnext : cs.head? ≠ some '?')
    (h : Reads (onLine items) ('\\' :: 'd' :: '+' :: cs) r) :
    Reads (onLine ({ form := .number, height := 1 } :: items)) cs r := by
  have h : Reads (onLine ({ form := .ofSet Named.Letter.digit.unicode } :: items)) ('+' :: cs) r :=
    h.of_step rfl rfl
  apply h.of_step rfl
  rw [step, quantify, lazyMark_of_head hnext, ofSet_digit]
  rfl

def charItems (cs : List Char) : List Item := (cs.map fun c => { form := .word [c] }).reverse

theorem charItems_cons (c : Char) (cs : List Char) :
    charItems (c :: cs) = charItems cs ++ [{ form := .word [c] }] := by
  simp [charItems]

theorem Reads.literals {word : List Char} (hword : ∀ c ∈ word, isSpecial c = false)
    (h : Reads (onLine items) (word ++ cs) r) : Reads (onLine (charItems word ++ items)) cs r := by
  induction word generalizing items with
  | nil => exact h
  | cons c word ih =>
    rw [charItems_cons, List.append_assoc]
    exact ih (fun c hc => hword c (List.mem_cons_of_mem _ hc)) (h.literal (hword c (by simp)))

theorem Reads.name {name : List Char}
    (h : Reads (onLine items)
      ((name.flatMap fun c => if isSpecial c then ['\\', c] else [c]) ++ cs) r) :
    Reads (onLine (charItems name ++ items)) cs r := by
  induction name generalizing items with
  | nil => exact h
  | cons c name ih =>
    rw [charItems_cons, List.append_assoc]
    apply ih
    rw [List.flatMap_cons, List.append_assoc] at h
    by_cases hc : isSpecial c
    · rw [if_pos hc] at h
      exact h.escaped hc
    · rw [if_neg hc] at h
      exact h.literal (by simpa using hc)

theorem isSpecial_of_mem_toString {n : Nat} {c : Char} (hc : c ∈ (toString n).toList) :
    isSpecial c = false := by
  have hdigit : c.isDigit := Decimal.isDigit_of_mem_toString hc
  cases hspecial : isSpecial c with
  | false => rfl
  | true =>
    have hother : !c.isDigit := of_isSpecial (p := fun c => !c.isDigit) rfl hspecial
    rw [hdigit] at hother
    cases hother

theorem head?_escape_append (name : List Char) (hcs : cs.head? ≠ some '?') :
    ((name.flatMap fun c => if isSpecial c then ['\\', c] else [c]) ++ cs).head? ≠ some '?' := by
  cases name with
  | nil => exact hcs
  | cons c name =>
    by_cases hc : isSpecial c
    · simp [hc]
    · have : c ≠ '?' := by
        rintro rfl
        exact hc (by decide)
      simpa [hc] using this

def placeItems (fileName : String) (line : Nat) : List Item :=
  { form := .word [':'] } :: { form := .number, height := 1 } :: { form := .word [':'] } ::
    (charItems (toString line).toList ++ { form := .word [':'] } ::
      (charItems fileName.toList ++ [{ form := .anything, height := 1 },
        { form := .look (.lineStart false) }, { form := .empty, repeatable := false }]))

theorem Reads.place {fileName : String} {line : Nat}
    (h : Reads {} ('(' :: '?' :: 'm' :: ')' :: '^' :: '.' :: '*' ::
      ((fileName.toList.flatMap fun c => if isSpecial c then ['\\', c] else [c]) ++ ':' ::
        ((toString line).toList ++ ':' :: '\\' :: 'd' :: '+' :: ':' :: cs))) r) :
    Reads (onLine (placeItems fileName line)) cs r := by
  have h := h.flag.caret.anything (head?_escape_append _ (by simp))
  have h := (h.name.literal (by decide)).literals fun c hc => isSpecial_of_mem_toString hc
  exact ((h.literal (by decide)).number (by simp)).literal (by decide)

theorem Reads.head?_ne (h : Reads (onLine []) cs r) : cs.head? ≠ some '?' := by
  intro hcs
  obtain ⟨more, rfl⟩ := List.head?_eq_some_iff.1 hcs
  cases h with
  | done hskip => cases hskip
  | next hskip hstep =>
    cases hskip
    cases hstep

theorem finish_eq_seq {t : Reader} {lead : List Item} {form : Form} (houter : t.outer = [])
    (hbranches : t.frame.branches = []) (hlead : 2 ≤ lead.length)
    (h : (t.onto lead).finish = some form) :
    form = .seq ((t.frame.items ++ lead).reverse.map (·.form)) := by
  obtain ⟨flags, ⟨branches, items⟩, outer, names⟩ := t
  cases houter
  cases hbranches
  have hclose : (Frame.close ⟨[], items ++ lead⟩).form =
      .seq ((items ++ lead).reverse.map (·.form)) := by
    rw [Frame.close, Frame.branch, Item.branch]
    · intro hnil
      simp at hnil
      simp [hnil.2] at hlead
    · intro item hitem
      have := congrArg List.length hitem
      simp at this
      omega
  obtain ⟨-, h⟩ := Option.ite_none_right_eq_some.1 h
  exact (Option.some.inj h).symm.trans hclose

end Reader

end InlineAssert.Pattern

namespace InlineAssert.Matcher

open Pattern Pattern.Reader

def joint : Polarity → List Char
  | .present => [' ']
  | .absent => ['.', '*']

def tail : Polarity → (fragment : String) → List Char
  | .present, fragment => fragment.toList ++ ['$']
  | .absent, fragment => fragment.toList ++ ['.', '*', '$']

theorem toList_patternText (polarity : Polarity) (fileName : String) (line : Nat)
    (fragment : String) :
    (patternText polarity fileName line fragment).toList =
      '(' :: '?' :: 'm' :: ')' :: '^' :: '.' :: '*' ::
        ((fileName.toList.flatMap fun c => if Pattern.isSpecial c then ['\\', c] else [c]) ++ ':' ::
          ((toString line).toList ++ ':' :: '\\' :: 'd' :: '+' :: ':' ::
            (joint polarity ++ tail polarity fragment))) := by
  have hplace : "(?m)^.*".toList = ['(', '?', 'm', ')', '^', '.', '*'] := rfl
  have hcolumn : ":\\d+:".toList = [':', '\\', 'd', '+', ':'] := rfl
  cases polarity with
  | present =>
    simp [patternText, Pattern.escape, hplace, hcolumn, joint, tail]
  | absent =>
    have hany : ".*".toList = ['.', '*'] := rfl
    have hend : ".*$".toList = ['.', '*', '$'] := rfl
    simp [patternText, Pattern.escape, hplace, hcolumn, hany, hend, joint, tail]

def placeForms (fileName : String) (line : Nat) : List Form :=
  [.empty, .look (.lineStart false), .anything] ++ Form.letters fileName.toList ++ [.word [':']] ++
    Form.letters (toString line).toList ++ [.word [':'], .number, .word [':']]

def jointForm : Polarity → Form
  | .present => .word [' ']
  | .absent => .anything

/-- A pattern is the place, the joint and what its tail is read to, one after the other. -/
theorem read?_patternText {polarity : Polarity} {fileName fragment : String} {line : Nat}
    {form : Form} {t : Reader} (ht : Reads (onLine []) (tail polarity fragment) t)
    (houter : t.outer = []) (hbranches : t.frame.branches = [])
    (h : Form.read? (patternText polarity fileName line fragment).toList = some form) :
    form = .seq (placeForms fileName line ++ jointForm polarity ::
      (t.frame.items.map (·.form)).reverse) := by
  obtain ⟨r, hread, hfinish⟩ := Option.bind_eq_some_iff.1 h
  have hreads := reads_of_read hread
  rw [toList_patternText] at hreads
  obtain ⟨joined, hjoined, hreads⟩ : ∃ item : Item, item.form = jointForm polarity ∧
      Reads (onLine (item :: placeItems fileName line)) (tail polarity fragment) r := by
    cases polarity with
    | present => exact ⟨_, rfl, hreads.place.literal (by decide)⟩
    | absent => exact ⟨_, rfl, hreads.place.anything ht.head?_ne⟩
  have hbottom : t.bottom.branches = [] := by
    rw [bottom, houter]
    exact hbranches
  -- the fragment is read on top of the place as it is read by itself
  obtain rfl : r = t.onto (joined :: placeItems fileName line) :=
    hreads.unique (ht.onto hbottom)
  rw [finish_eq_seq houter hbranches (by simp [placeItems]) hfinish]
  simp [placeItems, placeForms, charItems, Form.letters, hjoined, Function.comp_def]

end InlineAssert.Matcher
