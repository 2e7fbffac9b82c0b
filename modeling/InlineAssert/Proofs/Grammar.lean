import InlineAssert.Directive
import Mathlib.Data.List.TakeWhile
import Mathlib.Tactic.SplitIfs

namespace InlineAssert

namespace Text

def whiteSpace : List Char := [
  '\x09', '\x0a', '\x0b', '\x0c', '\x0d', ' ', '\u0085', '\u00a0', '\u1680', '\u2000', '\u2001',
  '\u2002', '\u2003', '\u2004', '\u2005', '\u2006', '\u2007', '\u2008', '\u2009', '\u200a',
  '\u2028', '\u2029', '\u202f', '\u205f', '\u3000']

theorem isBlank_iff {c : Char} : isBlank c ↔ c ∈ whiteSpace := by
  have hcode : c ∈ whiteSpace ↔ c.toNat ∈ whiteSpace.map Char.toNat := by
    refine ⟨List.mem_map_of_mem, fun h => ?_⟩
    obtain ⟨d, hd, heq⟩ := List.mem_map.1 h
    rwa [← Char.toNat_inj.1 heq]
  have hcodes : whiteSpace.map Char.toNat = [
      0x09, 0x0a, 0x0b, 0x0c, 0x0d, 0x20, 0x85, 0xa0, 0x1680, 0x2000, 0x2001, 0x2002, 0x2003,
      0x2004, 0x2005, 0x2006, 0x2007, 0x2008, 0x2009, 0x200a, 0x2028, 0x2029, 0x202f, 0x205f,
      0x3000] := rfl
  rw [hcode, hcodes]
  simp only [isBlank, Bool.or_eq_true, Bool.and_eq_true, decide_eq_true_eq, List.mem_cons,
    List.not_mem_nil, or_false]
  omega

theorem after?_eq_some_iff {lead cs rest : List Char} :
    after? lead cs = some rest ↔ cs = lead ++ rest :=
  ⟨eq_append_of_after?, fun h => h ▸ after?_append lead rest⟩

theorem dropWhile_isBlank_eq_append_iff {cs rest : List Char} {mark : Char} (h : ¬ isBlank mark) :
    cs.dropWhile isBlank = mark :: rest ↔
      ∃ blanks, (∀ c ∈ blanks, isBlank c) ∧ cs = blanks ++ mark :: rest := by
  constructor
  · intro hdrop
    refine ⟨cs.takeWhile isBlank, fun _ => List.mem_takeWhile_imp, ?_⟩
    rw [← hdrop, List.takeWhile_append_dropWhile]
  · rintro ⟨blanks, hblanks, rfl⟩
    rw [List.dropWhile_append_of_pos hblanks, List.dropWhile_cons_of_neg h]

end Text

namespace Directive

def print (d : Directive) : String :=
  "// lem." ++ d.id ++ "." ++ d.key.print ++ "=" ++ d.value

theorem Key.read?_print (k : Key) : Key.read? k.print.toList = some k := by
  rcases k with _ | _ | _ | (_ | _) <;> rfl

theorem Key.equals_not_mem_print (k : Key) : '=' ∉ k.print.toList := by
  rcases k with _ | _ | _ | (_ | _) <;> decide

def entry (d : Directive) : List Char :=
  d.id.toList ++ '.' :: (d.key.print.toList ++ '=' :: d.value.toList)

theorem toList_print (d : Directive) :
    d.print.toList = ['/', '/'] ++ ' ' :: (['l', 'e', 'm', '.'] ++ d.entry) := by
  simp [print, entry]

inductive Key.Spelled : Key → String → Prop
  | name : Spelled .name "name"
  | alloc : Spelled .alloc "alloc"
  | bytes : Spelled .bytes "bytes"
  | present : Spelled (.diagnostic .present) "m"
  | absent : Spelled (.diagnostic .absent) "m!"

theorem Key.spelled_iff {k : Key} {s : String} : k.Spelled s ↔ s = k.print := by
  constructor
  · rintro (_ | _ | _ | _ | _) <;> rfl
  · rintro rfl
    rcases k with _ | _ | _ | (_ | _)
    · exact .name
    · exact .alloc
    · exact .bytes
    · exact .present
    · exact .absent

theorem Key.read?_eq_some_iff {cs : List Char} {k : Key} :
    Key.read? cs = some k ↔ cs = k.print.toList := by
  constructor
  · intro h
    simpa [eq_comm] using List.find?_some h
  · rintro rfl
    exact k.read?_print

structure Spelling (d : Directive) (blanks comment : String) : Prop where
  comment_eq : ∃ key, d.key.Spelled key ∧
    comment = "//" ++ blanks ++ "lem." ++ d.id ++ "." ++ key ++ "=" ++ d.value
  blanks_white : ∀ c ∈ blanks.toList, c ∈ Text.whiteSpace
  id_ne : d.id ≠ ""
  id_plain : '.' ∉ d.id.toList
  value_ne : d.value ≠ ""

theorem readChars?_eq_some_iff {comment : List Char} {d : Directive} :
    readChars? comment = some d ↔
      (∃ blanks, (∀ c ∈ blanks, Text.isBlank c) ∧
        comment = ['/', '/'] ++ (blanks ++ (['l', 'e', 'm', '.'] ++ d.entry))) ∧
      d.id ≠ "" ∧ '.' ∉ d.id.toList ∧ d.value ≠ "" := by
  have hmark : ¬ Text.isBlank 'l' := by decide
  constructor
  · intro h
    simp only [readChars?, bind, Option.bind_eq_some_iff, Text.after?_eq_some_iff, Prod.exists,
      Text.splitOnce?_eq_some, Key.read?_eq_some_iff] at h
    obtain ⟨body, rfl, rest, hbody, id, rest, ⟨rfl, hid⟩, key, value, ⟨rfl, -⟩, k, rfl, h⟩ := h
    obtain ⟨blanks, hblanks, rfl⟩ := (Text.dropWhile_isBlank_eq_append_iff hmark).1 hbody
    split_ifs at h with hempty
    obtain rfl := Option.some.inj h
    simp only [Bool.or_eq_true, List.isEmpty_iff, not_or] at hempty
    refine ⟨⟨blanks, hblanks, ?_⟩, ?_, ?_, ?_⟩
    · simp [entry]
    · simpa using hempty.1
    · simpa using hid
    · simpa using hempty.2
  · rintro ⟨⟨blanks, hblanks, rfl⟩, hid, hdot, hvalue⟩
    have hbody : (blanks ++ (['l', 'e', 'm', '.'] ++ d.entry)).dropWhile Text.isBlank =
        ['l', 'e', 'm', '.'] ++ d.entry :=
      (Text.dropWhile_isBlank_eq_append_iff hmark).2 ⟨blanks, hblanks, rfl⟩
    have hsplit : Text.splitOnce? '.' d.entry =
        some (d.id.toList, d.key.print.toList ++ '=' :: d.value.toList) :=
      Text.splitOnce?_eq_some.2 ⟨rfl, hdot⟩
    have hsplit' : Text.splitOnce? '=' (d.key.print.toList ++ '=' :: d.value.toList) =
        some (d.key.print.toList, d.value.toList) :=
      Text.splitOnce?_eq_some.2 ⟨rfl, d.key.equals_not_mem_print⟩
    rw [readChars?]
    simp only [bind, Option.bind_some, Text.after?_append, hbody, hsplit, hsplit', Key.read?_print]
    simp [hid, hvalue]

theorem read?_print {d : Directive} (hid : d.id ≠ "") (hdot : '.' ∉ d.id.toList)
    (hvalue : d.value ≠ "") : read? d.print = some d :=
  readChars?_eq_some_iff.2
    ⟨⟨[' '], List.forall_mem_singleton.2 rfl, d.toList_print⟩, hid, hdot, hvalue⟩

namespace Spelling

variable {d : Directive} {blanks comment : String}

theorem toList_eq (h : Spelling d blanks comment) :
    comment.toList = ['/', '/'] ++ (blanks.toList ++ (['l', 'e', 'm', '.'] ++ d.entry)) := by
  obtain ⟨key, hkey, rfl⟩ := h.comment_eq
  obtain rfl := Key.spelled_iff.1 hkey
  simp [entry]

theorem read?_eq (h : Spelling d blanks comment) : read? comment = some d := by
  have hblanks : ∀ c ∈ blanks.toList, Text.isBlank c := fun c hc =>
    Text.isBlank_iff.2 (h.blanks_white c hc)
  exact readChars?_eq_some_iff.2
    ⟨⟨blanks.toList, hblanks, h.toList_eq⟩, h.id_ne, h.id_plain, h.value_ne⟩

end Spelling

theorem exists_spelling_of_read? {comment : String} {d : Directive} (h : read? comment = some d) :
    ∃ blanks, Spelling d blanks comment := by
  obtain ⟨⟨blanks, hblanks, hcomment⟩, hid, hdot, hvalue⟩ := readChars?_eq_some_iff.1 h
  refine ⟨.ofList blanks, ⟨d.key.print, Key.spelled_iff.2 rfl, ?_⟩, ?_, hid, hdot, hvalue⟩
  · rw [← String.toList_inj, hcomment]
    simp [entry]
  · rw [String.toList_ofList]
    exact fun c hc => Text.isBlank_iff.1 (hblanks c hc)

/-- A comment is read as a directive exactly if it spells that directive. It spells at most one, and
in one way. -/
theorem read?_eq_some_iff_spelling (comment : String) :
    (∀ d, read? comment = some d ↔ ∃ blanks, Spelling d blanks comment) ∧
      (read? comment = none ↔ ∀ d blanks, ¬ Spelling d blanks comment) ∧
      ∀ d d' blanks blanks', Spelling d blanks comment → Spelling d' blanks' comment →
        d' = d ∧ blanks' = blanks := by
  have hread (d : Directive) : read? comment = some d ↔ ∃ blanks, Spelling d blanks comment :=
    ⟨exists_spelling_of_read?, fun ⟨_, h⟩ => h.read?_eq⟩
  refine ⟨hread, ?_, fun d d' blanks blanks' h h' => ?_⟩
  · rw [Option.eq_none_iff_forall_ne_some]
    exact forall_congr' fun d => by rw [ne_eq, hread, not_exists]
  · obtain rfl : d' = d := Option.some.inj (h'.read?_eq.symm.trans h.read?_eq)
    -- both are followed by the same text
    have hcomment := h'.toList_eq.symm.trans h.toList_eq
    exact ⟨rfl, String.toList_inj.1 (List.append_cancel_right (List.append_cancel_left hcomment))⟩

example : read? "//\u3000\tlem.a=b/! c.m!== .m=x " =
    some ⟨"a=b/! c", .diagnostic .absent, "= .m=x "⟩ := by
  decide

end Directive

end InlineAssert
