import InlineAssert.Comment
import InlineAssert.Text
import Mathlib.Data.List.Basic
import Mathlib.Tactic.SplitIfs

/-! The bytes of a text, character by character. A byte below 128 is a character of its own, so the
marks that a scan looks for never stand inside of another character, and what follows one of them is
a whole character. -/

namespace InlineAssert.Bytes

open PieceKind (width)

def encode (cs : List Char) : Bytes := cs.flatMap String.utf8EncodeChar

@[simp] theorem encode_nil : encode [] = [] := rfl

@[simp] theorem encode_cons (c : Char) (cs : List Char) :
    encode (c :: cs) = String.utf8EncodeChar c ++ encode cs := rfl

@[simp] theorem encode_append (cs ds : List Char) : encode (cs ++ ds) = encode cs ++ encode ds :=
  List.flatMap_append

theorem ofString_eq (s : String) : ofString s = encode s.toList := by
  rw [ofString, ← String.utf8Encode_toList, List.utf8Encode]
  simp [encode]

theorem ofString_ofList (cs : List Char) : ofString (String.ofList cs) = encode cs := by
  rw [ofString_eq, String.toList_ofList]

theorem ofString_append (s t : String) : ofString (s ++ t) = ofString s ++ ofString t := by
  simp [ofString_eq]

theorem le_ofNat_mod (n : Nat) {m k : Nat} (hm : 0 < m) (hk : 128 ≤ k) (h : m + k ≤ 256) :
    128 ≤ UInt8.ofNat (n % m + k) := by
  have := Nat.mod_lt n hm
  simp [UInt8.le_iff_toNat_le, Nat.mod_eq_of_lt (show n % m + k < 256 by omega)]
  omega

theorem width_ofNat {n : Nat} (h : n < 256) :
    width (UInt8.ofNat n) =
      if 0xC0 ≤ n ∧ n ≤ 0xDF then 2
      else if 0xE0 ≤ n ∧ n ≤ 0xEF then 3
      else if 0xF0 ≤ n ∧ n ≤ 0xF7 then 4
      else 1 := by
  simp [width, UInt8.le_iff_toNat_le, Nat.mod_eq_of_lt h]

theorem utf8EncodeChar_cases (c : Char) :
    (c.toNat < 128 ∧ String.utf8EncodeChar c = [UInt8.ofNat c.toNat]) ∨
      ∃ lead more, String.utf8EncodeChar c = lead :: more ∧ more.length + 1 = width lead ∧
        ∀ b ∈ lead :: more, 128 ≤ b := by
  fun_cases String.utf8EncodeChar c with
  | case1 v h => exact .inl ⟨Nat.lt_succ_of_le h, rfl⟩
  | case2 v =>
    have := Nat.mod_lt (v / 64) (y := 32) (by decide)
    refine .inr ⟨_, _, rfl, ?_, ?_⟩
    · rw [width_ofNat (by omega), if_pos (by omega)]
      rfl
    · simp (disch := decide) only [List.forall_mem_cons, le_ofNat_mod, List.not_mem_nil,
        IsEmpty.forall_iff, implies_true, and_self]
  | case3 v =>
    have := Nat.mod_lt (v / 4096) (y := 16) (by decide)
    refine .inr ⟨_, _, rfl, ?_, ?_⟩
    · rw [width_ofNat (by omega), if_neg (by omega), if_pos (by omega)]
      rfl
    · simp (disch := decide) only [List.forall_mem_cons, le_ofNat_mod, List.not_mem_nil,
        IsEmpty.forall_iff, implies_true, and_self]
  | case4 v =>
    have := Nat.mod_lt (v / 262144) (y := 8) (by decide)
    refine .inr ⟨_, _, rfl, ?_, ?_⟩
    · rw [width_ofNat (by omega), if_neg (by omega), if_neg (by omega), if_pos (by omega)]
      rfl
    · simp (disch := decide) only [List.forall_mem_cons, le_ofNat_mod, List.not_mem_nil,
        IsEmpty.forall_iff, implies_true, and_self]

theorem utf8EncodeChar_of_lt {c : Char} (h : c.toNat < 128) :
    String.utf8EncodeChar c = [UInt8.ofNat c.toNat] := by
  rw [String.utf8EncodeChar]
  exact if_pos (Nat.le_of_lt_succ h)

theorem eq_of_mem_utf8EncodeChar {c : Char} {b : UInt8} (hmem : b ∈ String.utf8EncodeChar c)
    (hb : b < 128) : String.utf8EncodeChar c = [b] ∧ c.toNat = b.toNat := by
  rcases utf8EncodeChar_cases c with ⟨hc, hchar⟩ | ⟨lead, more, hchar, -, hmore⟩
  · rw [hchar, List.mem_singleton] at hmem
    subst hmem
    exact ⟨hchar, by simp [Nat.mod_eq_of_lt (show c.toNat < 256 by omega)]⟩
  · rw [hchar] at hmem
    exact absurd hb (UInt8.not_lt.2 (hmore b hmem))

theorem mem_encode_iff {c : Char} (hc : c.toNat < 128) {cs : List Char} :
    UInt8.ofNat c.toNat ∈ encode cs ↔ c ∈ cs := by
  have hb : (UInt8.ofNat c.toNat).toNat = c.toNat := by
    simp [Nat.mod_eq_of_lt (show c.toNat < 256 by omega)]
  rw [encode, List.mem_flatMap]
  constructor
  · rintro ⟨d, hd, hmem⟩
    have hlt : UInt8.ofNat c.toNat < 128 := by
      rw [UInt8.lt_iff_toNat_lt, hb]
      exact hc
    have := (eq_of_mem_utf8EncodeChar hmem hlt).2
    rwa [← Char.toNat_inj.1 (this.trans hb)]
  · intro h
    exact ⟨c, h, by simp [utf8EncodeChar_of_lt hc]⟩

/-- Around a byte below 128 stand whole characters. -/
theorem exists_of_encode_eq {cs : List Char} {u v : Bytes} {b : UInt8}
    (h : encode cs = u ++ b :: v) (hb : b < 128) :
    ∃ before c after, cs = before ++ c :: after ∧ c.toNat = b.toNat ∧ encode before = u ∧
      encode after = v := by
  induction cs generalizing u with
  | nil => simp at h
  | cons c cs ih =>
    rw [encode_cons] at h
    rcases List.append_eq_append_iff.1 h with ⟨mid, rfl, hrest⟩ | ⟨mid, hchar, hrest⟩
    · obtain ⟨before, d, after, rfl, hd, rfl, rfl⟩ := ih hrest
      exact ⟨c :: before, d, after, rfl, hd, rfl, rfl⟩
    -- the byte is behind the first character or in it
    · cases mid with
      | nil =>
        obtain ⟨before, d, after, rfl, hd, hbefore, rfl⟩ := ih (u := []) hrest.symm
        refine ⟨c :: before, d, after, rfl, hd, ?_, rfl⟩
        rw [encode_cons, hbefore, hchar, List.append_nil, List.append_nil]
      | cons x mid =>
        obtain ⟨rfl, rfl⟩ := List.cons.inj hrest
        obtain ⟨hone, hc⟩ := eq_of_mem_utf8EncodeChar (c := c) (by simp [hchar]) hb
        rw [hchar] at hone
        obtain ⟨rfl, rfl⟩ : u = [] ∧ mid = [] := by
          cases u with
          | nil => simpa using hone
          | cons => simp at hone
        exact ⟨[], c, cs, rfl, hc, rfl, rfl⟩

theorem exists_of_encode_eq_cons {cs : List Char} {b : UInt8} {v : Bytes}
    (h : encode cs = b :: v) (hb : b < 128) :
    ∃ c after, cs = c :: after ∧ c.toNat = b.toNat ∧ encode after = v := by
  obtain ⟨before, c, after, rfl, hc, hbefore, rfl⟩ := exists_of_encode_eq (u := []) h hb
  cases before with
  | nil => exact ⟨c, after, rfl, hc, rfl⟩
  | cons d before => simp at hbefore

theorem exists_append_of_ofString {s : String} {u v : Bytes} {b : UInt8}
    (h : ofString s = u ++ b :: v) (hb : b < 128) :
    ∃ front back, s = front ++ back ∧ ofString front = u ∧ ofString back = b :: v := by
  rw [ofString_eq] at h
  obtain ⟨before, c, after, hs, -, rfl, -⟩ := exists_of_encode_eq h hb
  refine ⟨.ofList before, .ofList (c :: after), ?_, ofString_ofList _, ?_⟩
  · rw [← String.ofList_append, ← hs, String.ofList_toList]
  · rw [hs, encode_append, List.append_cancel_left_eq] at h
    rw [ofString_ofList, h]

theorem exists_append_of_ofString_concat {s : String} {u v : Bytes} {b : UInt8}
    (h : ofString s = u ++ [b] ++ v) (hb : b < 128) :
    ∃ front back, s = front ++ back ∧ ofString front = u ++ [b] ∧ ofString back = v := by
  rw [ofString_eq, List.append_assoc, List.singleton_append] at h
  obtain ⟨before, c, after, hs, -, rfl, rfl⟩ := exists_of_encode_eq h hb
  refine ⟨.ofList (before ++ [c]), .ofList after, ?_, ?_, ofString_ofList _⟩
  · rw [← String.ofList_append, List.append_assoc, List.singleton_append, ← hs,
      String.ofList_toList]
  · rw [hs, encode_append, List.append_cancel_left_eq, encode_cons, ← List.singleton_append] at h
    rw [ofString_ofList, encode_append, encode_cons, encode_nil, List.append_nil,
      List.append_cancel_right h]

theorem exists_append_of_seam {s : String} {u v : Bytes} (h : ofString s = u ++ v)
    (hseam : (∀ b ∈ u.getLast?, b < 128) ∨ ∀ b ∈ v.head?, b < 128) :
    ∃ front back, s = front ++ back ∧ ofString front = u ∧ ofString back = v := by
  rcases hseam with hlast | hhead
  · rcases List.eq_nil_or_concat' u with rfl | ⟨u, b, rfl⟩
    · exact ⟨"", s, (String.empty_append).symm, rfl, h⟩
    · exact exists_append_of_ofString_concat h (hlast b (by simp))
  · cases v with
    | nil => exact ⟨s, "", (String.append_empty).symm, by rw [h, List.append_nil], rfl⟩
    | cons b v => exact exists_append_of_ofString h (hhead b rfl)

def WholeChars (bs : Bytes) : Prop :=
  ∀ u b lead v, bs = u ++ b :: lead :: v → b < 128 →
    ∃ more rest, v = more ++ rest ∧ more.length + 1 = width lead ∧ ∀ x ∈ more, 128 ≤ x

theorem WholeChars.of_append {u v : Bytes} (h : WholeChars (u ++ v)) : WholeChars v := by
  rintro u' b lead v' rfl hb
  exact h (u ++ u') b lead v' (by simp) hb

theorem wholeChars_encode (cs : List Char) : WholeChars (encode cs) := by
  intro u b lead v h hb
  obtain ⟨before, c, after, -, -, -, hafter⟩ := exists_of_encode_eq h hb
  cases after with
  | nil => simp at hafter
  | cons d after =>
    rw [encode_cons] at hafter
    rcases utf8EncodeChar_cases d with ⟨hd, hchar⟩ | ⟨lead', more, hchar, hwidth, hmore⟩
    · rw [hchar] at hafter
      obtain ⟨rfl, rfl⟩ := List.cons.inj hafter
      refine ⟨[], _, rfl, ?_, by simp⟩
      rw [width_ofNat (by omega), if_neg (by omega), if_neg (by omega), if_neg (by omega)]
      rfl
    · rw [hchar] at hafter
      obtain ⟨rfl, rfl⟩ := List.cons.inj hafter
      exact ⟨more, _, rfl, hwidth, fun x hx => hmore x (List.mem_cons_of_mem _ hx)⟩

end InlineAssert.Bytes
