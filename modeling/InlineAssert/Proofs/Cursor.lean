import InlineAssert.CursorScanner
import InlineAssert.Proofs.Annotation

namespace InlineAssert

open Bytes PieceKind

theorem Bytes.length_ofString (s : String) : (ofString s).length = s.utf8ByteSize := by
  simp [ofString]

section Cut

theorem Text.isValid_append (front back : String) :
    String.Pos.Raw.IsValid (front ++ back) ⟨(ofString front).length⟩ := by
  rw [length_ofString]
  exact String.Pos.Raw.isValid_iff_exists_append.2 ⟨front, back, rfl, rfl⟩

/-- A text comes out of a cut only between two of its parts. -/
theorem Text.cut_eq_pure_iff {text part : String} {start stop : Nat} :
    cut text start stop = pure part ↔ ∃ front back, text = front ++ part ++ back ∧
      start = (ofString front).length ∧ stop = start + (ofString part).length := by
  constructor
  · intro h
    rw [cut] at h
    split_ifs at h with hvalid
    · have hcopy := Except.ok.inj (Option.some.inj h)
      obtain ⟨front, back, hstart, hstop⟩ := String.copy_slice_eq_iff_splits.1 ⟨_, hcopy⟩
      have hfront := congrArg String.Pos.Raw.byteIdx hstart.offset_eq_rawEndPos
      have hboth := congrArg String.Pos.Raw.byteIdx hstop.offset_eq_rawEndPos
      have hsum : stop = front.utf8ByteSize + part.utf8ByteSize :=
        hboth.trans String.utf8ByteSize_append
      refine ⟨front, back, hstop.eq_append, hfront.trans (length_ofString front).symm, ?_⟩
      exact hsum.trans (congrArg₂ (· + ·) hfront.symm (length_ofString part).symm)
    · cases Option.some.inj h
  · rintro ⟨front, back, rfl, rfl, rfl⟩
    have hstart : String.Pos.Raw.IsValid (front ++ part ++ back) ⟨(ofString front).length⟩ := by
      rw [String.append_assoc]
      exact isValid_append front (part ++ back)
    have hstop : String.Pos.Raw.IsValid (front ++ part ++ back)
        ⟨(ofString front).length + (ofString part).length⟩ := by
      rw [← List.length_append, ← ofString_append]
      exact isValid_append (front ++ part) back
    rw [cut, dif_pos ⟨hstart, hstop, Nat.le_add_right ..⟩]
    refine congrArg pure (String.copy_slice_eq_iff_splits.2 ⟨front, back, ?_, ?_⟩).2
    · exact ⟨String.append_assoc, String.Pos.Raw.ext (length_ofString front)⟩
    · refine ⟨rfl, String.Pos.Raw.ext ?_⟩
      exact (congrArg₂ (· + ·) (length_ofString front) (length_ofString part)).trans
        String.utf8ByteSize_append.symm

example : Text.cut "é" 0 1 = throw ⟨0, 1⟩ := rfl

end Cut

theorem Bytes.map_indexOf? {mark : Bytes} (hmark : mark ≠ []) (bs : Bytes) :
    (indexOf? mark bs).map (· + mark.length) = through? mark bs := by
  induction bs with
  | nil => simp [indexOf?, through?, hmark]
  | cons b bs ih =>
    by_cases h : mark <+: b :: bs
    · simp [indexOf?, through?, h]
    · simp [indexOf?, through?, h, ← ih, Function.comp_def, Nat.add_right_comm]

namespace Cursor

def between (u v : Bytes) : Cursor := ⟨u ++ v, u.length⟩

variable {u v w : Bytes} {n : Nat}

section Loop

variable {α : Type} {pass : Cursor → Run (α ⊕ Cursor)} {c next : Cursor} {result : α}

theorem loop_of_inl (h : pass c = pure (.inl result)) : c.loop pass = pure result := by
  rw [loop, h]
  rfl

theorem loop_of_inr (h : pass c = pure (.inr next)) (hlt : next.left < c.left) :
    c.loop pass = next.loop pass := by
  rw [loop, h, pure_bind]
  exact if_pos hlt

end Loop

theorem exists_between {c : Cursor} (h : c.pos ≤ c.bytes.length) : ∃ u v, c = between u v := by
  refine ⟨c.bytes.take c.pos, c.bytes.drop c.pos, ?_⟩
  rw [between, List.take_append_drop, List.length_take, Nat.min_eq_left h]

@[simp] theorem pos_between : (between u v).pos = u.length := rfl

@[simp] theorem left_between : (between u v).left = v.length := by
  simp [left, between]

@[simp] theorem ahead?_between : (between u v).ahead? n = v[n]? := by
  rw [ahead?, between, List.getElem?_append_right (Nat.le_add_right ..), Nat.add_sub_cancel_left]

@[simp] theorem back?_between : (between u v).back? (n + 1) = u.reverse[n]? := by
  rcases Nat.lt_or_ge n u.length with h | h
  · have hback : (between u v).back? (n + 1) = (u ++ v)[u.length - (n + 1)]? := if_pos h
    rw [hback, List.getElem?_append_left (by omega), List.getElem?_reverse h, Nat.sub_sub,
      Nat.add_comm 1]
  · have hback : (between u v).back? (n + 1) = none :=
      if_neg (Nat.not_le_of_lt (Nat.lt_succ_of_le h))
    rw [hback, List.getElem?_eq_none (by simpa using h)]

theorem advance_advance (c : Cursor) (m n : Nat) : (c.advance m).advance n = c.advance (m + n) := by
  simp only [advance, Cursor.mk.injEq, true_and]
  omega

theorem advance_between : (between u v).advance n = between (u ++ v.take n) (v.drop n) := by
  simp [advance, between]

theorem advance_zero : (between u v).advance 0 = between u v := by
  simp [advance_between]

@[simp] theorem advance_append : (between u (v ++ w)).advance v.length = between (u ++ v) w := by
  simp [advance_between]

@[simp] theorem advance_cons (b : UInt8) :
    (between u (b :: v)).advance (n + 1) = (between (u ++ [b]) v).advance n := by
  simp [advance_between]

@[simp] theorem toEnd_between : (between u v).toEnd = between (u ++ v) [] := by
  simp [toEnd, between]

theorem rest_between : (between u v).rest = pure v := by
  simp [rest, between, Bytes.cut, List.take_append]

theorem line_between : (between u v).line = pure (min (u.count newline + 1) lineLimit) := by
  simp [line, between, Bytes.cut]

theorem find?_between (wanted : UInt8 → Bool) :
    (between u v).find? wanted = pure ((v.findIdx? wanted).map (between u v).advance) := by
  rw [find?, rest_between, pure_bind]
  cases h : v.findIdx? wanted with
  | none => rfl
  | some i =>
    have hle := (List.findIdx?_eq_some_iff_findIdx_eq.1 h).1.le
    simp [between, advance, hle]

theorem find?_cases (wanted : UInt8 → Bool) (u v : Bytes) :
    (∀ b ∈ v, wanted b = false) ∧ (between u v).find? wanted = pure none ∨
      ∃ front b back, v = front ++ b :: back ∧ (∀ x ∈ front, wanted x = false) ∧ wanted b ∧
        (between u v).find? wanted = pure (some (between (u ++ front) (b :: back))) := by
  rw [find?_between]
  cases h : v.findIdx? wanted with
  | none => exact .inl ⟨List.findIdx?_eq_none_iff.1 h, rfl⟩
  | some i =>
    obtain ⟨hi, hb, hfront⟩ := List.findIdx?_eq_some_iff_getElem.1 h
    refine .inr ⟨v.take i, v[i], v.drop (i + 1), by simp, fun x hx => ?_, hb, ?_⟩
    · obtain ⟨j, hj, rfl⟩ := List.mem_take_iff_getElem.1 hx
      simpa using hfront j (by omega)
    · simp [advance_between]

theorem past?_between {mark : Bytes} (hmark : mark ≠ []) :
    (between u v).past? mark = pure ((through? mark v).map (between u v).advance) := by
  rw [past?, rest_between, pure_bind, ← map_indexOf? hmark]
  cases h : indexOf? mark v with
  | none => rfl
  | some i =>
    have hthrough : through? mark v = some (i + mark.length) := by
      rw [← map_indexOf? hmark, h]
      rfl
    have hle := ((through?_eq_some_iff hmark).1 hthrough).1
    simp only [Option.map_some, advance]
    rw [Nat.min_eq_left]
    simpa [between] using hle

theorem toNewline_append (hfront : newline ∉ v) (hback : ∀ b ∈ w.head?, b = newline) :
    (between u (v ++ w)).toNewline = pure (between (u ++ v) w) := by
  have hnone : v.findIdx? (fun b => decide (b = newline)) = none :=
    List.findIdx?_eq_none_iff.2 fun b hb => decide_eq_false fun h => hfront (h ▸ hb)
  rw [toNewline, find?_between, pure_bind, List.findIdx?_append, hnone, Option.none_or]
  cases w with
  | nil => simp
  | cons b w =>
    obtain rfl := hback b rfl
    simp [List.findIdx?_cons]

theorem merge_findIdx? (p q : UInt8 → Bool) (bs : Bytes) :
    Option.merge min (bs.findIdx? p) (bs.findIdx? q) = bs.findIdx? fun b => p b || q b := by
  induction bs with
  | nil => rfl
  | cons b bs ih =>
    simp only [List.findIdx?_cons, ← ih]
    cases p b <;> cases q b <;> cases bs.findIdx? p <;> cases bs.findIdx? q <;> simp

theorem toOpening_eq (c : Cursor) : c.toOpening = do
    return (← c.find? fun b => b = 47 || b = 34 || b = 96 || b == 39).getD c.toEnd := by
  simp only [toOpening, find?, List.idxOf?, merge_findIdx?, bind_assoc, pure_bind]
  congr 1
  funext rest
  cases rest.findIdx? fun b => b = 47 || b = 34 || b = 96 || b == 39 <;> rfl

theorem toOpening_cases (u v : Bytes) :
    ∃ code back, v = code ++ back ∧ (∀ b ∈ code, Idle b) ∧ (∀ b ∈ back.head?, ¬ Idle b) ∧
      (between u v).toOpening = pure (between (u ++ code) back) := by
  rw [toOpening_eq]
  rcases find?_cases (fun b => b = 47 || b = 34 || b = 96 || b == 39) u v with
    ⟨hnone, hfind⟩ | ⟨code, b, back, rfl, hcode, hb, hfind⟩
  · refine ⟨v, [], (List.append_nil v).symm, fun b hb => ?_, by simp, by simp [hfind]⟩
    simpa [Idle, and_assoc] using hnone b hb
  · refine ⟨code, _, rfl, fun b hb => ?_, ?_, by simp [hfind]⟩
    · simpa [Idle, and_assoc] using hcode b hb
    · rintro _ ⟨⟩ hidle
      simp [hidle.1, hidle.2.1, hidle.2.2.1, hidle.2.2.2] at hb

theorem findOnLine_between (skip : Nat) (mark : UInt8) (limit : Nat) :
    (between u v).findOnLine skip mark limit =
      pure (((((v.drop skip).take limit).takeWhile (· ≠ newline)).idxOf? mark).map (skip + ·)) := by
  have hwindow : (u ++ v).cut (min (u.length + skip) (u ++ v).length)
      (min (min (u.length + skip) (u ++ v).length + limit) (u ++ v).length) =
        pure ((v.drop skip).take limit) := by
    -- both ends of the window are held within the source
    rw [Bytes.cut, if_pos (by omega), List.drop_take]
    have hdrop : (u ++ v).drop (min (u.length + skip) (u ++ v).length) = v.drop skip := by
      rcases Nat.le_total skip v.length with h | h
      · rw [Nat.min_eq_left (by simpa using h), List.drop_length_add_append]
      · rw [Nat.min_eq_right (by simpa using h), List.drop_length, List.drop_of_length_le h]
    rw [hdrop]
    refine congrArg pure (List.take_eq_take_iff.2 ?_)
    simp only [List.length_append, List.length_drop]
    omega
  rw [findOnLine]
  exact congrArg (· >>= _) hwindow

theorem hashes_between {front w : Bytes} {k : Nat}
    (h : u.reverse = front ++ (List.replicate k 35 ++ w)) (hw : ∀ b ∈ w.head?, b ≠ 35) :
    (between u v).hashes front.length = front.length + k := by
  induction k generalizing front with
  | zero =>
    rw [hashes, if_neg]
    · rfl
    · intro hback
      rw [back?_between, h, List.replicate_zero, List.nil_append,
        List.getElem?_append_right (Nat.le_refl _), Nat.sub_self, ← List.head?_eq_getElem?] at hback
      exact hw 35 hback rfl
  | succ k ih =>
    rw [hashes, if_pos (by simp [h, List.replicate_succ])]
    have hnext : u.reverse = front ++ [35] ++ (List.replicate k 35 ++ w) := by
      simp [h, List.replicate_succ]
    simpa [Nat.add_assoc, Nat.add_comm 1] using ih hnext

theorem exists_hashes (bs : Bytes) :
    ∃ k w, bs = List.replicate k 35 ++ w ∧ ∀ b ∈ w.head?, b ≠ 35 := by
  induction bs with
  | nil => exact ⟨0, [], rfl, by simp⟩
  | cons b bs ih =>
    by_cases hb : b = 35
    · obtain ⟨k, w, rfl, hw⟩ := ih
      exact ⟨k + 1, w, by rw [hb]; rfl, hw⟩
    · exact ⟨0, b :: bs, rfl, by simpa using hb⟩

theorem rawHashes?_hashes (k : Nat) (w : Bytes) :
    PieceKind.rawHashes? (List.replicate k 35 ++ w) =
      (PieceKind.rawHashes? w).map (· + k) := by
  induction k with
  | zero => simp
  | succ k ih =>
    rw [List.replicate_succ, List.cons_append, PieceKind.rawHashes?, ih, Option.map_map]
    rfl

theorem rawHashes?_between : (between u v).rawHashes? = PieceKind.rawHashes? u.reverse := by
  obtain ⟨k, w, hu, hw⟩ := exists_hashes u.reverse
  have hhashes : (between u v).hashes 0 = k := by
    have hall : u.reverse = [] ++ (List.replicate k 35 ++ w) := hu
    simpa using hashes_between (v := v) hall hw
  have hback (n : Nat) : (between u v).back? (k + n + 1) = w[n]? := by
    rw [back?_between, hu, List.getElem?_append_right (by simp)]
    simp
  have hfirst : (between u v).back? (k + 1) = w[0]? := hback 0
  have hsecond : (between u v).back? (k + 2) = w[1]? := hback 1
  rw [hu, rawHashes?_hashes, Cursor.rawHashes?, hhashes, hfirst, hsecond]
  match w with
  | [] => rfl
  | b :: w =>
    by_cases hb : b = 114
    · subst hb
      cases w with
      | nil => simp [PieceKind.rawHashes?]
      | cons b w =>
        simp only [PieceKind.rawHashes?, List.getElem?_cons_zero, List.getElem?_cons_succ, ne_eq,
          not_true, if_false]
        split <;> simp
    · rw [rawHashes?_cons_of_ne (hw b rfl) hb, if_pos (by simpa using hb)]
      rfl

end Cursor

end InlineAssert
