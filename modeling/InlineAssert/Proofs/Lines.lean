import InlineAssert.Proofs.Encoding
import Mathlib.Data.List.TakeWhile

namespace InlineAssert

namespace Bytes

theorem newline_mem_encode_iff {cs : List Char} : newline ∈ encode cs ↔ '\n' ∈ cs :=
  mem_encode_iff (c := '\n') (by decide)

theorem splitOn_encode (cs : List Char) :
    (encode cs).splitOn newline = (cs.splitOn '\n').map encode := by
  by_cases h : '\n' ∈ cs
  · obtain ⟨a, b, rfl, ha⟩ := List.eq_append_cons_of_mem h
    have hb : encode ('\n' :: b) = newline :: encode b := rfl
    have ha' : newline ∉ encode a := newline_mem_encode_iff.not.2 ha
    rw [encode_append, hb, List.splitOn_append_cons_self_of_not_mem ha',
      List.splitOn_append_cons_self_of_not_mem ha, splitOn_encode b]
    rfl
  · have h' : newline ∉ encode cs := newline_mem_encode_iff.not.2 h
    rw [List.splitOn_eq_singleton h, List.splitOn_eq_singleton h']
    rfl
termination_by cs.length

theorem dropReturn_encode (cs : List Char) :
    dropReturn (encode cs) = encode (Text.dropFinal '\r' cs) := by
  rcases List.eq_nil_or_concat cs with rfl | ⟨cs, c, rfl⟩
  · rfl
  · simp only [List.concat_eq_append, Text.dropFinal, List.getLast?_concat, List.dropLast_concat,
      Option.some.injEq]
    by_cases hc : c = '\r'
    · subst hc
      have : encode ['\r'] = [13] := rfl
      rw [encode_append, this, dropReturn, List.getLast?_concat, List.dropLast_concat]
      rfl
    · have hlast : (encode (cs ++ [c])).getLast? ≠ some 13 := by
        rw [encode_append, encode_cons, encode_nil, List.append_nil,
          List.getLast?_append_of_ne_nil _ String.utf8EncodeChar_ne_nil]
        intro hlast
        have hmem := eq_of_mem_utf8EncodeChar (List.mem_of_getLast? hlast) (by decide)
        exact hc (Char.toNat_inj.1 hmem.2)
      rw [dropReturn, if_neg hlast, if_neg hc]

end Bytes

namespace LineTable

theorem startsFrom_append (pos : Nat) (u v : Bytes) :
    startsFrom pos (u ++ v) = startsFrom pos u ++ startsFrom (pos + u.length) v := by
  induction u generalizing pos with
  | nil => simp [startsFrom]
  | cons b u ih =>
    have hpos : pos + 1 + u.length = pos + (b :: u).length := by simp; omega
    simp only [List.cons_append, startsFrom, ih, hpos]
    split <;> rfl

theorem length_startsFrom (pos : Nat) (bs : Bytes) :
    (startsFrom pos bs).length = bs.count newline := by
  induction bs generalizing pos with
  | nil => rfl
  | cons b bs ih => by_cases h : b = newline <;> simp [startsFrom, h, ih]

theorem count_ofBytes (source : Bytes) : (ofBytes source).count = source.count newline + 1 := by
  rw [count, ofBytes, List.length_cons, length_startsFrom]

theorem startsFrom_eq_nil {bs : Bytes} (h : newline ∉ bs) (pos : Nat) : startsFrom pos bs = [] := by
  rw [← List.length_eq_zero_iff, length_startsFrom, List.count_eq_zero_of_not_mem h]

theorem mem_startsFrom {pos start : Nat} {bs : Bytes} (h : start ∈ startsFrom pos bs) :
    pos < start ∧ start ≤ pos + bs.length := by
  induction bs generalizing pos with
  | nil => simp [startsFrom] at h
  | cons b bs ih =>
    rw [startsFrom] at h
    simp only [List.length_cons]
    split at h
    · rcases List.mem_cons.1 h with rfl | h
      · omega
      · have := ih h
        omega
    · have := ih h
      omega

theorem lineOf_length (u v : Bytes) :
    (ofBytes (u ++ v)).lineOf u.length = min (u.count newline + 1) lineLimit := by
  have hbefore : ∀ start ∈ 0 :: startsFrom 0 u, decide (start ≤ u.length) = true := by
    intro start hstart
    rcases List.mem_cons.1 hstart with rfl | hstart
    · simp
    · have := mem_startsFrom hstart
      simp; omega
  have hafter : (startsFrom (0 + u.length) v).takeWhile (· ≤ u.length) = [] := by
    cases h : startsFrom (0 + u.length) v with
    | nil => rfl
    | cons start starts =>
      have := mem_startsFrom (h ▸ List.mem_cons_self)
      exact List.takeWhile_cons_of_neg (by simp; omega)
  rw [lineOf, ofBytes, startsFrom_append, ← List.cons_append,
    List.takeWhile_append_of_pos hbefore, hafter, List.append_nil, List.length_cons,
    length_startsFrom]

theorem lineOf_eq (source : Bytes) (offset : Nat) :
    (ofBytes source).lineOf offset =
      min ((source.take offset).count newline + 1) lineLimit := by
  rcases Nat.le_total offset source.length with hle | hle
  · have hline := lineOf_length (source.take offset) (source.drop offset)
    rwa [List.take_append_drop, List.length_take, Nat.min_eq_left hle] at hline
  -- behind the end of the source every start counts
  · have hall : ∀ start ∈ (ofBytes source).starts, decide (start ≤ offset) = true := by
      intro start hstart
      rcases List.mem_cons.1 hstart with rfl | hstart
      · exact decide_eq_true (Nat.zero_le _)
      · have := mem_startsFrom hstart
        exact decide_eq_true (by omega)
    rw [List.take_of_length_le hle, ← count_ofBytes, lineOf, List.takeWhile_eq_self_iff.2 hall,
      count]

theorem startsFrom_line {a : Bytes} (ha : newline ∉ a) (pos : Nat) (b : Bytes) :
    startsFrom pos (a ++ newline :: b) =
      (pos + a.length + 1) :: startsFrom (pos + a.length + 1) b := by
  rw [startsFrom_append, startsFrom_eq_nil ha]
  simp [startsFrom]

theorem line?_from (front rest : Bytes) (k : Nat) :
    line? ⟨front.length :: startsFrom front.length rest⟩ (front ++ rest) (k + 1) =
      ((rest.splitOn newline)[k]?).map Bytes.dropReturn := by
  induction k generalizing front rest with
  | zero =>
    by_cases h : newline ∈ rest
    · obtain ⟨a, b, rfl, ha⟩ := List.eq_append_cons_of_mem h
      rw [startsFrom_line ha, List.splitOn_append_cons_self_of_not_mem ha]
      simp [line?]
    · rw [startsFrom_eq_nil h, List.splitOn_eq_singleton h]
      simp [line?]
  | succ k ih =>
    by_cases h : newline ∈ rest
    · obtain ⟨a, b, rfl, ha⟩ := List.eq_append_cons_of_mem h
      have hlater := ih (front ++ a ++ [newline]) b
      rw [startsFrom_line ha, List.splitOn_append_cons_self_of_not_mem ha, List.getElem?_cons_succ,
        ← hlater]
      simp [line?, Nat.add_assoc]
    · rw [startsFrom_eq_nil h, List.splitOn_eq_singleton h]
      simp [line?]

theorem line?_ofBytes (source : Bytes) (k : Nat) :
    (ofBytes source).line? source (k + 1) =
      ((source.splitOn newline)[k]?).map Bytes.dropReturn :=
  line?_from [] source k

theorem isSome_line?_iff (t : LineTable) (source : Bytes) (k : Nat) :
    (t.line? source (k + 1)).isSome ↔ k < t.count := by
  cases h : t.starts[k]? with
  | none =>
    have hk : t.count ≤ k := List.getElem?_eq_none_iff.1 h
    simp [line?, h, hk]
  | some start =>
    have hk : k < t.count := (List.getElem?_eq_some_iff.1 h).1
    cases h' : t.starts[k + 1]? <;> simp [line?, h, h', hk]

theorem exists_lineOf_eq (source : Bytes) (offset : Nat) :
    ∃ k < (ofBytes source).count, (ofBytes source).lineOf offset = k + 1 := by
  have hle := (List.take_sublist offset source).count_le newline
  rw [count_ofBytes, lineOf_eq, lineLimit]
  exact ⟨min ((source.take offset).count newline) 0xFFFFFFFE, by omega, by omega⟩

theorem exists_line?_lineOf (cs : List Char) (offset : Nat) :
    ∃ line, (ofBytes (Bytes.encode cs)).line? (Bytes.encode cs)
      ((ofBytes (Bytes.encode cs)).lineOf offset) = some (Bytes.encode line) := by
  obtain ⟨k, hk, hline⟩ := exists_lineOf_eq (Bytes.encode cs) offset
  have hsome := (isSome_line?_iff _ (Bytes.encode cs) k).2 hk
  rw [hline]
  rw [line?_ofBytes, Bytes.splitOn_encode, List.getElem?_map, Option.map_map] at hsome ⊢
  obtain ⟨line, hline⟩ := Option.isSome_iff_exists.1 (Option.isSome_map.symm.trans hsome)
  exact ⟨_, by rw [hline, Option.map_some, Function.comp_apply, Bytes.dropReturn_encode]⟩

end LineTable

end InlineAssert
