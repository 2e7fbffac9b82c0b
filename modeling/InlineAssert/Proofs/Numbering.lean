import InlineAssert.Proofs.Unclosed
import Mathlib.Order.Monotone.Defs

namespace InlineAssert

namespace LineTable

variable {t : LineTable} {offset : Nat}

theorem pairwise_startsFrom (pos : Nat) (bs : Bytes) : (startsFrom pos bs).Pairwise (· < ·) := by
  induction bs generalizing pos with
  | nil => exact .nil
  | cons b bs ih =>
    rw [startsFrom]
    split
    · exact .cons (fun start hstart => (mem_startsFrom hstart).1) (ih _)
    · exact ih _

theorem pairwise_starts (source : Bytes) : (ofBytes source).starts.Pairwise (· < ·) :=
  .cons (fun _ hstart => (mem_startsFrom hstart).1) (pairwise_startsFrom 0 source)

section Search

structure IsLast (t : LineTable) (offset i : Nat) : Prop where
  lt : i < t.count
  le : t.starts[i] ≤ offset
  next : ∀ start ∈ t.starts[i + 1]?, offset < start

theorem start_le (hsorted : t.starts.Pairwise (· < ·)) {i j : Nat} (hij : i ≤ j)
    (hj : j < t.starts.length) : t.starts[i] ≤ t.starts[j] := by
  rcases Nat.eq_or_lt_of_le hij with rfl | hlt
  · exact Nat.le_refl _
  · exact Nat.le_of_lt (List.pairwise_iff_getElem.1 hsorted i j (hlt.trans hj) hj hlt)

/-- Halving comes to the last start that is not behind `offset`: it keeps a first start that is not
behind it, and an end from which on every start is. -/
theorem isLast_halve (hsorted : t.starts.Pairwise (· < ·)) {base size : Nat}
    (hsize : 0 < size) (hfit : base + size ≤ t.count)
    (hbase : ∀ start ∈ t.starts[base]?, start ≤ offset)
    (hend : ∀ start ∈ t.starts[base + size]?, offset < start) :
    t.IsLast offset (t.halve offset base size) := by
  fun_induction halve t offset base size with
  | case1 base size hone =>
    obtain rfl : size = 1 := by omega
    have hlt : base < t.starts.length := by
      rw [count] at hfit
      omega
    exact ⟨hlt, hbase _ (List.getElem?_eq_getElem hlt), hend⟩
  | case2 base size hone middle ih =>
    have hmiddle : middle < t.starts.length := by
      rw [count] at hfit
      omega
    have hstart : t.starts.getD middle 0 = t.starts[middle] := by
      rw [List.getD_eq_getElem?_getD, List.getElem?_eq_getElem hmiddle, Option.getD_some]
    rw [hstart] at ih ⊢
    split_ifs at ih ⊢ with hle
    · have hupper : middle + (size - size / 2) = base + size := by omega
      rw [hupper] at ih
      exact ih (by omega) hfit (by simpa [hmiddle] using hle) hend
    · refine ih (by omega) (by omega) hbase fun start hstart => ?_
      -- the end need not be the middle itself: it may be one start further on
      obtain ⟨hlt, rfl⟩ := List.getElem?_eq_some_iff.1 hstart
      have := start_le hsorted (show middle ≤ base + (size - size / 2) by omega) hlt
      omega

theorem IsLast.length_takeWhile {i : Nat} (hsorted : t.starts.Pairwise (· < ·))
    (h : t.IsLast offset i) : (t.starts.takeWhile (· ≤ offset)).length = i + 1 := by
  have hfront : ∀ start ∈ t.starts.take (i + 1), decide (start ≤ offset) = true := by
    intro start hstart
    obtain ⟨j, hj, rfl⟩ := List.mem_take_iff_getElem.1 hstart
    have hle := start_le hsorted (show j ≤ i by omega) h.lt
    exact decide_eq_true (hle.trans h.le)
  have hrest : (t.starts.drop (i + 1)).takeWhile (· ≤ offset) = [] := by
    cases hdrop : t.starts.drop (i + 1) with
    | nil => rfl
    | cons start starts =>
      have hnext := h.next start (by rw [← List.head?_drop, hdrop]; rfl)
      exact List.takeWhile_cons_of_neg (by simpa using hnext)
  conv_lhs => rw [← List.take_append_drop (i + 1) t.starts]
  rw [List.takeWhile_append_of_pos hfront, hrest, List.append_nil, List.length_take]
  exact Nat.min_eq_left h.lt

theorem search_eq (h : t.IsLast offset (t.halve offset 0 t.count)) :
    t.search offset = .ok (t.halve offset 0 t.count) ∨
      t.search offset = .error (t.halve offset 0 t.count + 1) := by
  rw [search, List.getElem?_eq_getElem h.lt]
  rcases Nat.eq_or_lt_of_le h.le with heq | hlt
  · exact .inl (if_pos heq)
  · refine .inr ((if_neg hlt.ne).trans ?_)
    rw [if_pos hlt]

theorem findLine_eq (source : Bytes) (offset : Nat) :
    (ofBytes source).findLine offset = (ofBytes source).lineOf offset := by
  have hsorted := pairwise_starts source
  have hlast : (ofBytes source).IsLast offset
      ((ofBytes source).halve offset 0 (ofBytes source).count) := by
    refine isLast_halve hsorted (Nat.succ_pos _) (by omega) ?_ ?_
    · rintro start ⟨⟩
      exact Nat.zero_le offset
    · intro start hstart
      rw [Nat.zero_add, count, List.getElem?_length] at hstart
      cases hstart
  rw [lineOf, hlast.length_takeWhile hsorted, findLine]
  rcases search_eq hlast with h | h
  · rw [h]
  · rw [h]
    rfl

end Search

section Ruled

inductive Ruled : (start : Nat) → Bytes → (starts : List Nat) → (lines : List String) → Prop
  | last : newline ∉ Bytes.ofString line → Ruled start (Bytes.ofString line) [start] [line]
  | line : newline ∉ Bytes.ofString line →
      Ruled (start + (Bytes.ofString line).length + 1) rest later lines →
      Ruled start (Bytes.ofString line ++ newline :: rest) (start :: later) (line :: lines)

def linesOf (cs : List Char) : List String := (cs.splitOn '\n').map String.ofList

theorem ruled_linesOf (start : Nat) (cs : List Char) :
    Ruled start (Bytes.encode cs) (start :: startsFrom start (Bytes.encode cs)) (linesOf cs) := by
  by_cases h : '\n' ∈ cs
  · obtain ⟨a, b, rfl, ha⟩ := List.eq_append_cons_of_mem h
    have hline : newline ∉ Bytes.encode a := Bytes.newline_mem_encode_iff.not.2 ha
    have hcut : Bytes.encode (a ++ '\n' :: b) = Bytes.encode a ++ newline :: Bytes.encode b :=
      Bytes.encode_append a ('\n' :: b)
    rw [hcut, startsFrom_line hline, linesOf, List.splitOn_append_cons_self_of_not_mem ha,
      List.map_cons, ← Bytes.ofString_ofList]
    exact .line (by rwa [Bytes.ofString_ofList]) (ruled_linesOf _ b)
  · have hline : newline ∉ Bytes.encode cs := Bytes.newline_mem_encode_iff.not.2 h
    rw [startsFrom_eq_nil hline, linesOf, List.splitOn_eq_singleton h, ← Bytes.ofString_ofList]
    exact .last (by rwa [Bytes.ofString_ofList])
termination_by cs.length

theorem Ruled.length_eq {start : Nat} {source : Bytes} {starts : List Nat} {lines : List String}
    (h : Ruled start source starts lines) : lines.length = starts.length := by
  induction h with
  | last => rfl
  | line _ _ ih => rw [List.length_cons, List.length_cons, ih]

inductive Trimmed : (line text : String) → Prop
  | returned (text : String) : Trimmed (text ++ "\r") text
  | plain : text.toList.getLast? ≠ some '\r' → Trimmed text text

theorem trimmed_iff {line text : String} :
    Trimmed line text ↔ text = .ofList (Text.dropFinal '\r' line.toList) := by
  constructor
  · rintro (_ | h)
    · simp [Text.dropFinal]
    · simp [Text.dropFinal, h]
  · rintro rfl
    by_cases h : line.toList.getLast? = some '\r'
    · obtain ⟨cs, hcs⟩ := List.getLast?_eq_some_iff.1 h
      have hline : line = .ofList cs ++ "\r" := by
        rw [← String.toList_inj, hcs]
        simp
      rw [hline]
      simpa [Text.dropFinal] using Trimmed.returned (.ofList cs)
    · rw [Text.dropFinal, if_neg h, String.ofList_toList]
      exact .plain h

theorem line?_eq_some_iff (cs : List Char) (k : Nat) (text : String) :
    (ofBytes (Bytes.encode cs)).line? (Bytes.encode cs) k = some (Bytes.ofString text) ↔
      1 ≤ k ∧ ∃ line, (linesOf cs)[k - 1]? = some line ∧ Trimmed line text := by
  cases k with
  | zero => simp [line?]
  | succ k =>
    rw [line?_ofBytes, Bytes.splitOn_encode, linesOf, List.getElem?_map, Nat.add_sub_cancel,
      List.getElem?_map]
    cases (cs.splitOn '\n')[k]? with
    | none => simp
    | some line =>
      have htext : Bytes.dropReturn (Bytes.encode line) = Bytes.ofString text ↔
          text = .ofList (Text.dropFinal '\r' line) := by
        rw [Bytes.dropReturn_encode, ← Bytes.ofString_ofList]
        exact ⟨fun h => by simpa using (congrArg Bytes.text h).symm, fun h => h ▸ rfl⟩
      simp [htext, trimmed_iff]

end Ruled

end LineTable

def Scan.lineAt (source : Bytes) (offset : Nat) : Nat :=
  min ((source.take offset).count newline + 1) lineLimit

theorem Scan.FailsAt.failure_lineAt {source : String} {head : Bytes} {failure : Nat → ScanError}
    (h : FailsAt source head failure) :
    (ofBytes (Bytes.ofString source)).failure =
      some (failure (lineAt (Bytes.ofString source) head.length)) := by
  rw [h.failure_eq, LineTable.lineOf_eq, lineAt]

namespace LineTable

/-- The table of a source tells for every offset the line that the newlines before it count, which
is also the line that a failure of the scan tells, and for every line its text. -/
theorem ofBytes_tells_lines (source : String)
    (h : (Bytes.ofString source).count newline + 1 < 2 ^ 32 - 1) :
    let bytes := Bytes.ofString source
    let table := ofBytes bytes
    (∀ offset, table.findLine offset = table.lineOf offset) ∧
      (∀ offset, table.lineOf offset =
        (bytes.take (min offset bytes.length)).count newline + 1) ∧
      Monotone table.lineOf ∧
      (∀ offset, table.lineOf offset ≤ table.count) ∧
      (∀ offset ≤ bytes.length, table.lineOf offset = Scan.lineAt bytes offset) ∧
      (∀ head failure, Scan.FailsAt source head failure →
        (Scan.ofBytes bytes).failure = some (failure (Scan.lineAt bytes head.length))) ∧
      ∃ lines, Ruled 0 bytes table.starts lines ∧ lines.length = table.count ∧
        (∀ k, (table.line? bytes k).isSome ↔ 1 ≤ k ∧ k ≤ table.count) ∧
        ∀ k text, table.line? bytes k = some (Bytes.ofString text) ↔
          1 ≤ k ∧ ∃ line, lines[k - 1]? = some line ∧ Trimmed line text := by
  intro bytes table
  have hline (offset : Nat) : table.lineOf offset = (bytes.take offset).count newline + 1 := by
    have hle : (bytes.take offset).count newline ≤ (Bytes.ofString source).count newline :=
      (List.take_sublist offset bytes).count_le newline
    rw [lineOf_eq, lineLimit]
    omega
  have hruled := ruled_linesOf 0 source.toList
  rw [← Bytes.ofString_eq] at hruled
  refine ⟨findLine_eq bytes, fun offset => ?_, fun offset later hle => ?_, fun offset => ?_,
    fun offset _ => lineOf_eq bytes offset, fun _ _ => Scan.FailsAt.failure_lineAt,
    linesOf source.toList, hruled, hruled.length_eq, fun k => ?_, fun k text => ?_⟩
  · rw [hline, ← List.take_eq_take_min]
  · rw [hline, hline]
    exact Nat.succ_le_succ ((List.take_sublist_take_left hle).count_le newline)
  · rw [hline, count_ofBytes]
    exact Nat.succ_le_succ ((List.take_sublist offset bytes).count_le newline)
  · cases k with
    | zero => simp [line?]
    | succ k =>
      rw [isSome_line?_iff]
      omega
  · have htext := line?_eq_some_iff source.toList k text
    rwa [← Bytes.ofString_eq] at htext

theorem ofBytes_tells_lines_returns :
    let bytes := Bytes.ofString "é\r\n\nb\r"
    let table := ofBytes bytes
    bytes.count newline + 1 < 2 ^ 32 - 1 ∧ table.findLine 3 = 1 ∧ table.findLine 4 = 2 ∧
      table.findLine 100 = 3 ∧ Scan.lineAt bytes 7 = table.lineOf 7 ∧
      (table.line? bytes 3).isSome ∧ ¬ (table.line? bytes 4).isSome := by
  intro bytes table
  have h : bytes.count newline + 1 < 2 ^ 32 - 1 := by decide
  obtain ⟨hfind, hline, -, -, hscan, -, lines, -, -, hsome, -⟩ := ofBytes_tells_lines _ h
  refine ⟨h, ?_, ?_, ?_, ?_, ?_, ?_⟩
  · rw [hfind, hline]
    rfl
  · rw [hfind, hline]
    rfl
  · rw [hfind, hline]
    rfl
  · exact (hscan 7 (by decide)).symm
  · exact (hsome 3).2 (by decide)
  · exact (hsome 4).not.2 (by decide)

end LineTable

end InlineAssert
