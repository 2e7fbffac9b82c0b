import InlineAssert.Pattern.Program

namespace InlineAssert.Pattern

namespace Expr

theorem length_flatMap_range {f : Nat → List Inst} {s : Nat} (hf : ∀ k, (f k).length = s)
    (n : Nat) : ((List.range n).flatMap f).length = n * s := by
  induction n with
  | zero => simp
  | succ n ih => simp [List.range_succ, ih, hf, Nat.succ_mul]

@[simp] theorem length_emit (e : Expr) (pos next : Nat) : (e.emit pos next).length = e.size := by
  induction e generalizing pos next with
  | empty => rfl
  | one => rfl
  | look => rfl
  | cat a b iha ihb => simp [emit, size, iha, ihb]
  | alt a b iha ihb => simp [emit, size, iha, ihb]; omega
  | times n e ih =>
    rw [emit, List.length_append, length_flatMap_range fun k => ih ..]
    rfl
  | upTo n greedy e ih =>
    rw [emit, List.length_append, length_flatMap_range (s := e.size + 1)]
    · rfl
    · simp [ih]
  | star greedy e ih => simp [emit, size, ih]
  | plus greedy e ih => simp [emit, size, ih]

theorem Spans.le {text : Array Char} {e : Expr} {i j : Nat} (h : e.Spans text i j) : i ≤ j := by
  induction h <;> omega

theorem Spans.le_size {text : Array Char} {e : Expr} {i j : Nat} (h : e.Spans text i j)
    (hi : i ≤ text.size) : j ≤ text.size := by
  induction h with
  | one hc _ => exact (Array.getElem?_eq_some_iff.1 hc).1
  | empty => exact hi
  | look => exact hi
  | cat _ _ iha ihb => exact ihb (iha hi)
  | altLeft _ ih => exact ih hi
  | altRight _ ih => exact ih hi
  | timesZero => exact hi
  | timesSucc _ _ iha ihb => exact ihb (iha hi)
  | upToStop => exact hi
  | upToSucc _ _ iha ihb => exact ihb (iha hi)
  | starStop => exact hi
  | starStep _ _ iha ihb => exact ihb (iha hi)
  | plus _ _ iha ihb => exact ihb (iha hi)

end Expr

namespace Program

def Has (p : Program) (pos : Nat) (code : List Inst) : Prop :=
  ∀ k inst, code[k]? = some inst → p.insts[pos + k]? = some inst

inductive Leads (p : Program) (text : Array Char) : (steps : Nat) → Thread → (stop : Nat) → Prop
  | accept : p.accepts t → Leads p text 0 t t.pos
  | step : u ∈ p.step text t → Leads p text n u stop → Leads p text (n + 1) t stop

section

variable {p : Program} {text : Array Char} {pos next i stop n : Nat}

theorem Has.left {a b : List Inst} (h : p.Has pos (a ++ b)) : p.Has pos a := by
  intro k inst hk
  exact h k inst (by rw [List.getElem?_append_left (List.getElem?_eq_some_iff.1 hk).1, hk])

theorem Has.right {a b : List Inst} (h : p.Has pos (a ++ b)) : p.Has (pos + a.length) b := by
  intro k inst hk
  rw [Nat.add_assoc]
  exact h (a.length + k) inst (by rw [List.getElem?_append_right (by omega)]; simpa using hk)

theorem Has.head {inst : Inst} {code : List Inst} (h : p.Has pos (inst :: code)) :
    p.insts[pos]? = some inst := h 0 inst rfl

theorem Has.tail {inst : Inst} {code : List Inst} (h : p.Has pos (inst :: code)) :
    p.Has (pos + 1) code := Has.right (a := [inst]) h

theorem Has.part {f : Nat → List Inst} {s : Nat} (hf : ∀ k, (f k).length = s)
    (h : p.Has pos ((List.range n).flatMap f)) {k : Nat} (hk : k < n) :
    p.Has (pos + k * s) (f k) := by
  induction n with
  | zero => omega
  | succ n ih =>
    rw [List.range_succ, List.flatMap_append, List.flatMap_singleton] at h
    rcases Nat.lt_succ_iff_lt_or_eq.1 hk with hk | rfl
    · exact ih h.left hk
    · have := h.right
      rwa [Expr.length_flatMap_range hf] at this

theorem Has.times {e : Expr} {count : Nat} (h : p.Has pos ((Expr.times count e).emit pos next)) :
    (∀ k < count, p.Has (pos + k * e.size)
      (e.emit (pos + k * e.size) (pos + (k + 1) * e.size))) ∧
      p.insts[pos + count * e.size]? = some (.jump next) := by
  have hlength : ∀ k, (e.emit (pos + k * e.size) (pos + (k + 1) * e.size)).length = e.size :=
    fun k => Expr.length_emit ..
  have hjump := h.right
  rw [Expr.length_flatMap_range hlength] at hjump
  exact ⟨fun k hk => h.left.part hlength hk, hjump.head⟩

theorem Has.upTo {e : Expr} {count : Nat} {greedy : Bool}
    (h : p.Has pos ((Expr.upTo count greedy e).emit pos next)) :
    (∀ k < count,
      p.insts[pos + k * (e.size + 1)]? =
        some (Expr.choice greedy (pos + k * (e.size + 1) + 1) next) ∧
      p.Has (pos + k * (e.size + 1) + 1)
        (e.emit (pos + k * (e.size + 1) + 1) (pos + (k + 1) * (e.size + 1)))) ∧
      p.insts[pos + count * (e.size + 1)]? = some (.jump next) := by
  have hlength : ∀ k, (Expr.choice greedy (pos + k * (e.size + 1) + 1) next ::
      e.emit (pos + k * (e.size + 1) + 1) (pos + k * (e.size + 1) + 1 + e.size)).length =
        e.size + 1 := fun k => by simp
  have hjump := h.right
  rw [Expr.length_flatMap_range hlength] at hjump
  refine ⟨fun k hk => ?_, hjump.head⟩
  have hpart := h.left.part hlength hk
  have hnext : pos + (k + 1) * (e.size + 1) = pos + k * (e.size + 1) + 1 + e.size := by
    rw [Nat.succ_mul]
    omega
  rw [hnext]
  exact ⟨hpart.head, hpart.tail⟩

theorem Leads.exists_step {t : Thread} (h : p.Leads text n t stop) (ht : p.accepts t = false) :
    ∃ m < n, ∃ u ∈ p.step text t, p.Leads text m u stop := by
  cases h with
  | accept hacc => rw [ht] at hacc; cases hacc
  | step hu h => exact ⟨_, Nat.lt_succ_self _, _, hu, h⟩

theorem Leads.of_jump (hinst : p.insts[pos]? = some (.jump next))
    (h : p.Leads text n ⟨pos, i⟩ stop) : ∃ m < n, p.Leads text m ⟨next, i⟩ stop := by
  obtain ⟨m, hm, u, hu, h⟩ := h.exists_step (by simp [accepts, hinst])
  obtain rfl : u = ⟨next, i⟩ := by simpa [Program.step, hinst] using hu
  exact ⟨m, hm, h⟩

theorem Leads.of_one {s : CharSet} (hinst : p.insts[pos]? = some (.one s next))
    (h : p.Leads text n ⟨pos, i⟩ stop) :
    (∃ c, text[i]? = some c ∧ s.contains c) ∧ ∃ m < n, p.Leads text m ⟨next, i + 1⟩ stop := by
  obtain ⟨m, hm, u, hu, h⟩ := h.exists_step (by simp [accepts, hinst])
  obtain ⟨hc, rfl⟩ : text[i]?.any s.contains ∧ u = ⟨next, i + 1⟩ := by
    simpa [Program.step, hinst] using hu
  exact ⟨by simpa [Option.any_eq_true] using hc, m, hm, h⟩

theorem Leads.of_look {l : Look} (hinst : p.insts[pos]? = some (.look l next))
    (h : p.Leads text n ⟨pos, i⟩ stop) :
    l.holds (if i = 0 then none else text[i - 1]?) text[i]? ∧
      ∃ m < n, p.Leads text m ⟨next, i⟩ stop := by
  obtain ⟨m, hm, u, hu, h⟩ := h.exists_step (by simp [accepts, hinst])
  simp only [Program.step, hinst] at hu
  by_cases hl : l.holds (if i = 0 then none else text[i - 1]?) text[i]?
  · obtain rfl : u = ⟨next, i⟩ := by simpa only [if_pos hl, List.mem_singleton] using hu
    exact ⟨hl, m, hm, h⟩
  · simp only [if_neg hl, List.not_mem_nil] at hu

theorem Leads.of_split {first second : Nat} (hinst : p.insts[pos]? = some (.split first second))
    (h : p.Leads text n ⟨pos, i⟩ stop) :
    ∃ m < n, p.Leads text m ⟨first, i⟩ stop ∨ p.Leads text m ⟨second, i⟩ stop := by
  obtain ⟨m, hm, u, hu, h⟩ := h.exists_step (by simp [accepts, hinst])
  obtain rfl | rfl : u = ⟨first, i⟩ ∨ u = ⟨second, i⟩ := by simpa [Program.step, hinst] using hu
  · exact ⟨m, hm, .inl h⟩
  · exact ⟨m, hm, .inr h⟩

theorem Leads.of_choice {greedy : Bool} {again : Nat}
    (hinst : p.insts[pos]? = some (Expr.choice greedy again next))
    (h : p.Leads text n ⟨pos, i⟩ stop) :
    ∃ m < n, p.Leads text m ⟨again, i⟩ stop ∨ p.Leads text m ⟨next, i⟩ stop := by
  cases greedy with
  | true => exact h.of_split hinst
  | false =>
    obtain ⟨m, hm, h⟩ := h.of_split hinst
    exact ⟨m, hm, h.symm⟩

theorem Leads.of_accept (hinst : p.insts[pos]? = some .accept)
    (h : p.Leads text n ⟨pos, i⟩ stop) : stop = i := by
  cases h with
  | accept => rfl
  | step hu => simp [Program.step, hinst] at hu

end

end Program

namespace Expr

open Program

variable {p : Program} {text : Array Char} {stop : Nat}

/-- What the instructions of an expression do to a thread that comes to accept. -/
def Follows (p : Program) (text : Array Char) (stop : Nat) (e : Expr) : Prop :=
  ∀ {pos next i n : Nat}, p.Has pos (e.emit pos next) → p.Leads text n ⟨pos, i⟩ stop →
    ∃ j, ∃ m < n, e.Spans text i j ∧ p.Leads text m ⟨next, j⟩ stop

theorem follows_cat {a b : Expr} (iha : Follows p text stop a) (ihb : Follows p text stop b) :
    Follows p text stop (.cat a b) := by
  intro pos next i n hcode h
  obtain ⟨j, m, hm, ha, h⟩ := iha hcode.left h
  obtain ⟨k, m', hm', hb, h⟩ := ihb (by simpa using hcode.right) h
  exact ⟨k, m', by omega, .cat ha hb, h⟩

theorem follows_alt {a b : Expr} (iha : Follows p text stop a) (ihb : Follows p text stop b) :
    Follows p text stop (.alt a b) := by
  intro pos next i n hcode h
  obtain ⟨m, hm, h | h⟩ := h.of_split hcode.head
  · obtain ⟨j, m', hm', ha, h⟩ := iha hcode.tail.left h
    exact ⟨j, m', by omega, .altLeft ha, h⟩
  · obtain ⟨j, m', hm', hb, h⟩ := ihb (by simpa using hcode.tail.right) h
    exact ⟨j, m', by omega, .altRight hb, h⟩

theorem follows_times {e : Expr} {count : Nat} (ih : Follows p text stop e) :
    Follows p text stop (.times count e) := by
  intro pos next i n hcode h
  obtain ⟨hcopies, hjump⟩ := hcode.times
  -- from the copy number `count - left` on
  have hrest : ∀ left k i n, k + left = count → p.Leads text n ⟨pos + k * e.size, i⟩ stop →
      ∃ j, ∃ m < n, (Expr.times left e).Spans text i j ∧ p.Leads text m ⟨next, j⟩ stop := by
    intro left
    induction left with
    | zero =>
      intro k i n hk h
      obtain rfl : k = count := by omega
      obtain ⟨m, hm, h⟩ := h.of_jump hjump
      exact ⟨i, m, hm, .timesZero, h⟩
    | succ left ihleft =>
      intro k i n hk h
      obtain ⟨j, m, hm, he, h⟩ := ih (hcopies k (by omega)) h
      obtain ⟨l, m', hm', hmore, h⟩ := ihleft (k + 1) j m (by omega) h
      exact ⟨l, m', by omega, .timesSucc he hmore, h⟩
  exact hrest count 0 i n (Nat.zero_add _) (by simpa using h)

theorem follows_upTo {e : Expr} {count : Nat} {greedy : Bool} (ih : Follows p text stop e) :
    Follows p text stop (.upTo count greedy e) := by
  intro pos next i n hcode h
  obtain ⟨hcopies, hjump⟩ := hcode.upTo
  have hrest : ∀ left k i n, k + left = count → p.Leads text n ⟨pos + k * (e.size + 1), i⟩ stop →
      ∃ j, ∃ m < n, (Expr.upTo left greedy e).Spans text i j ∧ p.Leads text m ⟨next, j⟩ stop := by
    intro left
    induction left with
    | zero =>
      intro k i n hk h
      obtain rfl : k = count := by omega
      obtain ⟨m, hm, h⟩ := h.of_jump hjump
      exact ⟨i, m, hm, .upToStop, h⟩
    | succ left ihleft =>
      intro k i n hk h
      obtain ⟨hchoice, hcopy⟩ := hcopies k (by omega)
      obtain ⟨m, hm, h | h⟩ := h.of_choice hchoice
      · obtain ⟨j, m', hm', he, h⟩ := ih hcopy h
        obtain ⟨l, m'', hm'', hmore, h⟩ := ihleft (k + 1) j m' (by omega) h
        exact ⟨l, m'', by omega, .upToSucc he hmore, h⟩
      · exact ⟨i, m, hm, .upToStop, h⟩
  exact hrest count 0 i n (Nat.zero_add _) (by simpa using h)

theorem follows_star {e : Expr} {greedy : Bool} (ih : Follows p text stop e) :
    Follows p text stop (.star greedy e) := by
  intro pos next i n hcode h
  induction n using Nat.strongRecOn generalizing i with
  | ind n ihn =>
    obtain ⟨m, hm, h | h⟩ := h.of_choice hcode.head
    · obtain ⟨j, m', hm', he, h⟩ := ih hcode.tail h
      obtain ⟨k, m'', hm'', hmore, h⟩ := ihn m' (by omega) h
      exact ⟨k, m'', by omega, .starStep he hmore, h⟩
    · exact ⟨i, m, hm, .starStop, h⟩

theorem follows_plus {e : Expr} {greedy : Bool} (ih : Follows p text stop e) :
    Follows p text stop (.plus greedy e) := by
  intro pos next i n hcode h
  induction n using Nat.strongRecOn generalizing i with
  | ind n ihn =>
    obtain ⟨j, m, hm, he, h⟩ := ih hcode.left h
    have hchoice : p.insts[pos + e.size]? = some (choice greedy pos next) := by
      simpa using hcode.right.head
    obtain ⟨m', hm', h | h⟩ := h.of_choice hchoice
    · obtain ⟨k, m'', hm'', hmore, h⟩ := ihn m' (by omega) h
      cases hmore with
      | plus he' hstar => exact ⟨k, m'', by omega, .plus he (.starStep he' hstar), h⟩
    · exact ⟨j, m', by omega, .plus he .starStop, h⟩

theorem follows (e : Expr) : Follows p text stop e := by
  induction e with
  | empty =>
    intro pos next i n hcode h
    obtain ⟨m, hm, h⟩ := h.of_jump hcode.head
    exact ⟨i, m, hm, .empty, h⟩
  | one s =>
    intro pos next i n hcode h
    obtain ⟨⟨c, hc, hs⟩, m, hm, h⟩ := h.of_one hcode.head
    exact ⟨i + 1, m, hm, .one hc hs, h⟩
  | look l =>
    intro pos next i n hcode h
    obtain ⟨hl, m, hm, h⟩ := h.of_look hcode.head
    exact ⟨i, m, hm, .look hl, h⟩
  | cat a b iha ihb => exact follows_cat iha ihb
  | alt a b iha ihb => exact follows_alt iha ihb
  | times count e ih => exact follows_times ih
  | upTo count greedy e ih => exact follows_upTo ih
  | star greedy e ih => exact follows_star ih
  | plus greedy e ih => exact follows_plus ih

end Expr

namespace Program

theorem explore_leads {p : Program} {text : Array Char} {fuel stop : Nat} {stack : List Thread}
    {visited : Std.TreeSet Nat} (h : (p.explore text fuel stack visited).stop = some stop) :
    ∃ t ∈ stack, ∃ n, p.Leads text n t stop := by
  fun_induction explore p text fuel stack visited with
  | case1 => cases h
  | case2 => cases h
  | case3 fuel t stack visited _ ih =>
    obtain ⟨u, hu, n, hn⟩ := ih h
    exact ⟨u, List.mem_cons_of_mem _ hu, n, hn⟩
  | case4 fuel t stack visited _ hacc =>
    obtain rfl : t.pos = stop := by simpa using h
    exact ⟨t, List.mem_cons_self, 0, .accept hacc⟩
  | case5 fuel t stack visited _ _ ih =>
    obtain ⟨u, hu, n, hn⟩ := ih h
    rcases List.mem_append.1 hu with hu | hu
    · exact ⟨t, List.mem_cons_self, n + 1, .step hu hn⟩
    · exact ⟨u, List.mem_cons_of_mem _ hu, n, hn⟩

theorem findFrom_leads {p : Program} {text : Array Char} {left start stop : Nat}
    {visited : Std.TreeSet Nat} (h : p.findFrom text left visited = some (start, stop)) :
    start ≤ text.size ∧ ∃ n, p.Leads text n ⟨0, start⟩ stop := by
  induction left generalizing visited with
  | zero => cases h
  | succ left ih =>
    rw [findFrom] at h
    split at h
    · next stop' hstop =>
      obtain ⟨rfl, rfl⟩ : text.size - left = start ∧ stop' = stop := by simpa using h
      obtain ⟨t, ht, n, hn⟩ := explore_leads hstop
      obtain rfl : t = ⟨0, text.size - left⟩ := by simpa using ht
      exact ⟨Nat.sub_le .., n, hn⟩
    · exact ih h

theorem find?_ofExpr_spans {e : Expr} {text : Array Char} {start stop : Nat}
    (h : (ofExpr e).find? text = some (start, stop)) :
    start ≤ text.size ∧ e.Spans text start stop := by
  obtain ⟨hstart, n, hn⟩ := findFrom_leads h
  have hcode : (ofExpr e).Has 0 (e.emit 0 e.size ++ [.accept]) := by
    intro k inst hk
    simpa [ofExpr] using hk
  obtain ⟨j, m, -, hspans, hm⟩ := Expr.follows e hcode.left hn
  have hend : (ofExpr e).insts[e.size]? = some .accept := by simpa using hcode.right.head
  obtain rfl : stop = j := hm.of_accept hend
  exact ⟨hstart, hspans⟩

end Program

end InlineAssert.Pattern
