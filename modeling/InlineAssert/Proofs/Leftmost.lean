import InlineAssert.Proofs.Search
import Mathlib.Data.Finset.Card
import Mathlib.Data.Finset.Range

/-! A search misses no match: it finds one if there is one, and no match starts before the one
found. The threads that were visited in vain are closed under steps once the stack is empty, and
the fuel lasts until then. -/

namespace InlineAssert.Pattern

def Inst.targets : Inst → List Nat
  | .jump next | .one _ next | .look _ next => [next]
  | .split first second => [first, second]
  | .accept => []

namespace Expr

theorem size_pos (e : Expr) : 0 < e.size := by
  induction e with
  | cat a b iha _ => simp only [size]; omega
  | _ => simp only [size]; omega

theorem targets_choice {greedy : Bool} {again next a : Nat}
    (h : a ∈ (choice greedy again next).targets) : a = again ∨ a = next := by
  cases greedy with
  | true => simpa [choice, Inst.targets] using h
  | false => simpa [choice, Inst.targets, or_comm] using h

theorem targets_emit (e : Expr) {pos next a : Nat} {inst : Inst} (hinst : inst ∈ e.emit pos next)
    (ha : a ∈ inst.targets) : a = next ∨ pos ≤ a ∧ a < pos + e.size := by
  induction e generalizing pos next with
  | empty => simp_all [emit, Inst.targets]
  | one s => simp_all [emit, Inst.targets]
  | look l => simp_all [emit, Inst.targets]
  | cat b c ihb ihc =>
    simp only [emit, List.mem_append] at hinst
    have := c.size_pos
    simp only [size]
    cases hinst with
    | inl hinst => have := ihb hinst; omega
    | inr hinst => have := ihc hinst; omega
  | alt b c ihb ihc =>
    simp only [emit, List.mem_cons, List.mem_append] at hinst
    have := b.size_pos
    have := c.size_pos
    simp only [size]
    rcases hinst with rfl | hinst | hinst
    · simp only [Inst.targets, List.mem_cons, List.not_mem_nil, or_false] at ha
      omega
    · have := ihb hinst; omega
    · have := ihc hinst; omega
  | times n e ih =>
    simp only [emit, List.mem_append, List.mem_flatMap, List.mem_range, List.mem_singleton] at hinst
    simp only [size]
    rcases hinst with ⟨k, hk, hinst⟩ | rfl
    · have hle : (k + 1) * e.size ≤ n * e.size := Nat.mul_le_mul_right _ hk
      have := ih hinst
      rw [Nat.succ_mul] at *
      omega
    · simp only [Inst.targets, List.mem_singleton] at ha
      omega
  | upTo n greedy e ih =>
    simp only [emit, List.mem_append, List.mem_flatMap, List.mem_range, List.mem_cons,
      List.not_mem_nil, or_false] at hinst
    simp only [size]
    rcases hinst with ⟨k, hk, hinst⟩ | rfl
    · have hle : (k + 1) * (e.size + 1) ≤ n * (e.size + 1) := Nat.mul_le_mul_right _ hk
      rw [Nat.succ_mul] at hle
      have := e.size_pos
      rcases hinst with rfl | hinst
      · have := targets_choice ha; omega
      · have := ih hinst; omega
    · simp only [Inst.targets, List.mem_singleton] at ha
      omega
  | star greedy e ih =>
    simp only [emit, List.mem_cons] at hinst
    have := e.size_pos
    simp only [size]
    rcases hinst with rfl | hinst
    · have := targets_choice ha; omega
    · have := ih hinst; omega
  | plus greedy e ih =>
    simp only [emit, List.mem_append, List.mem_singleton] at hinst
    simp only [size]
    rcases hinst with hinst | rfl
    · have := ih hinst; omega
    · have := targets_choice ha; omega

end Expr

namespace Program

def Closed (p : Program) : Prop :=
  ∀ inst ∈ p.insts, ∀ a ∈ inst.targets, a < p.insts.size

def Inside (p : Program) (text : Array Char) (t : Thread) : Prop :=
  t.inst < p.insts.size ∧ t.pos ≤ text.size

/-- No thread visited accepts, and what it goes on with is visited or still on the stack. -/
def Settled (p : Program) (text : Array Char) (visited : Std.TreeSet Nat)
    (stack : List Thread) : Prop :=
  ∀ t, p.Inside text t → p.number t ∈ visited →
    p.accepts t = false ∧ ∀ u ∈ p.step text t, p.number u ∈ visited ∨ u ∈ stack

def unvisited (p : Program) (text : Array Char) (visited : Std.TreeSet Nat) : Finset Nat :=
  (Finset.range (p.insts.size * (text.size + 1))).filter (· ∉ visited)

theorem size_ofExpr (e : Expr) : (ofExpr e).insts.size = e.size + 1 := by
  simp [ofExpr]

theorem closed_ofExpr (e : Expr) : (ofExpr e).Closed := by
  intro inst hinst a ha
  rw [size_ofExpr]
  simp only [ofExpr, List.mem_toArray, List.mem_append, List.mem_singleton] at hinst
  rcases hinst with hinst | rfl
  · have := e.targets_emit hinst ha
    omega
  · cases ha

variable {p : Program} {text : Array Char} {t u : Thread} {visited : Std.TreeSet Nat}
  {stack : List Thread}

theorem exists_of_step (h : u ∈ p.step text t) :
    (∃ inst ∈ p.insts, u.inst ∈ inst.targets) ∧
      (u.pos = t.pos ∨ t.pos < text.size ∧ u.pos = t.pos + 1) := by
  rw [step] at h
  split at h
  · next next hinst =>
    obtain rfl : u = ⟨next, t.pos⟩ := by simpa using h
    exact ⟨⟨_, Array.mem_of_getElem? hinst, by simp [Inst.targets]⟩, .inl rfl⟩
  · next s next hinst =>
    obtain ⟨hc, rfl⟩ : text[t.pos]?.any s.contains ∧ u = ⟨next, t.pos + 1⟩ := by simpa using h
    obtain ⟨c, hc, -⟩ := (Option.any_eq_true ..).1 hc
    exact ⟨⟨_, Array.mem_of_getElem? hinst, by simp [Inst.targets]⟩,
      .inr ⟨(Array.getElem?_eq_some_iff.1 hc).1, rfl⟩⟩
  · next l next hinst =>
    obtain ⟨-, rfl⟩ : _ ∧ u = ⟨next, t.pos⟩ := by simpa using h
    exact ⟨⟨_, Array.mem_of_getElem? hinst, by simp [Inst.targets]⟩, .inl rfl⟩
  · next first second hinst =>
    obtain rfl | rfl : u = ⟨first, t.pos⟩ ∨ u = ⟨second, t.pos⟩ := by simpa using h
    · exact ⟨⟨_, Array.mem_of_getElem? hinst, by simp [Inst.targets]⟩, .inl rfl⟩
    · exact ⟨⟨_, Array.mem_of_getElem? hinst, by simp [Inst.targets]⟩, .inl rfl⟩
  · cases h

theorem Inside.step (hp : p.Closed) (ht : p.Inside text t) (h : u ∈ p.step text t) :
    p.Inside text u := by
  obtain ⟨⟨inst, hinst, hu⟩, hpos⟩ := exists_of_step h
  have := ht.2
  exact ⟨hp inst hinst _ hu, by omega⟩

theorem number_inj (ht : p.Inside text t) (hu : p.Inside text u) (h : p.number t = p.number u) :
    t = u := by
  obtain ⟨inst, pos⟩ := t
  obtain ⟨inst', pos'⟩ := u
  have hlt : inst < p.insts.size := ht.1
  have hlt' : inst' < p.insts.size := hu.1
  simp only [number, Nat.mul_comm _ p.insts.size] at h
  have hinst : inst = inst' := by
    have := congrArg (· % p.insts.size) h
    simpa [Nat.mul_add_mod, Nat.mod_eq_of_lt hlt, Nat.mod_eq_of_lt hlt'] using this
  subst hinst
  have hpos : p.insts.size * pos = p.insts.size * pos' := by omega
  rw [Nat.eq_of_mul_eq_mul_left (by omega) hpos]

theorem number_lt (ht : p.Inside text t) : p.number t < p.insts.size * (text.size + 1) := by
  have hle : p.insts.size * (t.pos + 1) ≤ p.insts.size * (text.size + 1) :=
    Nat.mul_le_mul_left _ (Nat.succ_le_succ ht.2)
  have := ht.1
  rw [Nat.mul_succ] at hle
  rw [number, Nat.mul_comm]
  omega

theorem mem_visited_insert {a b : Nat} : a ∈ visited.insert b ↔ a = b ∨ a ∈ visited := by
  rw [Std.TreeSet.mem_insert, Std.LawfulEqCmp.compare_eq_iff_eq, eq_comm]

theorem card_unvisited_insert (ht : p.Inside text t) (hnew : p.number t ∉ visited) :
    (p.unvisited text (visited.insert (p.number t))).card + 1 = (p.unvisited text visited).card := by
  have hmem : p.number t ∈ p.unvisited text visited := by
    simp [unvisited, number_lt ht, hnew]
  have herase : p.unvisited text (visited.insert (p.number t)) =
      (p.unvisited text visited).erase (p.number t) := by
    ext n
    simp only [unvisited, Finset.mem_filter, Finset.mem_erase, mem_visited_insert, not_or]
    exact and_left_comm
  rw [herase, Finset.card_erase_add_one hmem]

theorem length_step_le (p : Program) (text : Array Char) (t : Thread) :
    (p.step text t).length ≤ 2 := by
  rw [step]
  split
  · exact Nat.le_succ 1
  · split <;> simp
  · next l _ _ =>
    cases l.holds (if t.pos = 0 then none else text[t.pos - 1]?) text[t.pos]? <;> simp
  · exact Nat.le_refl 2
  · exact Nat.zero_le 2

theorem Settled.pop (h : p.Settled text visited (t :: stack)) (ht : p.number t ∈ visited) :
    p.Settled text visited stack := by
  intro u hu hmem
  refine ⟨(h u hu hmem).1, fun v hv => ?_⟩
  rcases (h u hu hmem).2 v hv with hv | hv
  · exact .inl hv
  · cases hv with
    | head => exact .inl ht
    | tail _ hv => exact .inr hv

theorem Settled.visit (h : p.Settled text visited (t :: stack)) (ht : p.Inside text t)
    (haccept : p.accepts t = false) :
    p.Settled text (visited.insert (p.number t)) (p.step text t ++ stack) := by
  intro u hu hmem
  by_cases heq : p.number u = p.number t
  · obtain rfl := number_inj hu ht heq
    exact ⟨haccept, fun v hv => .inr (List.mem_append_left _ hv)⟩
  · have hmem : p.number u ∈ visited := (mem_visited_insert.1 hmem).resolve_left heq
    refine ⟨(h u hu hmem).1, fun v hv => ?_⟩
    rcases (h u hu hmem).2 v hv with hv | hv
    · exact .inl (mem_visited_insert.2 (.inr hv))
    · cases hv with
      | head => exact .inl (mem_visited_insert.2 (.inl rfl))
      | tail _ hv => exact .inr (List.mem_append_right _ hv)

theorem settled_explore (hp : p.Closed) {fuel : Nat} (hstack : ∀ t ∈ stack, p.Inside text t)
    (hsettled : p.Settled text visited stack)
    (hfuel : 2 * (p.unvisited text visited).card + stack.length ≤ fuel)
    (h : (p.explore text fuel stack visited).stop = none) :
    p.Settled text (p.explore text fuel stack visited).visited [] ∧
      (∀ n ∈ visited, n ∈ (p.explore text fuel stack visited).visited) ∧
      ∀ t ∈ stack, p.number t ∈ (p.explore text fuel stack visited).visited := by
  fun_induction explore p text fuel stack visited with
  | case1 => exact ⟨hsettled, fun _ hn => hn, by simp⟩
  | case2 => simp at hfuel
  | case3 fuel t stack visited hmem ih =>
    have hmem : p.number t ∈ visited := hmem
    obtain ⟨hdone, hkeep, hall⟩ := ih (fun u hu => hstack u (List.mem_cons_of_mem _ hu))
      (hsettled.pop hmem) (by simp only [List.length_cons] at hfuel; omega) h
    refine ⟨hdone, hkeep, fun u hu => ?_⟩
    cases hu with
    | head => exact hkeep _ hmem
    | tail _ hu => exact hall u hu
  | case4 => cases h
  | case5 fuel t stack visited hmem haccept ih =>
    have ht : p.Inside text t := hstack t List.mem_cons_self
    -- at most two threads come onto the stack for each that is visited, which pays two
    have hcard := card_unvisited_insert ht hmem
    have hlength := length_step_le p text t
    obtain ⟨hdone, hkeep, hall⟩ := ih
      (fun u hu => (List.mem_append.1 hu).elim (ht.step hp)
        fun hu => hstack u (List.mem_cons_of_mem _ hu))
      (hsettled.visit ht (by simpa using haccept))
      (by simp only [List.length_cons, List.length_append] at hfuel ⊢; omega) h
    refine ⟨hdone, fun n hn => hkeep n (mem_visited_insert.2 (.inr hn)), fun u hu => ?_⟩
    cases hu with
    | head => exact hkeep _ (mem_visited_insert.2 (.inl rfl))
    | tail _ hu => exact hall u (List.mem_append_right _ hu)

theorem Settled.not_leads (hp : p.Closed) (h : p.Settled text visited []) {n stop : Nat}
    (ht : p.Inside text t) (hmem : p.number t ∈ visited) : ¬ p.Leads text n t stop := by
  intro hleads
  induction hleads with
  | accept haccept => simp [(h _ ht hmem).1] at haccept
  | step hu _ ih =>
    apply ih (ht.step hp hu)
    simpa using (h _ ht hmem).2 _ hu

theorem not_leads_of_findFrom (hp : p.Closed) (hsize : 0 < p.insts.size) {left : Nat}
    (hleft : left ≤ text.size + 1) (hsettled : p.Settled text visited []) {start n stop : Nat}
    (hfirst : text.size + 1 - left ≤ start) (hstart : start ≤ text.size)
    (hbefore : ∀ found, p.findFrom text left visited = some found → start < found.1) :
    ¬ p.Leads text n ⟨0, start⟩ stop := by
  induction left generalizing visited with
  | zero => omega
  | succ left ih =>
    rw [findFrom] at hbefore
    have hinside : p.Inside text ⟨0, text.size - left⟩ := ⟨hsize, Nat.sub_le ..⟩
    split at hbefore
    · have := hbefore _ rfl
      simp only at this
      omega
    · next hnone =>
      have hfuel : 2 * (p.unvisited text visited).card + 1 ≤ p.fuel text := by
        have hcard : (p.unvisited text visited).card ≤ p.insts.size * (text.size + 1) :=
          (Finset.card_filter_le ..).trans_eq (Finset.card_range _)
        rw [fuel, Nat.mul_assoc]
        omega
      obtain ⟨hdone, -, hall⟩ := settled_explore hp (by simpa using hinside)
        (fun t ht hmem => ⟨(hsettled t ht hmem).1, fun u hu => by
          simpa using Or.inl (by simpa using (hsettled t ht hmem).2 u hu)⟩)
        (by simpa using hfuel) hnone
      rcases Nat.eq_or_lt_of_le (show text.size - left ≤ start by omega) with rfl | hlater
      · exact hdone.not_leads hp hinside (hall _ List.mem_cons_self)
      · exact ih (by omega) hdone (by omega) hbefore

section

variable {pos next i j k stop : Nat}

def Reaches (p : Program) (text : Array Char) (stop : Nat) (t : Thread) : Prop :=
  ∃ n, p.Leads text n t stop

theorem Reaches.of_step (hu : u ∈ p.step text t) (h : p.Reaches text stop u) :
    p.Reaches text stop t := by
  obtain ⟨n, h⟩ := h
  exact ⟨n + 1, .step hu h⟩

theorem Reaches.jump (hinst : p.insts[pos]? = some (.jump next))
    (h : p.Reaches text stop ⟨next, i⟩) : p.Reaches text stop ⟨pos, i⟩ :=
  .of_step (by simp [Program.step, hinst]) h

theorem Reaches.choice {greedy : Bool} {again : Nat}
    (hinst : p.insts[pos]? = some (Expr.choice greedy again next))
    (h : p.Reaches text stop ⟨again, i⟩ ∨ p.Reaches text stop ⟨next, i⟩) :
    p.Reaches text stop ⟨pos, i⟩ := by
  cases h with
  | inl h => exact .of_step (by cases greedy <;> simp [Program.step, hinst, Expr.choice]) h
  | inr h => exact .of_step (by cases greedy <;> simp [Program.step, hinst, Expr.choice]) h

end

end Program

namespace Expr

open Program

variable {p : Program} {text : Array Char} {stop : Nat}

/-- Whatever an expression matches, its instructions lead over to what comes after it. -/
def Crosses (p : Program) (text : Array Char) (stop : Nat) (e : Expr) : Prop :=
  ∀ {pos next i j : Nat}, p.Has pos (e.emit pos next) → e.Spans text i j →
    p.Reaches text stop ⟨next, j⟩ → p.Reaches text stop ⟨pos, i⟩

theorem crosses_times {e : Expr} {count : Nat} (ih : Crosses p text stop e) :
    Crosses p text stop (.times count e) := by
  intro pos next i j hcode hspans h
  obtain ⟨hcopies, hjump⟩ := hcode.times
  -- from the copy number `count - left` on
  have hrest : ∀ left k i, k + left = count → (Expr.times left e).Spans text i j →
      p.Reaches text stop ⟨pos + k * e.size, i⟩ := by
    intro left
    induction left with
    | zero =>
      intro k i hk hspans
      cases hspans
      obtain rfl : k = count := by omega
      exact .jump hjump h
    | succ left ihleft =>
      intro k i hk hspans
      cases hspans with
      | timesSucc hfirst hmore =>
        apply ih (hcopies k (by omega)) hfirst
        exact ihleft (k + 1) _ (by omega) hmore
  simpa using hrest count 0 i (Nat.zero_add _) hspans

theorem crosses_upTo {e : Expr} {count : Nat} {greedy : Bool} (ih : Crosses p text stop e) :
    Crosses p text stop (.upTo count greedy e) := by
  intro pos next i j hcode hspans h
  obtain ⟨hcopies, hjump⟩ := hcode.upTo
  have hrest : ∀ left k i, k + left = count → (Expr.upTo left greedy e).Spans text i j →
      p.Reaches text stop ⟨pos + k * (e.size + 1), i⟩ := by
    intro left
    induction left with
    | zero =>
      intro k i hk hspans
      cases hspans
      obtain rfl : k = count := by omega
      exact .jump hjump h
    | succ left ihleft =>
      intro k i hk hspans
      obtain ⟨hchoice, hcopy⟩ := hcopies k (by omega)
      apply Reaches.choice hchoice
      cases hspans with
      | upToStop => exact .inr h
      | upToSucc hfirst hmore =>
        exact .inl (ih hcopy hfirst (ihleft (k + 1) _ (by omega) hmore))
  simpa using hrest count 0 i (Nat.zero_add _) hspans

theorem reaches_loop {e : Expr} {greedy : Bool} {here again next i j : Nat}
    (ih : Crosses p text stop e) (hchoice : p.insts[here]? = some (choice greedy again next))
    (hcode : p.Has again (e.emit again here)) (hspans : (Expr.star greedy e).Spans text i j)
    (h : p.Reaches text stop ⟨next, j⟩) : p.Reaches text stop ⟨here, i⟩ := by
  generalize hstar : Expr.star greedy e = star at hspans
  induction hspans with
  | starStop =>
    cases hstar
    exact .choice hchoice (.inr h)
  | starStep hfirst _ _ ihmore =>
    cases hstar
    exact .choice hchoice (.inl (ih hcode hfirst (ihmore h rfl)))
  | _ => cases hstar

theorem crosses (e : Expr) : Crosses p text stop e := by
  induction e with
  | empty =>
    intro pos next i j hcode hspans h
    cases hspans
    exact .jump hcode.head h
  | one s =>
    intro pos next i j hcode hspans h
    cases hspans with
    | one hc hs => exact .of_step (by simp [Program.step, hcode.head, hc, hs]) h
  | look l =>
    intro pos next i j hcode hspans h
    cases hspans with
    | look hl => exact .of_step (by simp only [Program.step, hcode.head, if_pos hl]; simp) h
  | cat a b iha ihb =>
    intro pos next i j hcode hspans h
    cases hspans with
    | cat ha hb => exact iha hcode.left ha (ihb (by simpa using hcode.right) hb h)
  | alt a b iha ihb =>
    intro pos next i j hcode hspans h
    cases hspans with
    | altLeft ha => exact .of_step (by simp [Program.step, hcode.head]) (iha hcode.tail.left ha h)
    | altRight hb =>
      have hb := ihb (by simpa using hcode.tail.right) hb h
      exact .of_step (by simp [Program.step, hcode.head]) hb
  | times count e ih => exact crosses_times ih
  | upTo count greedy e ih => exact crosses_upTo ih
  | star greedy e ih =>
    intro pos next i j hcode hspans h
    exact reaches_loop ih hcode.head hcode.tail hspans h
  | plus greedy e ih =>
    intro pos next i j hcode hspans h
    have hchoice : p.insts[pos + e.size]? = some (choice greedy pos next) := by
      simpa using hcode.right.head
    cases hspans with
    | plus hfirst hmore => exact ih hcode.left hfirst (reaches_loop ih hchoice hcode.left hmore h)

end Expr

namespace Program

variable {e : Expr} {text : Array Char} {i j : Nat}

theorem not_spans_of_find? (hi : i ≤ text.size)
    (hbefore : ∀ found, (ofExpr e).find? text = some found → i < found.1) :
    ¬ e.Spans text i j := by
  intro hspans
  have hcode : (ofExpr e).Has 0 (e.emit 0 e.size ++ [.accept]) := by
    intro k inst hk
    simpa [ofExpr] using hk
  have hend : (ofExpr e).insts[e.size]? = some .accept := by simpa using hcode.right.head
  have haccept : (ofExpr e).Reaches text j ⟨e.size, j⟩ := ⟨0, .accept (by simp [accepts, hend])⟩
  obtain ⟨n, hleads⟩ := e.crosses hcode.left hspans haccept
  have hsettled : (ofExpr e).Settled text ∅ [] :=
    fun t _ hmem => absurd hmem Std.TreeSet.not_mem_emptyc
  exact not_leads_of_findFrom (closed_ofExpr e) (by simp [size_ofExpr]) (Nat.le_refl _) hsettled
    (by omega) hi hbefore hleads

theorem find?_ofExpr_eq_none_iff :
    (ofExpr e).find? text = none ↔ ∀ i ≤ text.size, ∀ j, ¬ e.Spans text i j := by
  constructor
  · intro h i hi j
    exact not_spans_of_find? hi (by simp [h])
  · intro h
    cases hfind : (ofExpr e).find? text with
    | none => rfl
    | some found =>
      obtain ⟨hi, hspans⟩ := find?_ofExpr_spans hfind
      exact absurd hspans (h _ hi _)

end Program

end InlineAssert.Pattern
