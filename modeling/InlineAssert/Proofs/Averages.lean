import InlineAssert.Measurement
import InlineAssert.Proofs.Windows
import Mathlib.Algebra.BigOperators.Group.List.Basic
import Mathlib.Data.List.Induction

namespace InlineAssert

def Action.tallied (op : Action σ) : Action (Nat × σ) := fun ((k, s), c) =>
  let (s, c) := op (s, c)
  ((k + 1, s), c)

namespace Bencher

inductive Grants (op : Action σ) : σ × Counter → List (List Request) → σ × Counter → Prop
  | nil : Grants op t [] t
  | cons : (op t).2 = ⟨true, t.2.counts.plus granted⟩ → Grants op (op t) grants t' →
      Grants op t (granted :: grants) t'

def allocs (grants : List (List Request)) : Nat := (grants.map List.length).sum

def bytes (grants : List (List Request)) : Nat :=
  (grants.map fun granted => (granted.map Request.cost).sum).sum

/-- An operation is run from `t` on and then, in a window, `n` times up to `t'`. It closes the
windows that it opens, and the counter has room for all that is granted in the window. -/
structure Measures (n : Nat) (op : Action σ) (t : σ × Counter) (grants : List (List Request))
    (t' : σ × Counter) : Prop where
  closes : (op t).2.counting = t.2.counting
  runs : Grants op ((op t).1, { (op t).2 with counting := true }) grants t'
  length : grants.length = n
  allocs_lt : (op t).2.counts.allocs + allocs grants < 2 ^ 64
  bytes_lt : (op t).2.counts.bytes + bytes grants < 2 ^ 64

variable {op : Action σ} {t t' : σ × Counter} {grants : List (List Request)} {n : Nat}
  {b : Bencher}

theorem length_flatten (grants : List (List Request)) : grants.flatten.length = allocs grants :=
  List.length_flatten

theorem cost_flatten (grants : List (List Request)) :
    (grants.flatten.map Request.cost).sum = bytes grants := by
  rw [List.map_flatten, List.sum_flatten, List.map_map]
  rfl

theorem Grants.runs_eq (h : Grants op t grants t') : runs op grants.length t = t' := by
  induction h with
  | nil => rfl
  | cons _ _ ih => exact ih

theorem Grants.counter_eq (h : Grants op t grants t') (hopen : t.2.counting = true) :
    t'.2 = ⟨true, t.2.counts.plus grants.flatten⟩ := by
  induction h with
  | @nil t => exact congrArg (Counter.mk · t.2.counts) hopen
  | cons hrun _ ih =>
    rw [ih (by rw [hrun]), hrun, List.flatten_cons, Counts.plus, Counts.plus, Counts.plus,
      List.foldl_append]

theorem iter_eq (b : Bencher) (h : Measures b.iterations op t grants t') :
    b.iter op t =
      ({ b with measurement := some (.perRun ⟨allocs grants, bytes grants⟩ b.iterations) },
        t'.1, { t'.2 with counting := t.2.counting }) := by
  have hruns := h.runs.runs_eq
  have hcounter := h.runs.counter_eq rfl
  -- there is room for all that is granted, so nothing is cut off
  have hsince : t'.2.counts.since (op t).2.counts = ⟨allocs grants, bytes grants⟩ := by
    have hallocs := h.allocs_lt
    have hbytes := h.bytes_lt
    rw [← length_flatten] at hallocs
    rw [← cost_flatten] at hbytes
    rw [hcounter, ← length_flatten, ← cost_flatten]
    exact @Counts.since_plus _ [] _ hallocs hbytes
  rw [h.length] at hruns
  simp only [iter, Counter.window, hruns, Prod.fst_swap, Prod.snd_swap, h.closes, hsince]

theorem runs_tallied (op : Action σ) (n k : Nat) (s : σ) (c : Counter) :
    runs op.tallied n ((k, s), c) = ((k + n, (runs op n (s, c)).1), (runs op n (s, c)).2) := by
  induction n generalizing k s c with
  | zero => rfl
  | succ n ih =>
    rw [runs, Action.tallied, ih, runs, Nat.add_assoc, Nat.add_comm 1]

theorem iter_tallied (b : Bencher) (op : Action σ) (k : Nat) (s : σ) (c : Counter) :
    b.iter op.tallied ((k, s), c) =
      ((b.iter op (s, c)).1, (k + (b.iterations + 1), (b.iter op (s, c)).2.1),
        (b.iter op (s, c)).2.2) := by
  simp only [iter, Counter.window, Action.tallied, runs_tallied, Prod.fst_swap, Prod.snd_swap,
    Nat.add_assoc, Nat.add_comm 1]

section Steps

variable {steps later : List (Step σ)}

theorem iterations_step (b : Bencher) (t : σ × Counter) (s : Step σ) :
    (step (b, t) s).1.iterations = b.iterations := by
  cases s <;> rfl

theorem iterations_foldl_step (b : Bencher) (t : σ × Counter) (steps : List (Step σ)) :
    (steps.foldl step (b, t)).1.iterations = b.iterations := by
  induction steps generalizing b t with
  | nil => rfl
  | cons s steps ih => rw [List.foldl_cons, ih, iterations_step]

theorem foldl_step_of_other (b : Bencher) (t : σ × Counter) (h : ∀ op, .iter op ∉ later) :
    (later.foldl step (b, t)).1 = b := by
  induction later generalizing t with
  | nil => rfl
  | cons s later ih =>
    have hlater := fun t => ih t fun op hop => h op (List.mem_cons_of_mem _ hop)
    cases s with
    | iter op => exact absurd List.mem_cons_self (h op)
    | other act => exact hlater (act t)

theorem measurement_iter {b b' : Bencher} (h : b.iterations = b'.iterations) (op : Action σ)
    (t : σ × Counter) : (b.iter op t).1.measurement = (b'.iter op t).1.measurement := by
  simp only [iter, h]

theorem run_eq_of_last (N : Nat) (earlier : List (Step σ)) (op : Action σ) (t : σ × Counter)
    (h : ∀ op', .iter op' ∉ later) :
    (run N (earlier ++ .iter op :: later) t).1 =
      ((ofIterations N).iter op (run N earlier t).2).1.measurement := by
  rw [run, List.foldl_append, List.foldl_cons]
  simp only [step, foldl_step_of_other _ _ h]
  exact measurement_iter (iterations_foldl_step ..) ..

theorem exists_last (h : ∃ op, .iter op ∈ steps) :
    ∃ earlier op later, steps = earlier ++ .iter op :: later ∧
      ∀ op' : Action σ, .iter op' ∉ later := by
  induction steps using List.reverseRecOn with
  | nil => simp at h
  | append_singleton steps s ih =>
    cases s with
    | iter op => exact ⟨steps, op, [], rfl, by simp⟩
    | other act =>
      obtain ⟨earlier, op, later, rfl, hlater⟩ := ih (by simpa using h)
      exact ⟨earlier, op, later ++ [.other act], by simp, by simpa using hlater⟩

theorem run_eq_none_iff (N : Nat) (steps : List (Step σ)) (t : σ × Counter) :
    (run N steps t).1 = none ↔ ∀ op, .iter op ∉ steps := by
  constructor
  · rintro hnone op hop
    obtain ⟨earlier, op, later, rfl, hlater⟩ := exists_last ⟨op, hop⟩
    rw [run_eq_of_last N earlier op t hlater] at hnone
    cases hnone
  · intro h
    rw [run, foldl_step_of_other _ _ h]
    rfl

end Steps

theorem sum_map_of_alike {f : List Request → Nat} {a : Nat}
    (h : ∀ granted ∈ grants, f granted = a) : (grants.map f).sum = grants.length * a := by
  rw [List.map_congr_left h, List.map_const', List.sum_replicate_nat]

theorem perRun_eq {runs : Nat} (hruns : 0 < runs) (counts : Counts) :
    Measurement.perRun counts runs =
      ⟨(min (counts.allocs / runs) (2 ^ 63 - 1) : Nat),
        (min (counts.bytes / runs) (2 ^ 63 - 1) : Nat)⟩ := by
  rw [Measurement.perRun, Nat.max_eq_left hruns]
  rfl

theorem mean_of_alike {a runs : Nat} (hruns : 0 < runs) (ha : a < 2 ^ 63) :
    min (runs * a / runs) (2 ^ 63 - 1) = a := by
  rw [Nat.mul_div_cancel_left a hruns]
  omega

end Bencher

end InlineAssert
