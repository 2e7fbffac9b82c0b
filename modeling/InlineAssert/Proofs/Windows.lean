import InlineAssert.Allocation
import Mathlib.Algebra.GroupWithZero.Nat
import Mathlib.Data.List.Basic

/-! Counting windows. A program is told by the calls that its thread carries out, one after the
other, each with the number of windows that are open. What the thread then knows is told by that
number and by the granted requests before: it counts exactly inside a window, and it has counted
those requests that were made inside one. -/

namespace InlineAssert

namespace Counts

def add (c : Counts) (r : Request) : Counts :=
  ⟨min (c.allocs + 1) Counter.limit, min (c.bytes + r.cost) Counter.limit⟩

def plus (c : Counts) (requests : List Request) : Counts := requests.foldl add c

theorem plus_eq {c : Counts} {requests : List Request}
    (hallocs : c.allocs + requests.length < 2 ^ 64)
    (hbytes : c.bytes + (requests.map Request.cost).sum < 2 ^ 64) :
    c.plus requests = ⟨c.allocs + requests.length, c.bytes + (requests.map Request.cost).sum⟩ := by
  induction requests generalizing c with
  | nil => rfl
  | cons r requests ih =>
    rw [List.length_cons] at hallocs
    rw [List.map_cons, List.sum_cons] at hbytes
    have hadd : c.add r = ⟨c.allocs + 1, c.bytes + r.cost⟩ := by
      rw [add, Counter.limit, Nat.min_eq_left (by omega), Nat.min_eq_left (by omega)]
    rw [plus, List.foldl_cons, ← plus, hadd, ih (by simp only; omega) (by simp only; omega)]
    simp only [List.length_cons, List.map_cons, List.sum_cons, Counts.mk.injEq]
    omega

theorem since_plus {c : Counts} {as bs : List Request}
    (hallocs : c.allocs + (as ++ bs).length < 2 ^ 64)
    (hbytes : c.bytes + ((as ++ bs).map Request.cost).sum < 2 ^ 64) :
    (c.plus (as ++ bs)).since (c.plus as) = ⟨bs.length, (bs.map Request.cost).sum⟩ := by
  have hall := plus_eq hallocs hbytes
  rw [List.length_append] at hallocs
  rw [List.map_append, List.sum_append] at hbytes
  have has : c.plus as = ⟨c.allocs + as.length, c.bytes + (as.map Request.cost).sum⟩ :=
    plus_eq (by omega) (by omega)
  rw [hall, has]
  simp only [since, List.length_append, List.map_append, List.sum_append, Counts.mk.injEq]
  omega

end Counts

structure Moment where
  depth : Nat
  call : Call
  before : Counter

namespace Call

mutual

def within (depth : Nat) : Call → Counter → List Moment
  | .count calls, c => moments (depth + 1) calls { c with counting := true }
  | .catch calls, c => moments depth calls c
  | .request .., _ | .counts, _ | .isCounting, _ | .isInstalled, _ | .panic, _ | .thread _, _ => []

/-- The calls that a thread carries out, each followed by those inside of it. After a panic there
are no more. -/
def moments (depth : Nat) : List Call → Counter → List Moment
  | [], _ => []
  | call :: calls, c =>
    ⟨depth, call, c⟩ :: within depth call c ++
      match run call c with
      | (_, none) => []
      | (c, some _) => moments depth calls c

end

end Call

namespace Moment

variable (m : Moment)

def after : Counter := (m.call.run m.before).1

def result? : Option Counts :=
  match (m.call.run m.before).2 with
  | some (.counted _ counted) => some counted
  | _ => none

def inside : List Moment := m.call.within m.depth m.before

def granted? : Option Request :=
  match m.call with
  | .request r true => some r
  | _ => none

def recorded? : Option Request := if 0 < m.depth then m.granted? else none

def granted (ms : List Moment) : List Request := ms.filterMap granted?

def recorded (ms : List Moment) : List Request := ms.filterMap recorded?

theorem recorded_cons (ms : List Moment) :
    recorded (m :: ms) = m.recorded?.toList ++ recorded ms := by
  cases h : m.recorded? <;> simp [recorded, h]

theorem recorded_append (as bs : List Moment) :
    recorded (as ++ bs) = recorded as ++ recorded bs := List.filterMap_append

theorem recorded_eq_granted {ms : List Moment} (h : ∀ m ∈ ms, 0 < m.depth) :
    recorded ms = granted ms :=
  List.filterMap_congr fun m hm => if_pos (h m hm)

end Moment

open Moment (recorded recorded_cons recorded_append)

variable (start : Counts)

def Counter.holding (windows : Nat) (earlier : List Request) : Counter :=
  ⟨decide (0 < windows), start.plus earlier⟩

open Counter (holding)

theorem Counter.holding_open (windows : Nat) (earlier : List Request) :
    { holding start windows earlier with counting := true } =
      holding start (windows + 1) earlier := by
  simp [holding]

theorem Counter.holding_close (windows : Nat) (earlier later : List Request) :
    { holding start (windows + 1) later with
        counting := (holding start windows earlier).counting } =
      holding start windows later := rfl

theorem Request.run_holding (r : Request) (granted : Bool) (windows : Nat)
    (earlier : List Request) :
    r.run granted (holding start windows earlier) =
      if granted ∧ 0 < windows then holding start windows (earlier ++ [r])
      else holding start windows earlier := by
  cases granted with
  | false => simp [run]
  | true =>
    by_cases h : 0 < windows
    · simp [run, Counter.record, holding, h, Counts.plus, Counts.add]
    · simp [run, Counter.record, holding, h]

inductive Follows : List Request → List Moment → Prop
  | nil : Follows earlier []
  | cons : m.before = holding start m.depth earlier → m.inside <+: ms →
      Follows (earlier ++ m.recorded?.toList) ms → Follows earlier (m :: ms)

namespace Follows

variable {start} {earlier : List Request} {as bs : List Moment} {m : Moment}

theorem append (ha : Follows start earlier as)
    (hb : Follows start (earlier ++ recorded as) bs) : Follows start earlier (as ++ bs) := by
  induction ha with
  | nil => simpa [recorded] using hb
  | cons hbefore hinside _ ih =>
    rw [recorded_cons, ← List.append_assoc] at hb
    exact .cons hbefore (hinside.trans (List.prefix_append ..)) (ih hb)

theorem at_split (h : Follows start earlier (as ++ m :: bs)) :
    m.before = holding start m.depth (earlier ++ recorded as) ∧ m.inside <+: bs := by
  induction as generalizing earlier with
  | nil =>
    cases h with
    | cons hbefore hinside _ => exact ⟨by simpa [recorded] using hbefore, hinside⟩
  | cons a as ih =>
    cases h with
    | cons _ _ hrest =>
      rw [recorded_cons, ← List.append_assoc]
      exact ih hrest

end Follows

namespace Call

mutual

theorem run_holding (windows : Nat) (earlier : List Request) : (call : Call) →
    (call.run (holding start windows earlier)).1 =
      holding start windows (earlier ++ recorded
        (⟨windows, call, holding start windows earlier⟩ ::
          call.within windows (holding start windows earlier)))
  | .request r granted => by
    rw [run, Request.run_holding, within, recorded_cons]
    cases granted <;> by_cases h : 0 < windows <;>
      simp [Moment.recorded?, Moment.granted?, recorded, h]
  | .counts | .isCounting | .isInstalled | .panic | .thread _ => by
    simp [run, within, recorded, Moment.recorded?, Moment.granted?]
  | .count calls => by
    -- inside, one window more is open, and it closes however the calls end
    have hinside := runAll_holding (windows + 1) earlier calls
    rw [run, Counter.window, within, Counter.holding_open, recorded_cons]
    simp only [hinside, Counter.holding_close]
    simp [Moment.recorded?, Moment.granted?]
  | .catch calls => by
    rw [run, within, recorded_cons]
    simp only [runAll_holding windows earlier calls]
    simp [Moment.recorded?, Moment.granted?]

theorem runAll_holding (windows : Nat) (earlier : List Request) : (calls : List Call) →
    (runAll calls (holding start windows earlier)).1 =
      holding start windows (earlier ++ recorded
        (moments windows calls (holding start windows earlier)))
  | [] => by simp [runAll, moments, recorded]
  | call :: calls => by
    have hfirst := run_holding windows earlier call
    rcases hrun : call.run (holding start windows earlier) with ⟨c, _ | answer⟩
    · rw [hrun] at hfirst
      simpa only [runAll, moments, hrun, List.append_nil] using hfirst
    · rw [hrun] at hfirst
      obtain rfl := hfirst
      simp only [runAll, moments, hrun, recorded_append]
      rw [← List.append_assoc]
      exact runAll_holding windows _ calls

end

mutual

theorem follows_within (windows : Nat) (earlier : List Request) : (call : Call) →
    Follows start
      (earlier ++ (Moment.mk windows call (holding start windows earlier)).recorded?.toList)
      (call.within windows (holding start windows earlier))
  | .count calls => by
    rw [within, Counter.holding_open]
    simpa [Moment.recorded?, Moment.granted?] using follows_moments (windows + 1) earlier calls
  | .catch calls => by
    rw [within]
    simpa [Moment.recorded?, Moment.granted?] using follows_moments windows earlier calls
  | .request .. | .counts | .isCounting | .isInstalled | .panic | .thread _ => .nil

theorem follows_moments (windows : Nat) (earlier : List Request) : (calls : List Call) →
    Follows start earlier (moments windows calls (holding start windows earlier))
  | [] => .nil
  | call :: calls => by
    have hafter := run_holding start windows earlier call
    rw [moments]
    refine .cons rfl (List.prefix_append ..) ((follows_within windows earlier call).append ?_)
    -- a panic ends the list here, with all that is inside of the call before it
    rcases hrun : call.run (holding start windows earlier) with ⟨c, _ | answer⟩
    · exact .nil
    · rw [hrun] at hafter
      obtain rfl := hafter
      rw [recorded_cons, ← List.append_assoc]
      exact follows_moments windows _ calls

end

mutual

theorem le_depth_within (windows : Nat) (c : Counter) : (call : Call) →
    ∀ m ∈ call.within windows c, windows ≤ m.depth
  | .count calls => fun m hm =>
    Nat.le_of_succ_le (le_depth_moments (windows + 1) _ calls m hm)
  | .catch calls => le_depth_moments windows c calls
  | .request .. | .counts | .isCounting | .isInstalled | .panic | .thread _ => nofun

theorem le_depth_moments (windows : Nat) (c : Counter) : (calls : List Call) →
    ∀ m ∈ moments windows calls c, windows ≤ m.depth
  | [] => nofun
  | call :: calls => by
    rw [moments, List.cons_append]
    refine List.forall_mem_cons.2 ⟨Nat.le_refl _, List.forall_mem_append.2
      ⟨le_depth_within windows c call, ?_⟩⟩
    rcases call.run c with ⟨c', _ | answer⟩
    · nofun
    · exact le_depth_moments windows c' calls

end

theorem result?_eq_some {m : Moment} {earlier : List Request} {counted : Counts}
    (hbefore : m.before = holding start m.depth earlier) (h : m.result? = some counted) :
    counted = (start.plus (earlier ++ Moment.granted m.inside)).since (start.plus earlier) := by
  obtain ⟨depth, call, c⟩ := m
  obtain rfl : c = holding start depth earlier := hbefore
  cases call with
  | request | counts | isCounting | isInstalled | panic | «catch» | thread =>
    simp [Moment.result?, run] at h
  | count calls =>
    have hinside : recorded (moments (depth + 1) calls (holding start (depth + 1) earlier)) =
        Moment.granted (moments (depth + 1) calls (holding start (depth + 1) earlier)) :=
      -- the window itself is open around every call inside of it
      Moment.recorded_eq_granted fun m hm =>
        Nat.zero_lt_of_lt (le_depth_moments (depth + 1) _ calls m hm)
    have hrun := runAll_holding start (depth + 1) earlier calls
    rw [hinside] at hrun
    rw [Moment.inside, within, Counter.holding_open]
    simp only [Moment.result?, run, Counter.window, Counter.holding_open] at h
    rcases hanswers : runAll calls (holding start (depth + 1) earlier) with ⟨c, _ | answers⟩
    · simp [hanswers] at h
    · rw [hanswers] at hrun h
      obtain rfl := hrun
      obtain rfl : _ = counted := Option.some.inj h
      rfl

/-- The counting is on exactly while a window is open, and a call leaves it as it finds it, also by
a panic. A window that returns has counted the granted requests inside of it, at whatever depth. -/
theorem runAll_windows (program : List Call) (start : Counts) :
    let calls := moments 0 program ⟨false, start⟩
    (runAll program ⟨false, start⟩).1 = ⟨false, start.plus (recorded calls)⟩ ∧
      ∀ earlier m later, calls = earlier ++ m :: later →
        m.before = ⟨decide (0 < m.depth), start.plus (recorded earlier)⟩ ∧
        m.after.counting = m.before.counting ∧
        (∀ (r : Request) (granted : Bool), m.call = .request r granted → m.after =
          if granted ∧ 0 < m.depth then ⟨true, m.before.counts.add r⟩ else m.before) ∧
        m.inside <+: later ∧
        ∀ counted, m.result? = some counted →
          let inside := Moment.granted m.inside
          let all := recorded earlier ++ inside
          start.allocs + all.length < 2 ^ 64 →
          start.bytes + (all.map Request.cost).sum < 2 ^ 64 →
          counted = ⟨inside.length, (inside.map Request.cost).sum⟩ := by
  intro calls
  refine ⟨runAll_holding start 0 [] program, fun earlier m later hsplit => ?_⟩
  have hfollows : Follows start [] calls := follows_moments start 0 [] program
  rw [hsplit] at hfollows
  obtain ⟨hbefore, hinside⟩ := hfollows.at_split
  refine ⟨hbefore, ?_, fun r granted hcall => ?_, hinside, fun counted hresult => ?_⟩
  · rw [Moment.after, hbefore, run_holding]
    rfl
  · rw [Moment.after, hcall, run, hbefore, Request.run_holding]
    split
    · next h => simp [holding, h.2, Counts.plus]
    · rfl
  · intro inside all hallocs hbytes
    rw [result?_eq_some start hbefore hresult, List.nil_append]
    exact Counts.since_plus hallocs hbytes

theorem runAll_windows_nested :
    let window : Call := .count [.request (.alloc 3) true, .count [.request (.realloc 4 9) true],
      .catch [.count [.request (.allocZeroed 7) true, .panic]], .request (.alloc 100) false,
      .request (.realloc 9 4) true]
    Moment.result? ⟨0, window, {}⟩ = some ⟨4, 15⟩ := by
  intro window
  let m : Moment := ⟨0, window, {}⟩
  obtain ⟨counted, hreturns⟩ : ∃ counted, m.result? = some counted := ⟨_, rfl⟩
  have hwindow := (runAll_windows [window] {}).2 [] m m.inside rfl
  have hcounted := hwindow.2.2.2.2 counted hreturns (by decide) (by decide)
  rw [hreturns, hcounted]
  rfl

end Call

end InlineAssert
