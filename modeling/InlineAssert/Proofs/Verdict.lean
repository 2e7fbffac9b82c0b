import InlineAssert.Proofs.Visit

namespace InlineAssert

inductive Assertion : Type
  | present : Matcher → Assertion
  | absent : Matcher → Assertion
  | alloc : Range → Assertion
  | bytes : Range → Assertion

def TestCase.written (c : TestCase) : List Assertion :=
  c.present.map .present ++ c.absent.map .absent ++
    (c.alloc.toList.map .alloc ++ c.bytes.toList.map .bytes)

/-- Whether a range is kept: it is if there is no provider, and if there is no measurement unless
that is to fail. -/
def Range.IsKept (policy : MissingPolicy) (value : Measurement → Int) (r : Range) :
    Option (Option Measurement) → Prop
  | none => True
  | some none => policy ≠ .fail
  | some (some m) => r.min ≤ value m ∧ value m ≤ r.max

def Assertion.Holds (context : Context) (answer : Option (Option Measurement)) : Assertion → Prop
  | .present m => ∃ output, m.find? context.diagnostics = some output
  | .absent m => m.find? context.diagnostics = none
  | .alloc r => r.IsKept context.config.missing Measurement.allocs answer
  | .bytes r => r.IsKept context.config.missing Measurement.bytes answer

namespace Failure

inductive OfPresent (diagnostics : String) : List Matcher → List Failure → Prop
  | nil : OfPresent diagnostics [] []
  | found : m.find? diagnostics = some output → OfPresent diagnostics ms fs →
      OfPresent diagnostics (m :: ms) fs
  | missed : m.find? diagnostics = none → OfPresent diagnostics ms fs →
      OfPresent diagnostics (m :: ms) (.notFound m.pattern.text m.source :: fs)

inductive OfAbsent (diagnostics : String) : List Matcher → List Failure → Prop
  | nil : OfAbsent diagnostics [] []
  | missed : m.find? diagnostics = none → OfAbsent diagnostics ms fs →
      OfAbsent diagnostics (m :: ms) fs
  | found : m.find? diagnostics = some output → OfAbsent diagnostics ms fs →
      OfAbsent diagnostics (m :: ms) (.wasFound output m.pattern.text m.source :: fs)

inductive OfRange (failure : Range → Int → Failure) (value : Int) :
    Option Range → List Failure → Prop
  | unasserted : OfRange failure value none []
  | inside : r.min ≤ value → value ≤ r.max → OfRange failure value (some r) []
  | below : value < r.min → OfRange failure value (some r) [failure r value]
  | above : r.max < value → OfRange failure value (some r) [failure r value]

/-- The failures of the ranges of a case. Without a measurement there is at most one for both. -/
inductive OfAnswer (policy : MissingPolicy) (c : TestCase) :
    Option (Option Measurement) → List Failure → Prop
  | unasked : OfAnswer policy c none []
  | measured : OfRange .alloc m.allocs c.alloc as → OfRange .bytes m.bytes c.bytes bs →
      OfAnswer policy c (some (some m)) (as ++ bs)
  | missing : policy = .fail → c.alloc ≠ none ∨ c.bytes ≠ none →
      OfAnswer policy c (some none) [.missingMeasurement c.id]
  | excused : ¬ (policy = .fail ∧ (c.alloc ≠ none ∨ c.bytes ≠ none)) →
      OfAnswer policy c (some none) []

inductive OfCase (context : Context) (answer : Option (Option Measurement)) (c : TestCase) :
    List Failure → Prop
  | mk : OfPresent context.diagnostics c.present missed →
      OfAbsent context.diagnostics c.absent found →
      OfAnswer context.config.missing c answer measured →
      OfCase context answer c (missed ++ found ++ measured)

theorem OfPresent.eq_nil_iff {d : String} {ms : List Matcher} {fs : List Failure}
    (h : OfPresent d ms fs) : fs = [] ↔ ∀ m ∈ ms, ∃ output, m.find? d = some output := by
  induction h with
  | nil => simp
  | found hfind _ ih => simp [ih, hfind]
  | missed hfind => simp [hfind]

theorem OfAbsent.eq_nil_iff {d : String} {ms : List Matcher} {fs : List Failure}
    (h : OfAbsent d ms fs) : fs = [] ↔ ∀ m ∈ ms, m.find? d = none := by
  induction h with
  | nil => simp
  | missed hfind _ ih => simp [ih, hfind]
  | found hfind => simp [hfind]

theorem OfRange.eq_nil_iff {failure : Range → Int → Failure} {value : Int} {range : Option Range}
    {fs : List Failure} (h : OfRange failure value range fs) :
    fs = [] ↔ ∀ r ∈ range, r.min ≤ value ∧ value ≤ r.max := by
  cases h with
  | unasserted => simp
  | inside hmin hmax => simp [hmin, hmax]
  | below h => simp; omega
  | above h => simp; omega

theorem OfAnswer.eq_nil_iff {policy : MissingPolicy} {c : TestCase}
    {answer : Option (Option Measurement)} {fs : List Failure} (h : OfAnswer policy c answer fs) :
    fs = [] ↔ (∀ r ∈ c.alloc, r.IsKept policy Measurement.allocs answer) ∧
      ∀ r ∈ c.bytes, r.IsKept policy Measurement.bytes answer := by
  cases h with
  | unasked => simp [Range.IsKept]
  | measured halloc hbytes => simp [halloc.eq_nil_iff, hbytes.eq_nil_iff, Range.IsKept]
  | missing hpolicy hasserted =>
    simp only [List.cons_ne_self, Range.IsKept, hpolicy]
    rcases hasserted with h | h <;> obtain ⟨r, hr⟩ := Option.ne_none_iff_exists'.1 h <;> simp [hr]
  | excused h =>
    simp only [Range.IsKept, true_iff]
    constructor <;> intro r hr hpolicy <;> exact h ⟨hpolicy, by simp_all⟩

theorem OfCase.eq_nil_iff {context : Context} {answer : Option (Option Measurement)} {c : TestCase}
    {fs : List Failure} (h : OfCase context answer c fs) :
    fs = [] ↔ ∀ a ∈ c.written, a.Holds context answer := by
  obtain ⟨hpresent, habsent, hanswer⟩ := h
  simp only [List.append_eq_nil_iff, hpresent.eq_nil_iff, habsent.eq_nil_iff, hanswer.eq_nil_iff,
    TestCase.written, List.mem_append, or_imp, forall_and, List.forall_mem_map, Assertion.Holds,
    Option.mem_toList, Option.mem_def]

end Failure

namespace TestCase

open Failure

variable (c : TestCase) (context : Context)

theorem ofPresent_notFound (d : String) : OfPresent d c.present (c.notFound d) := by
  rw [notFound]
  induction c.present with
  | nil => exact .nil
  | cons m ms ih =>
    cases h : m.find? d with
    | none => simpa [h] using OfPresent.missed h ih
    | some output => simpa [h] using OfPresent.found h ih

theorem ofAbsent_wasFound (d : String) : OfAbsent d c.absent (c.wasFound d) := by
  rw [wasFound]
  induction c.absent with
  | nil => exact .nil
  | cons m ms ih =>
    cases h : m.find? d with
    | none => simpa [h] using OfAbsent.missed h ih
    | some output => simpa [h] using OfAbsent.found h ih

theorem ofRange_outside (failure : Range → Int → Failure) (value : Int) (range : Option Range) :
    OfRange failure value range
      ((range.toList.filter (!·.contains value)).map (failure · value)) := by
  cases range with
  | none => exact .unasserted
  | some r =>
    by_cases hmin : r.min ≤ value
    · by_cases hmax : value ≤ r.max
      · simpa [Range.contains, hmin, hmax] using OfRange.inside hmin hmax
      · simpa [Range.contains, hmin, hmax] using OfRange.above (by omega)
    · simpa [Range.contains, hmin] using OfRange.below (by omega)

theorem check_about (answer : Option (Option Measurement)) (path : List String) :
    (c.check context answer path).id = c.id ∧ (c.check context answer path).path = path := by
  rcases answer with _ | _ | m <;> exact ⟨rfl, rfl⟩

theorem ofCase_check (answer : Option (Option Measurement)) (path : List String) :
    OfCase context answer c (c.check context answer path).failures := by
  have hpresent := c.ofPresent_notFound context.diagnostics
  have habsent := c.ofAbsent_wasFound context.diagnostics
  cases answer with
  | none => simpa [check] using OfCase.mk hpresent habsent .unasked
  | some answer =>
    cases answer with
    | some m =>
      have halloc := ofRange_outside .alloc m.allocs c.alloc
      have hbytes := ofRange_outside .bytes m.bytes c.bytes
      exact .mk hpresent habsent (.measured halloc hbytes)
    | none =>
      -- without a measurement there is one failure at most, even if both ranges are asserted
      have hasserted : c.isMeasured ↔ c.alloc ≠ none ∨ c.bytes ≠ none := by
        simp [isMeasured, Option.isSome_iff_ne_none]
      have hmissing : OfAnswer context.config.missing c (some none)
          (if context.config.missing = .fail ∧ c.isMeasured then [.missingMeasurement c.id]
            else []) := by
        split
        · next h => exact .missing h.1 (hasserted.1 h.2)
        · next h => exact .excused (by rwa [hasserted] at h)
      simpa [check] using OfCase.mk hpresent habsent hmissing

end TestCase

def Provider.answer {σ : Type} (provider : Option (Provider σ)) (id : String) (state : σ) :
    Option (Option Measurement) × σ :=
  match provider with
  | none => (none, state)
  | some p => (some (p.measure state id).1, (p.measure state id).2)

abbrev Place := List String × TestCase

namespace Place

def path (leaf : Place) : List String := leaf.1 ++ [leaf.2.name]

variable {σ : Type} (provider : Option (Provider σ))

def answers : List Place → σ → List (Place × Option (Option Measurement)) × σ
  | [], state => ([], state)
  | leaf :: leaves, state =>
    let (answer, state) := Provider.answer provider leaf.2.id state
    let (rest, state) := answers leaves state
    ((leaf, answer) :: rest, state)

theorem answers_append (as bs : List Place) (state : σ) :
    answers provider (as ++ bs) state =
      ((answers provider as state).1 ++ (answers provider bs (answers provider as state).2).1,
        (answers provider bs (answers provider as state).2).2) := by
  induction as generalizing state with
  | nil => rfl
  | cons a as ih => simp [answers, ih]

theorem map_fst_answers (leaves : List Place) (state : σ) :
    (answers provider leaves state).1.map (·.1) = leaves := by
  induction leaves generalizing state with
  | nil => rfl
  | cons leaf leaves ih => simp [answers, ih]

def selected (context : Context) (leaves : List Place) : List Place :=
  leaves.filter fun leaf => context.config.selects leaf.path

def check (context : Context) (a : Place × Option (Option Measurement)) : CaseReport :=
  a.1.2.check context a.2 a.1.path

end Place

def Event.report? : Event → Option CaseReport
  | .case report => some report
  | .enter _ | .exit _ | .filtered _ => none

theorem TestCase.ask_eq {σ : Type} (c : TestCase) (context : Context)
    (provider : Option (Provider σ)) (path : List String) (state : σ) :
    c.ask context provider path state =
      (c.check context (Provider.answer provider c.id state).1 path,
        (Provider.answer provider c.id state).2) := by
  cases provider <;> rfl

namespace Node

open Place (selected)

variable {σ : Type} (context : Context) (provider : Option (Provider σ))

def Checks (leaves : List Place) (state : σ) (result : List Event × σ) : Prop :=
  let asked := Place.answers provider (selected context leaves) state
  result.1.filterMap Event.report? = asked.1.map (Place.check context) ∧ result.2 = asked.2

variable {context provider}

theorem Checks.append {as bs : List Place} {state : σ} {first second : List Event × σ}
    (ha : Checks context provider as state first)
    (hb : Checks context provider bs first.2 second) :
    Checks context provider (as ++ bs) state (first.1 ++ second.1, second.2) := by
  obtain ⟨hevents, hstate⟩ := ha
  obtain ⟨hevents', hstate'⟩ := hb
  rw [hstate] at hevents' hstate'
  simp only [Checks, selected, List.filter_append, List.filterMap_append] at *
  simp [Place.answers_append, hevents, hevents', hstate']

variable (context provider)

theorem checks_walkLeaves (path : List String) (ls : List TestCase) (state : σ) :
    Checks context provider (ls.map (path, ·)) state
      (walkLeaves context provider path ls state) := by
  induction ls generalizing state with
  | nil => exact ⟨rfl, rfl⟩
  | cons c cs ih =>
    rw [List.map_cons, Checks, selected, List.filter_cons, walkLeaves]
    by_cases h : context.config.selects (path ++ [c.name])
    · have hselected : context.config.selects (Place.path (path, c)) = true := h
      obtain ⟨hevents, hstate⟩ := ih (Provider.answer provider c.id state).2
      rw [if_pos h, if_pos hselected]
      simp only [TestCase.ask_eq, Place.answers, List.filterMap_cons, Event.report?, List.map_cons]
      exact ⟨congrArg (_ :: ·) hevents, hstate⟩
    · have hskipped : ¬ context.config.selects (Place.path (path, c)) = true := h
      obtain ⟨hevents, hstate⟩ := ih state
      rw [if_neg h, if_neg hskipped]
      simp only [List.filterMap_cons, Event.report?]
      exact ⟨hevents, hstate⟩

mutual

theorem checks_walk (path : List String) : (n : Node) → (state : σ) →
    Checks context provider (n.placed path) state (n.walk context provider path state)
  | .mk ⟨es⟩ ls, state => by
    simp only [walk, placed]
    exact (checks_walkAll path es state).append (checks_walkLeaves context provider path ls _)

theorem checks_walkAll (path : List String) : (es : List (String × Node)) → (state : σ) →
    Checks context provider (placedAll path es) state (walkAll context provider path es state)
  | [], _ => by simp [Checks, selected, walkAll, placedAll, Place.answers]
  | (segment, n) :: es, state => by
    simp only [walkAll, placedAll]
    have h := (checks_walk (path ++ [segment]) n state).append (checks_walkAll path es _)
    simpa [Checks, List.filterMap_cons, Event.report?] using h

end

end Node

namespace RunReport

theorem cases_ofEvents (events : List Event) :
    (ofEvents events).cases = events.filterMap Event.report? := by
  induction events using List.reverseRecOn with
  | nil => rfl
  | append_singleton events e ih =>
    rw [List.filterMap_append, ← ih]
    cases e <;> simp [ofEvents, add, Event.report?]

structure Counted (r : RunReport) : Prop where
  passed : r.summary.passed = r.cases.countP CaseReport.passed
  failed : r.summary.failed = r.cases.countP (!·.passed)

theorem Counted.add {r : RunReport} (h : r.Counted) (e : Event) : (r.add e).Counted := by
  cases e with
  | enter | exit | filtered => exact ⟨h.passed, h.failed⟩
  | case report =>
    cases hr : report.passed <;> constructor <;>
      simp [RunReport.add, Summary.add, hr, h.passed, h.failed]

theorem counted_ofEvents (events : List Event) : (ofEvents events).Counted := by
  induction events using List.reverseRecOn with
  | nil => exact ⟨rfl, rfl⟩
  | append_singleton events e ih =>
    have hlast : ofEvents (events ++ [e]) = (ofEvents events).add e := by simp [ofEvents]
    rw [hlast]
    exact ih.add e

namespace Counted

variable {r : RunReport} (h : r.Counted)

include h

theorem total_eq_zero_iff : r.summary.total = 0 ↔ r.cases = [] := by
  have htotal : r.summary.total = r.cases.length := by
    rw [Summary.total, h.passed, h.failed, List.length_eq_countP_add_countP CaseReport.passed]
    simp
  rw [htotal, List.length_eq_zero_iff]

theorem hasFailures_iff : r.summary.hasFailures ↔ ∃ c ∈ r.cases, c.failures ≠ [] := by
  simp [Summary.hasFailures, h.failed, CaseReport.passed]

theorem passed_iff : r.passed ↔ ∀ c ∈ r.cases, c.failures = [] := by
  simp [RunReport.passed, ← Bool.not_eq_true, h.hasFailures_iff]

theorem exitCode_eq_two_iff : r.summary.exitCode = 2 ↔ r.cases = [] := by
  rw [← h.total_eq_zero_iff, Summary.exitCode]
  split_ifs <;> simp [*]

theorem exitCode_eq_one_iff : r.summary.exitCode = 1 ↔ ∃ c ∈ r.cases, c.failures ≠ [] := by
  rw [← h.hasFailures_iff, Summary.exitCode]
  split_ifs with hempty hfailures
  · simp [h.hasFailures_iff, h.total_eq_zero_iff.1 hempty]
  · simp [hfailures]
  · simp [hfailures]

theorem exitCode_eq_zero_iff :
    r.summary.exitCode = 0 ↔ r.cases ≠ [] ∧ ∀ c ∈ r.cases, c.failures = [] := by
  rw [← h.passed_iff, Ne, ← h.total_eq_zero_iff, RunReport.passed, Summary.exitCode]
  split_ifs <;> simp [*]

end Counted

end RunReport

namespace Tree

open Place (selected)

theorem perm_selected_ofCases (cs : List TestCase) (context : Context) :
    (selected context ((ofCases cs).root.placed [])).Perm
      (((earliest TestCase.id cs).filter fun c => context.config.selects c.path).map fun c =>
        (c.groups, c.leaf)) := by
  have hplaced := placed_ofCases (nodup_map_earliest TestCase.id cs)
  rw [ofCases_earliest] at hplaced
  have hpath : ∀ c : TestCase, Place.path (c.groups, c.leaf) = c.path :=
    TestCase.groups_append_leaf_name
  simpa [selected, List.filter_map, Function.comp_def, hpath] using
    hplaced.filter fun leaf => context.config.selects (Place.path leaf)

/-- Each selected case is reported once, in the order of the walk, with just what it fails; the exit
code tells whether there is one and whether one fails; and the run passes exactly if all that is
written about the selected cases holds. -/
theorem verdict_ofCases (cs : List TestCase) {σ : Type} (context : Context)
    (provider : Option (Provider σ)) (state : σ) :
    let kept := earliest TestCase.id cs
    let chosen := selected context ((ofCases cs).root.placed [])
    let asked := (Place.answers provider chosen state).1
    let report := RunReport.ofEvents ((ofCases cs).walk context provider state).1
    let exitCode := report.summary.exitCode
    (chosen.Perm ((kept.filter fun c => context.config.selects c.path).map fun c =>
        (c.groups, c.leaf)) ∧
      asked.map (·.1) = chosen) ∧
      List.Forall₂ (fun a r => r.id = a.1.2.id ∧ r.path = a.1.path ∧
        Failure.OfCase context a.2 a.1.2 r.failures) asked report.cases ∧
      (exitCode = 2 ↔ chosen = []) ∧
      (exitCode = 1 ↔ ∃ r ∈ report.cases, r.failures ≠ []) ∧
      (exitCode = 0 ↔ chosen ≠ [] ∧ ∀ r ∈ report.cases, r.failures = []) ∧
      (report.passed ↔ ∀ r ∈ report.cases, r.failures = []) ∧
      (report.passed ↔ ∀ a ∈ asked, ∀ assertion ∈ a.1.2.written, assertion.Holds context a.2) := by
  intro kept chosen asked report exitCode
  have hasked : asked.map (·.1) = chosen := Place.map_fst_answers provider chosen state
  have hcases : report.cases = asked.map (Place.check context) := by
    rw [RunReport.cases_ofEvents]
    exact (Node.checks_walk context provider [] (ofCases cs).root state).1
  have hempty : report.cases = [] ↔ chosen = [] := by
    rw [hcases, ← hasked, List.map_eq_nil_iff, List.map_eq_nil_iff]
  have hcounted : report.Counted := RunReport.counted_ofEvents _
  have hfails : ∀ a, Failure.OfCase context a.2 a.1.2 (Place.check context a).failures :=
    fun a => a.1.2.ofCase_check context a.2 _
  refine ⟨⟨?_, hasked⟩, ?_, hcounted.exitCode_eq_two_iff.trans hempty,
    hcounted.exitCode_eq_one_iff, ?_, hcounted.passed_iff, ?_⟩
  · exact perm_selected_ofCases cs context
  · rw [hcases, List.forall₂_map_right_iff, List.forall₂_same]
    intro a _
    obtain ⟨hid, hpath⟩ := a.1.2.check_about context a.2 a.1.path
    exact ⟨hid, hpath, hfails a⟩
  · exact hcounted.exitCode_eq_zero_iff.trans (and_congr_left' hempty.not)
  · rw [hcounted.passed_iff, hcases, List.forall_mem_map]
    exact forall₂_congr fun a _ => (hfails a).eq_nil_iff

end Tree

end InlineAssert
