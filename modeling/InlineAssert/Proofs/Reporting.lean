import InlineAssert.Console
import InlineAssert.Proofs.Verdict

namespace InlineAssert

namespace Writer

variable {σ ε : Type}

def logged (w : Writer σ ε) : Writer (σ × List (Option ε)) ε where
  write out text :=
    ((w.write out.1 text).1, (w.write out.1 text).2, out.2 ++ [(w.write out.1 text).1])

def firstError (log : List (Option ε)) : Option ε := log.findSome? id

theorem firstError_concat (log : List (Option ε)) (outcome : Option ε) :
    firstError (log ++ [outcome]) = (firstError log).or outcome := by
  cases outcome <;> simp [firstError, List.findSome?_append]

theorem firstError_eq_none_iff {log : List (Option ε)} :
    firstError log = none ↔ ∀ outcome ∈ log, outcome = none := by
  simp [firstError]

section Write

variable {w : Writer σ ε} {out out' : σ} {text : String}

theorem writeAll_cons (h : w.write out text = (none, out')) (texts : List String) :
    w.writeAll out (text :: texts) = w.writeAll out' texts := by
  rw [writeAll, h]

theorem writeAll_cons_of_error {error : ε} (h : w.write out text = (some error, out'))
    (texts : List String) : w.writeAll out (text :: texts) = (some error, out') := by
  rw [writeAll, h]

theorem write_logged {outcome : Option ε} (h : w.write out text = (outcome, out'))
    (log : List (Option ε)) :
    w.logged.write (out, log) text = (outcome, out', log ++ [outcome]) := by
  simp [logged, h]

end Write

variable (w : Writer σ ε) (out : σ) (log : List (Option ε)) (texts : List String)

theorem writeAll_logged :
    w.writeAll out texts =
      ((w.logged.writeAll (out, log) texts).1, (w.logged.writeAll (out, log) texts).2.1) := by
  induction texts generalizing out log with
  | nil => rfl
  | cons text texts ih =>
    rcases hwrite : w.write out text with ⟨_ | error, out'⟩
    · rw [writeAll_cons hwrite, writeAll_cons (write_logged hwrite log), ih]
    · rw [writeAll_cons_of_error hwrite, writeAll_cons_of_error (write_logged hwrite log)]

theorem firstError_writeAll :
    firstError (w.logged.writeAll (out, log) texts).2.2 =
      (firstError log).or (w.logged.writeAll (out, log) texts).1 := by
  induction texts generalizing out log with
  | nil => simp [writeAll]
  | cons text texts ih =>
    rcases hwrite : w.write out text with ⟨_ | error, out'⟩
    · rw [writeAll_cons (write_logged hwrite log), ih, firstError_concat, Option.or_none]
    · rw [writeAll_cons_of_error (write_logged hwrite log), firstError_concat]

end Writer

namespace Event

def isFiltered : Event → Bool
  | .filtered _ => true
  | .enter _ | .exit _ | .case _ => false

end Event

namespace RunReport

theorem ofEvents_eq (events : List Event) :
    let reports := events.filterMap Event.report?
    ofEvents events =
      ⟨reports, reports.countP CaseReport.passed, reports.countP (!·.passed),
        events.countP Event.isFiltered⟩ := by
  induction events using List.reverseRecOn with
  | nil => rfl
  | append_singleton events e ih =>
    have hlast : ofEvents (events ++ [e]) = (ofEvents events).add e := by simp [ofEvents]
    rw [hlast, ih]
    cases e with
    | enter | exit | filtered => simp [add, Summary.add, Event.report?, Event.isFiltered]
    | case report =>
      cases h : report.passed <;> simp [add, Summary.add, Event.report?, Event.isFiltered, h]

end RunReport

namespace Console

open Writer (firstError)

variable {σ ε : Type}

theorem report_addAll (w : Writer σ ε) (c : Console σ ε) (events : List Event) :
    (c.addAll w events).report = events.foldl RunReport.add c.report := by
  induction events generalizing c with
  | nil => rfl
  | cons e events ih => exact ih (c.add w e)

def unlogged (c : Console (σ × List (Option ε)) ε) : Console σ ε :=
  { c with out := c.out.1 }

def Remembers (c : Console (σ × List (Option ε)) ε) : Prop := c.error = firstError c.out.2

variable (w : Writer σ ε) (c : Console (σ × List (Option ε)) ε)

theorem add_unlogged (e : Event) : c.unlogged.add w e = (c.add w.logged e).unlogged := by
  simp only [add, unlogged]
  rw [w.writeAll_logged c.out.1 c.out.2]

theorem addAll_unlogged (events : List Event) :
    c.unlogged.addAll w events = (c.addAll w.logged events).unlogged :=
  List.foldl_hom unlogged (add_unlogged w)

variable {c}

theorem remembers_of_nil {out : σ} {verbose : Bool} :
    Remembers (ε := ε) { verbose, out := (out, []) } := by
  rfl

theorem Remembers.add (h : c.Remembers) (e : Event) : (c.add w.logged e).Remembers := by
  simp only [Remembers, Console.add, w.firstError_writeAll]
  rw [h]

theorem Remembers.addAll (h : c.Remembers) (events : List Event) :
    (c.addAll w.logged events).Remembers := by
  induction events generalizing c with
  | nil => exact h
  | cons e events ih => exact ih (h.add w e)

variable (c) in
theorem finish_unlogged :
    c.unlogged.finish w = ((c.finish w.logged).1, (c.finish w.logged).2.1) := by
  cases herror : c.error with
  | some error => simp [finish, unlogged, herror]
  | none =>
    simp only [finish, unlogged, herror]
    rw [w.writeAll_logged c.out.1 c.out.2]
    rcases w.logged.writeAll c.out (summaryTexts c.report.summary) with ⟨_ | error, out⟩ <;> rfl

theorem Remembers.finish_of_firstError (h : c.Remembers) {error : ε}
    (hfirst : firstError c.out.2 = some error) : c.finish w.logged = (.error error, c.out) := by
  simp [finish, show c.error = some error from h.trans hfirst]

theorem Remembers.finish_eq (h : c.Remembers) :
    (c.finish w.logged).1 =
      match firstError (c.finish w.logged).2.2 with
      | some error => .error error
      | none => .ok c.report := by
  cases hfirst : firstError c.out.2 with
  | some error =>
    rw [h.finish_of_firstError w hfirst]
    simp [hfirst]
  | none =>
    have hlog := w.firstError_writeAll c.out.1 c.out.2 (summaryTexts c.report.summary)
    rw [hfirst, Option.none_or] at hlog
    rw [finish, show c.error = none from h.trans hfirst]
    rcases hwrite : w.logged.writeAll c.out (summaryTexts c.report.summary) with ⟨_ | error, out⟩
    · simp_all
    · simp_all

/-- Whatever the writes come to, the report is that of the events. It is handed back exactly if all
writes succeed, those of the summary too; else the first error is, and if a hook met it then nothing
is written after the hooks. -/
theorem finish_eq_ok_iff_written (verbose : Bool) (out : σ) (events : List Event) :
    let reports := events.filterMap Event.report?
    let report : RunReport :=
      ⟨reports, reports.countP CaseReport.passed, reports.countP (!·.passed),
        events.countP Event.isFiltered⟩
    let console := addAll w { verbose, out } events
    let logged := addAll w.logged { verbose, out := (out, []) } events
    let finished := logged.finish w.logged
    let hooks := logged.out.2
    let log := finished.2.2
    (console.report = RunReport.ofEvents events ∧ RunReport.ofEvents events = report) ∧
      (console = logged.unlogged ∧ console.finish w = (finished.1, finished.2.1)) ∧
      (∀ r, (console.finish w).1 = .ok r ↔ r = report ∧ ∀ outcome ∈ log, outcome = none) ∧
      (∀ error, (console.finish w).1 = .error error ↔ firstError log = some error) ∧
      ∀ error, firstError hooks = some error →
        console.finish w = (.error error, console.out) ∧ log = hooks := by
  intro reports report console logged finished hooks log
  have hreport : RunReport.ofEvents events = report := RunReport.ofEvents_eq events
  have hlogged : console = logged.unlogged := addAll_unlogged w { verbose, out := (out, []) } events
  have hsame : console.finish w = (finished.1, finished.2.1) := by
    rw [hlogged, finish_unlogged]
  have hremembers : logged.Remembers := remembers_of_nil.addAll w events
  have hfinish : finished.1 = match firstError log with
      | some error => .error error
      | none => .ok report := by
    have hreport' : logged.report = report := (report_addAll w.logged _ events).trans hreport
    rw [← hreport']
    exact hremembers.finish_eq w
  refine ⟨⟨report_addAll w _ events, hreport⟩, ⟨hlogged, hsame⟩, fun r => ?_, fun error => ?_,
    fun error hfirst => ?_⟩
  · rw [hsame, hfinish, ← Writer.firstError_eq_none_iff]
    cases firstError log with
    | some error => simp
    | none => simp [eq_comm]
  · rw [hsame, hfinish]
    cases firstError log with
    | some error => simp
    | none => simp
  · have hstopped : finished = (.error error, logged.out) :=
      hremembers.finish_of_firstError w hfirst
    rw [hsame, hlogged]
    exact ⟨by rw [hstopped]; rfl, congrArg (·.2.2) hstopped⟩

end Console

end InlineAssert
