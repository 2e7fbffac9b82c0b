import InlineAssert.Proofs.Reporting
import InlineAssert.Proofs.Tour

namespace InlineAssert

theorem Text.occurs_iff {part cs : List Char} : occurs part cs ↔ part <:+: cs := by
  induction cs with
  | nil => simp [occurs]
  | cons c cs ih =>
    rw [occurs, Bool.or_eq_true, List.isPrefixOf_iff_prefix, ih, List.infix_cons_iff]

/-- What a provider answers does not depend on what it was asked before. -/
def Provider.Steady {σ : Type} (provider : Option (Provider σ)) : Prop :=
  ∀ id state, (Provider.answer provider id state).2 = state

theorem Provider.steady_ofMap (measurements : Option (OrderedMap Measurement)) :
    Steady (measurements.map fun _ => Provider.ofMap) := by
  intro id state
  cases measurements <;> rfl

namespace CaseReport

def Has (text : String) (r : CaseReport) : Prop := text.toList <:+: r.displayPath.toList

instance (text : String) (r : CaseReport) : Decidable (r.Has text) :=
  inferInstanceAs (Decidable (_ <:+: _))

end CaseReport

namespace Event

def mask (text : String) : Event → Event
  | .case report => if report.Has text then .case report else .filtered report.path
  | .filtered path => .filtered path
  | .enter segment => .enter segment
  | .exit segment => .exit segment

variable (text : String) (events : List Event)

theorem report?_mask (e : Event) : (e.mask text).report? = e.report?.filter (·.Has text) := by
  cases e with
  | enter | exit | filtered => rfl
  | case report => by_cases h : report.Has text <;> simp [mask, report?, Option.filter_some, h]

theorem reports_mask :
    (events.map (mask text)).filterMap report? =
      (events.filterMap report?).filter (·.Has text) := by
  rw [List.filterMap_map, List.filter_filterMap]
  exact List.filterMap_congr fun e _ => report?_mask text e

variable {events} in
theorem countP_isFiltered_mask (h : ∀ e ∈ events, e.isFiltered = false) :
    (events.map (mask text)).countP isFiltered =
      (events.filterMap report?).countP (¬ ·.Has text) := by
  rw [List.countP_map, List.countP_filterMap]
  apply List.countP_congr
  intro e he
  cases e with
  | enter | exit => simp [mask, report?, isFiltered]
  | filtered => cases h _ he
  | case report => by_cases hhas : report.Has text <;> simp [mask, report?, isFiltered, hhas]

theorem groups_mask :
    (events.map (mask text)).filter (!·.isOutcome) = events.filter (!·.isOutcome) := by
  induction events with
  | nil => rfl
  | cons e events ih =>
    rw [List.map_cons, List.filter_cons, List.filter_cons, ih]
    cases e with
    | enter | exit | filtered => rfl
    | case report => by_cases h : report.Has text <;> simp [mask, isOutcome, h]

end Event

namespace Stop

variable {σ : Type} {provider : Option (Provider σ)} (h : Provider.Steady provider)

include h in
theorem step_steady (selects : List String → Bool) (stop : Stop) (state : σ) :
    (stop.step selects provider state).2 = state := by
  cases stop with
  | enter | exit => rfl
  | leaf place =>
    simp only [step]
    split
    · exact h place.2.id state
    · rfl

variable (diagnostics : String) (config : Config)

abbrev filteredBy (filter : Option String) : Context := ⟨diagnostics, { config with filter }⟩

theorem selects_some (text : String) (path : List String) :
    (filteredBy diagnostics config (some text)).config.selects path ↔
      text.toList <:+: (Text.join "/" path).toList :=
  Text.occurs_iff

theorem step_filter (text : String) (stop : Stop) (state : σ) :
    let under := filteredBy diagnostics config (some text)
    let full := filteredBy diagnostics config none
    (stop.step under.config.selects provider state).1.event under =
      ((stop.step full.config.selects provider state).1.event full).mask text := by
  intro under full
  cases stop with
  | enter | exit => rfl
  | leaf place =>
    -- the filter looks at the path of the walk, the mask at the one in the report
    have hhas : (Place.check full (place, (Provider.answer provider place.2.id state).1)).Has text ↔
        under.config.selects place.path := by
      rw [selects_some, CaseReport.Has, CaseReport.displayPath, Place.check,
        (place.2.check_about full _ place.path).2]
    have hfull : full.config.selects place.path = true := rfl
    by_cases hunder : under.config.selects place.path
    · simp only [step, if_pos hunder, if_pos hfull, Step.event, Event.mask, if_pos (hhas.2 hunder)]
      rfl
    · simp only [step, if_neg hunder, if_pos hfull, Step.event, Event.mask,
        if_neg (fun h => hunder (hhas.1 h))]
      rw [Place.check, (place.2.check_about full _ place.path).2]

include h in
theorem follow_filter (text : String) (stops : List Stop) (state : σ) :
    (follow (filteredBy diagnostics config (some text)) provider stops state).1 =
      (follow (filteredBy diagnostics config none) provider stops state).1.map
        (Event.mask text) := by
  induction stops with
  | nil => rfl
  | cons stop stops ih =>
    rw [follow_cons, follow_cons, step_steady h, step_steady h, List.map_cons, ih]
    exact congrArg (· :: _) (step_filter diagnostics config text stop state)

theorem isFiltered_follow (stops : List Stop) (state : σ) :
    ∀ e ∈ (follow (filteredBy diagnostics config none) provider stops state).1,
      e.isFiltered = false := by
  induction stops generalizing state with
  | nil => exact List.forall_mem_nil _
  | cons stop stops ih =>
    rw [follow_cons]
    refine List.forall_mem_cons.2 ⟨?_, ih _⟩
    cases stop <;> rfl

end Stop

namespace Tree

open Stop

/-- The reports of a filtered run are those of the full run with the filter in their path, and
nothing else is lost; the groups are the same; and a longer filter checks fewer cases. -/
theorem walk_filter (t : Tree) (diagnostics : String) (missing : MissingPolicy) (verbose : Bool)
    (measurements : Option (OrderedMap Measurement)) (text : String) :
    let provider := measurements.map fun _ => Provider.ofMap
    let events (filter : Option String) :=
      (t.walk ⟨diagnostics, { missing, filter, verbose }⟩ provider (measurements.getD .empty)).1
    let report (filter : Option String) := RunReport.ofEvents (events filter)
    (report (some text)).cases =
        (report none).cases.filter (text.toList <:+: ·.displayPath.toList) ∧
      (report (some text)).summary.filtered =
        (report none).cases.countP (¬ text.toList <:+: ·.displayPath.toList) ∧
      (events (some text)).filter (!·.isOutcome) = (events none).filter (!·.isOutcome) ∧
      ∀ longer : String, text.toList <:+: longer.toList →
        (report (some longer)).cases.Sublist (report (some text)).cases := by
  intro provider events report
  have hmask : ∀ text, events (some text) = (events none).map (Event.mask text) := by
    intro text
    simp only [events, walk, Node.walk_eq_follow]
    exact follow_filter (Provider.steady_ofMap measurements) diagnostics { missing, verbose } text
      _ _
  have hnone : ∀ e ∈ events none, e.isFiltered = false := by
    simp only [events, walk, Node.walk_eq_follow]
    exact isFiltered_follow diagnostics { missing, verbose } _ _
  have hcases : ∀ text, (report (some text)).cases = (report none).cases.filter (·.Has text) := by
    intro text
    simp only [report, RunReport.cases_ofEvents, hmask, Event.reports_mask]
  refine ⟨hcases text, ?_, ?_, fun longer hlonger => ?_⟩
  · simp only [report, RunReport.ofEvents_eq, hmask]
    exact Event.countP_isFiltered_mask text hnone
  · rw [hmask, Event.groups_mask]
  · rw [hcases, hcases]
    apply List.monotone_filter_right
    intro r hr
    exact decide_eq_true (hlonger.trans (of_decide_eq_true hr))

end Tree

end InlineAssert
