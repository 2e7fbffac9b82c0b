import InlineAssert.Proofs.Queries
import InlineAssert.Proofs.Reporting

namespace InlineAssert

namespace CaseReport

def noted (r : CaseReport) : CaseReport :=
  { r with notes := r.notes ++ ["benchmark function not registered for " ++ r.id] }

def unmeasured (r : CaseReport) : CaseReport :=
  { r with failures := r.failures ++ [.missingMeasurement r.id] }

end CaseReport

namespace Event

def mapReport (f : CaseReport → CaseReport) : Event → Event
  | .case report => .case (f report)
  | .filtered path => .filtered path
  | .enter segment => .enter segment
  | .exit segment => .exit segment

def bare : Event → Event := mapReport fun r => { r with failures := [], notes := [] }

def mute : Event → Event := mapReport fun r => { r with notes := [] }

theorem reports_mapReport (f : CaseReport → CaseReport) (events : List Event) :
    (events.map (mapReport f)).filterMap report? = (events.filterMap report?).map f := by
  rw [List.filterMap_map, List.map_filterMap]
  apply List.filterMap_congr
  intro e _
  cases e <;> rfl

theorem isFiltered_mapReport (f : CaseReport → CaseReport) (e : Event) :
    (e.mapReport f).isFiltered = e.isFiltered := by
  cases e <;> rfl

end Event

theorem RunReport.summary_mute (events : List Event) :
    (ofEvents (events.map Event.mute)).summary = (ofEvents events).summary := by
  simp only [ofEvents_eq, Event.mute, Event.reports_mapReport, List.countP_map]
  congr 1
  exact List.countP_congr fun e _ => by
    rw [Function.comp_apply, Event.isFiltered_mapReport]

abbrev Context.under (diagnostics : String) (filter : Option String) (verbose : Bool)
    (missing : MissingPolicy) : Context :=
  ⟨diagnostics, { missing, filter, verbose }⟩

open Context (under)

variable (diagnostics : String) (filter : Option String) (verbose : Bool)

namespace Place

variable (a : Place × Option (Option Measurement))

theorem check_note :
    let report := check (under diagnostics filter verbose .ignore) a
    check (under diagnostics filter verbose .note) a =
      if a.2 = some none then report.noted else report := by
  obtain ⟨leaf, _ | _ | m⟩ := a <;> simp [check, TestCase.check, CaseReport.noted]

theorem check_fail :
    let report := check (under diagnostics filter verbose .ignore) a
    check (under diagnostics filter verbose .fail) a =
      if a.2 = some none then if a.1.2.isMeasured then report.unmeasured else report.noted
      else report := by
  obtain ⟨leaf, _ | _ | m⟩ := a
  · rfl
  · by_cases h : leaf.2.isMeasured <;>
      simp [check, TestCase.check, CaseReport.noted, CaseReport.unmeasured, h]
  · rfl

end Place

namespace Step

variable (s : Step)

theorem bare_event (missing : MissingPolicy) :
    (s.event (under diagnostics filter verbose missing)).bare =
      (s.event (under diagnostics filter verbose .ignore)).bare := by
  cases s with
  | enter | exit | skip => rfl
  | check place answer =>
    simp only [event, Event.bare, Event.mapReport, Place.check, TestCase.check_about]

theorem mute_event :
    (s.event (under diagnostics filter verbose .note)).mute =
      (s.event (under diagnostics filter verbose .ignore)).mute := by
  cases s with
  | enter | exit | skip => rfl
  | check place answer =>
    rw [event, event, Place.check_note]
    split <;> rfl

end Step

namespace Stop

variable {σ : Type} (provider : Option (Provider σ)) (stops : List Stop) (state : σ)

theorem bare_follow (missing : MissingPolicy) :
    (follow (under diagnostics filter verbose missing) provider stops state).1.map Event.bare =
      (follow (under diagnostics filter verbose .ignore) provider stops state).1.map
        Event.bare := by
  simp only [follow, List.map_map]
  exact List.map_congr_left fun s _ => s.bare_event diagnostics filter verbose missing

theorem mute_follow :
    (follow (under diagnostics filter verbose .note) provider stops state).1.map Event.mute =
      (follow (under diagnostics filter verbose .ignore) provider stops state).1.map
        Event.mute := by
  simp only [follow, List.map_map]
  exact List.map_congr_left fun s _ => s.mute_event diagnostics filter verbose

theorem follow_none (missing : MissingPolicy) :
    (follow (under diagnostics filter verbose missing) none stops state).1 =
      (follow (under diagnostics filter verbose .ignore) none stops state).1 := by
  induction stops generalizing state with
  | nil => rfl
  | cons stop stops ih =>
    rw [follow_cons, follow_cons]
    refine congrArg₂ List.cons ?_ (ih _)
    cases stop with
    | enter | exit => rfl
    | leaf place =>
      simp only [step]
      split <;> split <;> first | rfl | contradiction

end Stop

namespace Tree

/-- Under every policy the run tells of the same cases and asks the same. Only the reports on cases
without a measurement differ, by a note or by one failure. -/
theorem walk_missing (t : Tree) {σ : Type} (provider : Option (Provider σ)) (state : σ) :
    let context := under diagnostics filter verbose
    let events (missing : MissingPolicy) := (t.walk (context missing) provider state).1
    let report (missing : MissingPolicy) := RunReport.ofEvents (events missing)
    let leaves := Place.selected (context .ignore) (t.root.placed [])
    let asked := (Place.answers provider leaves state).1
    (∀ missing, (events missing).map Event.bare = (events .ignore).map Event.bare ∧
        t.queries (context missing) provider state = asked.filterMap Place.query?) ∧
      (report .ignore).cases.map (fun r => (r.id, r.path)) =
        asked.map (fun a => (a.1.2.id, a.1.path)) ∧
      ((report .note).cases.map (·.failures) = (report .ignore).cases.map (·.failures) ∧
        (report .note).summary = (report .ignore).summary) ∧
      (report .note).cases = List.zipWith
        (fun a r => if a.2 = some none then r.noted else r) asked (report .ignore).cases ∧
      (report .fail).cases = List.zipWith
        (fun a r => if a.2 = some none then if a.1.2.isMeasured then r.unmeasured else r.noted
          else r) asked (report .ignore).cases ∧
      ∀ missing, provider = none → report missing = report .ignore := by
  intro context events report leaves asked
  have hevents : ∀ missing, events missing =
      (Stop.follow (context missing) provider (t.root.tour []) state).1 :=
    fun missing => congrArg Prod.fst
      (Node.walk_eq_follow (context missing) provider [] t.root state)
  have hcases : ∀ missing, (report missing).cases = asked.map (Place.check (context missing)) := by
    intro missing
    rw [RunReport.cases_ofEvents]
    exact (Node.checks_walk (context missing) provider [] t.root state).1
  -- a note more or less changes no count
  have hmute : (events .note).map Event.mute = (events .ignore).map Event.mute := by
    rw [hevents, hevents]
    exact Stop.mute_follow diagnostics filter verbose provider _ state
  refine ⟨fun missing => ⟨?_, t.queries_eq (context missing) provider state⟩, ?_, ⟨?_, ?_⟩, ?_, ?_,
    ?_⟩
  · rw [hevents, hevents]
    exact Stop.bare_follow diagnostics filter verbose provider _ state missing
  · rw [hcases, List.map_map]
    refine List.map_congr_left fun a _ => ?_
    obtain ⟨hid, hpath⟩ := a.1.2.check_about (context .ignore) a.2 a.1.path
    exact Prod.ext hid hpath
  · rw [hcases, hcases, List.map_map, List.map_map]
    refine List.map_congr_left fun a _ => ?_
    rw [Function.comp_apply, Place.check_note]
    split <;> rfl
  · rw [← RunReport.summary_mute, hmute, RunReport.summary_mute]
  · rw [hcases, hcases, List.zipWith_map_right, List.zipWith_self]
    exact List.map_congr_left fun a _ => Place.check_note diagnostics filter verbose a
  · rw [hcases, hcases, List.zipWith_map_right, List.zipWith_self]
    exact List.map_congr_left fun a _ => Place.check_fail diagnostics filter verbose a
  · rintro missing rfl
    apply congrArg RunReport.ofEvents
    rw [hevents, hevents]
    exact Stop.follow_none diagnostics filter verbose _ state missing

end Tree

end InlineAssert
