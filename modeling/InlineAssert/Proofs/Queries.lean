import InlineAssert.Proofs.Tour

namespace InlineAssert

namespace Provider

variable {σ : Type}

def logged (p : Provider σ) : Provider (σ × List (String × Option Measurement)) where
  measure state id :=
    ((p.measure state.1 id).1, (p.measure state.1 id).2,
      state.2 ++ [(id, (p.measure state.1 id).1)])

theorem answer_logged (provider : Option (Provider σ)) (id : String) (state : σ)
    (log : List (String × Option Measurement)) :
    answer (provider.map logged) id (state, log) =
      ((answer provider id state).1, (answer provider id state).2,
        log ++ ((answer provider id state).1.map (id, ·)).toList) := by
  cases provider with
  | none => simp [answer]
  | some p => rfl

end Provider

namespace Place

variable {σ : Type}

def query? (a : Place × Option (Option Measurement)) : Option (String × Option Measurement) :=
  a.2.map (a.1.2.id, ·)

theorem answers_logged (provider : Option (Provider σ)) (leaves : List Place) (state : σ)
    (log : List (String × Option Measurement)) :
    answers (provider.map Provider.logged) leaves (state, log) =
      ((answers provider leaves state).1, (answers provider leaves state).2,
        log ++ (answers provider leaves state).1.filterMap query?) := by
  induction leaves generalizing state log with
  | nil => simp [answers]
  | cons leaf leaves ih =>
    simp only [answers, Provider.answer_logged, ih, List.filterMap_cons, query?]
    cases (Provider.answer provider leaf.2.id state).1 <;> simp

section Present

variable (p : Provider σ) (leaves : List Place) (state : σ)

theorem map_fst_queries :
    ((answers (some p) leaves state).1.filterMap query?).map (·.1) = leaves.map (·.2.id) := by
  induction leaves generalizing state with
  | nil => rfl
  | cons leaf leaves ih =>
    simp only [answers, Provider.answer, List.filterMap_cons, query?, Option.map_some,
      List.map_cons, ih]

theorem map_check_answers (context : Context) :
    (answers (some p) leaves state).1.map (check context) =
      List.zipWith (fun leaf query => leaf.2.check context (some query.2) leaf.path) leaves
        ((answers (some p) leaves state).1.filterMap query?) := by
  induction leaves generalizing state with
  | nil => rfl
  | cons leaf leaves ih =>
    simp only [answers, Provider.answer, List.filterMap_cons, query?, Option.map_some,
      List.map_cons, List.zipWith_cons_cons, ih]
    rfl

theorem answers_snd :
    (answers (some p) leaves state).2 =
      (leaves.map (·.2.id)).foldl (fun state id => (p.measure state id).2) state := by
  induction leaves generalizing state with
  | nil => rfl
  | cons leaf leaves ih =>
    simp only [answers, Provider.answer, List.map_cons, List.foldl_cons, ih]

end Present

end Place

namespace Stop

variable {σ : Type} (provider : Option (Provider σ)) (state : σ)
  (log : List (String × Option Measurement))

theorem step_logged (selects : List String → Bool) (stop : Stop) :
    ∃ log', stop.step selects (provider.map Provider.logged) (state, log) =
      ((stop.step selects provider state).1, (stop.step selects provider state).2, log') := by
  cases stop with
  | enter | exit => exact ⟨log, rfl⟩
  | leaf place =>
    simp only [step, Provider.answer_logged]
    split
    · exact ⟨_, rfl⟩
    · exact ⟨log, rfl⟩

theorem follow_logged (context : Context) (stops : List Stop) :
    (follow context (provider.map Provider.logged) stops (state, log)).1 =
      (follow context provider stops state).1 := by
  induction stops generalizing state log with
  | nil => rfl
  | cons stop stops ih =>
    obtain ⟨log', hstep⟩ := step_logged provider state log context.config.selects stop
    rw [follow_cons, follow_cons, hstep, ih]

end Stop

namespace Tree

variable {σ : Type}

def queries (t : Tree) (context : Context) (provider : Option (Provider σ)) (state : σ) :
    List (String × Option Measurement) :=
  (t.walk context (provider.map Provider.logged) (state, [])).2.2

theorem queries_eq (t : Tree) (context : Context) (provider : Option (Provider σ)) (state : σ) :
    t.queries context provider state =
      (Place.answers provider (Place.selected context (t.root.placed [])) state).1.filterMap
        Place.query? := by
  have hchecks := Node.checks_walk context (provider.map Provider.logged) [] t.root (state, [])
  rw [queries, walk, hchecks.2, Place.answers_logged, List.nil_append]

/-- The provider is asked about each selected leaf once, in the order of the walk, and about no
other; each report goes by the answer to its own question; and the provider is left as after the
questions about the cases that are told of. -/
theorem walk_queries (t : Tree) (context : Context) (p : Provider σ) (state : σ) :
    let events := (t.walk context (some p) state).1
    let reports := events.filterMap Event.report?
    let chosen := Place.selected context (t.root.placed [])
    let queries := t.queries context (some p) state
    (t.walk context (some p.logged) (state, [])).1 = events ∧
      queries.map (·.1) = chosen.map (·.2.id) ∧
      reports = List.zipWith (fun leaf query => leaf.2.check context (some query.2) leaf.path)
        chosen queries ∧
      reports.map (·.id) = queries.map (·.1) ∧
      (t.walk context (some p) state).2 =
        (reports.map (·.id)).foldl (fun state id => (p.measure state id).2) state := by
  intro events reports chosen queries
  obtain ⟨hreports, hstate⟩ := Node.checks_walk context (some p) [] t.root state
  have hqueries : queries = (Place.answers (some p) chosen state).1.filterMap Place.query? :=
    t.queries_eq context (some p) state
  have hids : reports.map (·.id) = chosen.map (·.2.id) := by
    rw [show reports = _ from hreports, List.map_map]
    calc (Place.answers (some p) chosen state).1.map ((·.id) ∘ Place.check context)
        = (Place.answers (some p) chosen state).1.map (·.1.2.id) :=
          List.map_congr_left fun a _ => (a.1.2.check_about context a.2 a.1.path).1
      _ = ((Place.answers (some p) chosen state).1.map (·.1)).map (·.2.id) := by
          rw [List.map_map]
          rfl
      _ = chosen.map (·.2.id) := by rw [Place.map_fst_answers]
  refine ⟨?_, ?_, ?_, ?_, ?_⟩
  · simp only [events, walk, Node.walk_eq_follow]
    exact Stop.follow_logged (some p) state [] context _
  · rw [hqueries, Place.map_fst_queries]
  · rw [hqueries, ← Place.map_check_answers]
    exact hreports
  · rw [hids, hqueries, Place.map_fst_queries]
  · rw [hids, ← Place.answers_snd]
    exact hstate

end Tree

end InlineAssert
