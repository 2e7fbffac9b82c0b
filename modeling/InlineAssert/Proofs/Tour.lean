import InlineAssert.Proofs.Verdict

/-! The walk through a tree as a run along a line. The tour of a tree lists what the walk comes by,
whatever is selected or asked; the walk takes its stops one after the other. What holds of a walk is
then shown of one stop and carried along the list. -/

namespace InlineAssert

inductive Stop : Type
  | enter : (segment : String) → Stop
  | exit : (segment : String) → Stop
  | leaf : Place → Stop

inductive Step : Type
  | enter : (segment : String) → Step
  | exit : (segment : String) → Step
  | skip : Place → Step
  | check : Place → (answer : Option (Option Measurement)) → Step

def Step.event (context : Context) : Step → Event
  | .enter segment => .enter segment
  | .exit segment => .exit segment
  | .skip place => .filtered place.path
  | .check place answer => .case (Place.check context (place, answer))

namespace Stop

section

variable {σ : Type} (selects : List String → Bool) (provider : Option (Provider σ))

def step : Stop → σ → Step × σ
  | .enter segment, state => (.enter segment, state)
  | .exit segment, state => (.exit segment, state)
  | .leaf place, state =>
    if selects place.path then
      let (answer, state) := Provider.answer provider place.2.id state
      (.check place answer, state)
    else (.skip place, state)

def steps : List Stop → σ → List Step × σ
  | [], state => ([], state)
  | stop :: stops, state =>
    let (step, state) := stop.step selects provider state
    let (steps, state) := steps stops state
    (step :: steps, state)

theorem steps_append (as bs : List Stop) (state : σ) :
    steps selects provider (as ++ bs) state =
      ((steps selects provider as state).1 ++
          (steps selects provider bs (steps selects provider as state).2).1,
        (steps selects provider bs (steps selects provider as state).2).2) := by
  induction as generalizing state with
  | nil => rfl
  | cons a as ih => simp only [List.cons_append, steps, ih]

end

section

variable {σ : Type} (context : Context) (provider : Option (Provider σ))

def follow (stops : List Stop) (state : σ) : List Event × σ :=
  let (steps, state) := steps context.config.selects provider stops state
  (steps.map (Step.event context), state)

variable (as bs : List Stop) (state : σ)

theorem follow_append :
    follow context provider (as ++ bs) state =
      ((follow context provider as state).1 ++
          (follow context provider bs (follow context provider as state).2).1,
        (follow context provider bs (follow context provider as state).2).2) := by
  simp only [follow, steps_append, List.map_append]

theorem follow_cons (stop : Stop) :
    follow context provider (stop :: as) state =
      ((stop.step context.config.selects provider state).1.event context ::
          (follow context provider as (stop.step context.config.selects provider state).2).1,
        (follow context provider as (stop.step context.config.selects provider state).2).2) := rfl

end

end Stop

namespace Node

mutual

def tour (path : List String) : Node → List Stop
  | .mk ⟨es⟩ ls => tourAll path es ++ ls.map fun c => .leaf (path, c)

def tourAll (path : List String) : List (String × Node) → List Stop
  | [] => []
  | (segment, n) :: es =>
    .enter segment :: tour (path ++ [segment]) n ++ .exit segment :: tourAll path es

end

open Stop

variable {σ : Type} (context : Context) (provider : Option (Provider σ))

theorem walkLeaves_eq_follow (path : List String) (ls : List TestCase) (state : σ) :
    walkLeaves context provider path ls state =
      follow context provider (ls.map fun c => .leaf (path, c)) state := by
  induction ls generalizing state with
  | nil => rfl
  | cons c cs ih =>
    rw [List.map_cons, follow_cons, ← ih, walkLeaves, step]
    by_cases h : context.config.selects (path ++ [c.name])
    · rw [if_pos h, if_pos (show context.config.selects (Place.path (path, c)) = true from h),
        TestCase.ask_eq]
      rfl
    · rw [if_neg h, if_neg (show ¬ context.config.selects (Place.path (path, c)) = true from h)]
      rfl

mutual

theorem walk_eq_follow (path : List String) : (n : Node) → (state : σ) →
    n.walk context provider path state = follow context provider (n.tour path) state
  | .mk ⟨es⟩ ls, state => by
    simp only [walk, tour, follow_append, walkAll_eq_follow path es, walkLeaves_eq_follow]

theorem walkAll_eq_follow (path : List String) : (es : List (String × Node)) → (state : σ) →
    walkAll context provider path es state = follow context provider (tourAll path es) state
  | [], _ => by
    simp only [walkAll, tourAll]
    rfl
  | (segment, n) :: es, state => by
    simp only [walkAll, tourAll, List.cons_append, follow_cons, follow_append, step,
      Step.event, walk_eq_follow (path ++ [segment]) n, walkAll_eq_follow path es]

end

end Node

end InlineAssert
