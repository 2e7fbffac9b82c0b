import InlineAssert.Check
import InlineAssert.Proofs.Placement
import Mathlib.Data.List.Forall2

namespace InlineAssert

namespace Event

def isOutcome : Event → Bool
  | .case _ | .filtered _ => true
  | .enter _ | .exit _ => false

def IsOutcomeOf (id : String) (path : List String) : Event → Prop
  | .case report => report.id = id ∧ report.path = path
  | .filtered skipped => skipped = path
  | .enter _ | .exit _ => False

theorem IsOutcomeOf.isOutcome {id : String} {path : List String} {e : Event}
    (h : e.IsOutcomeOf id path) : e.isOutcome := by
  cases e <;> first | rfl | exact h.elim

def isChecked : Event → Bool
  | .case _ => true
  | .enter _ | .exit _ | .filtered _ => false

def Tells (leaf : List String × TestCase) (e : Event) : Prop :=
  e.IsOutcomeOf leaf.2.id (leaf.1 ++ [leaf.2.name])

@[simp] theorem tells_case (leaf : List String × TestCase) (report : CaseReport) :
    Tells leaf (.case report) ↔
      report.id = leaf.2.id ∧ report.path = leaf.1 ++ [leaf.2.name] := Iff.rfl

@[simp] theorem tells_filtered (leaf : List String × TestCase) (path : List String) :
    Tells leaf (.filtered path) ↔ path = leaf.1 ++ [leaf.2.name] := Iff.rfl

end Event

theorem TestCase.ask_about {σ : Type} (c : TestCase) (context : Context)
    (provider : Option (Provider σ)) (path : List String) (state : σ) :
    (c.ask context provider path state).1.id = c.id ∧
      (c.ask context provider path state).1.path = path := by
  cases provider with
  | none => exact ⟨rfl, rfl⟩
  | some p => cases h : (p.measure state c.id).1 <;> simp [ask, check, h]

namespace Node

variable {σ : Type} (context : Context) (provider : Option (Provider σ))

def Settles (path : List String) (leaf : TestCase) (e : Event) : Prop :=
  e.IsOutcomeOf leaf.id (path ++ [leaf.name]) ∧
    e.isChecked = context.config.selects (path ++ [leaf.name])

theorem settles_walkLeaves (path : List String) (ls : List TestCase) (state : σ) :
    List.Forall₂ (Settles context path) ls (walkLeaves context provider path ls state).1 := by
  induction ls generalizing state with
  | nil => exact .nil
  | cons c cs ih =>
    simp only [walkLeaves]
    split
    · next h => exact .cons ⟨TestCase.ask_about c context provider _ state, h.symm⟩ (ih _)
    · next h => exact .cons ⟨rfl, by simpa [Event.isChecked] using h⟩ (ih state)

theorem isOutcome_of_settles {path : List String} {ls : List TestCase} {events : List Event}
    (h : List.Forall₂ (Settles context path) ls events) : ∀ e ∈ events, e.isOutcome := by
  induction h with
  | nil => exact List.forall_mem_nil _
  | cons he _ ih => exact List.forall_mem_cons.2 ⟨he.1.isOutcome, ih⟩

theorem isOutcome_of_mem_walkLeaves (path : List String) (ls : List TestCase) (state : σ) :
    ∀ e ∈ (walkLeaves context provider path ls state).1, e.isOutcome :=
  isOutcome_of_settles context (settles_walkLeaves context provider path ls state)

theorem outcomes_walkLeaves (path : List String) (ls : List TestCase) (state : σ) :
    List.Forall₂ Event.Tells (ls.map (path, ·))
      ((walkLeaves context provider path ls state).1.filter Event.isOutcome) := by
  rw [List.filter_eq_self.2 (isOutcome_of_mem_walkLeaves context provider path ls state),
    List.forall₂_map_left_iff]
  exact (settles_walkLeaves context provider path ls state).imp fun _ _ h => h.1

mutual

theorem outcomes_walk (path : List String) : (n : Node) → (state : σ) →
    List.Forall₂ Event.Tells (n.placed path)
      ((n.walk context provider path state).1.filter Event.isOutcome)
  | .mk ⟨es⟩ ls, state => by
    simp only [walk, placed, List.filter_append]
    exact List.rel_append (outcomes_walkAll path es state)
      (outcomes_walkLeaves context provider path ls _)

theorem outcomes_walkAll (path : List String) : (es : List (String × Node)) → (state : σ) →
    List.Forall₂ Event.Tells (placedAll path es)
      ((walkAll context provider path es state).1.filter Event.isOutcome)
  | [], _ => by simp [walkAll, placedAll]
  | (segment, n) :: es, state => by
    simp only [walkAll, placedAll]
    have hinside := outcomes_walk (path ++ [segment]) n state
    have hafter := outcomes_walkAll path es (n.walk context provider (path ++ [segment]) state).2
    simpa [Event.isOutcome] using List.rel_append hinside hafter

end

end Node

end InlineAssert
