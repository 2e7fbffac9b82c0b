import InlineAssert.Proofs.Indexing
import InlineAssert.Report

namespace InlineAssert

namespace Event

/-- Every exit leaves the group that was entered last, and none is left open. -/
inductive Bracketed : List Event → Prop
  | nil : Bracketed []
  | outcome : e.isOutcome → Bracketed es → Bracketed (e :: es)
  | group : Bracketed inside → Bracketed es → Bracketed (.enter s :: (inside ++ .exit s :: es))

def move (here : List String) : Event → List String
  | .enter s => here ++ [s]
  | .exit _ => here.dropLast
  | .case _ | .filtered _ => here

def during (g : List String) : (here : List String) → List Event → List Event
  | _, [] => []
  | here, e :: es =>
    if here = g then e :: during g (move here e) es else during g (move here e) es

variable {g here : List String} {as bs inside : List Event} {s : String}

theorem Bracketed.append (ha : Bracketed as) (hb : Bracketed bs) : Bracketed (as ++ bs) := by
  induction ha with
  | nil => exact hb
  | outcome he _ ih => exact .outcome he ih
  | group hinside _ _ ih =>
    rw [List.cons_append, List.append_assoc, List.cons_append]
    exact .group hinside ih

theorem Bracketed.of_outcomes (h : ∀ e ∈ as, e.isOutcome) : Bracketed as := by
  induction as with
  | nil => exact .nil
  | cons e as ih =>
    exact .outcome (h e List.mem_cons_self) (ih fun a ha => h a (List.mem_cons_of_mem _ ha))

theorem move_outcome {e : Event} (h : e.isOutcome) : move here e = here := by
  cases e <;> first | rfl | cases h

theorem Bracketed.during_append (ha : Bracketed as) (here : List String) (bs : List Event) :
    during g here (as ++ bs) = during g here as ++ during g here bs := by
  induction ha generalizing here bs with
  | nil => rfl
  | outcome he _ ih =>
    rw [List.cons_append, during, during, move_outcome he, ih]
    split <;> rfl
  | group _ _ ihinside ih =>
    simp only [List.cons_append, List.append_assoc, during, move, ihinside, ih,
      List.dropLast_concat]
    split <;> split <;> simp

theorem during_group (h : Bracketed inside) :
    during g here (.enter s :: (inside ++ .exit s :: as)) =
      (if here = g then [.enter s] else []) ++ during g (here ++ [s]) inside ++
        (if here ++ [s] = g then [.exit s] else []) ++ during g here as := by
  simp only [during, move, h.during_append, List.dropLast_concat]
  split <;> split <;> simp

theorem during_outcomes (h : ∀ e ∈ as, e.isOutcome) :
    during g here as = if here = g then as else [] := by
  induction as with
  | nil => simp [during]
  | cons e as ih =>
    rw [during, move_outcome (h e List.mem_cons_self),
      ih fun a ha => h a (List.mem_cons_of_mem _ ha)]
    split <;> rfl

end Event

open Event

namespace Node

variable {σ : Type} (context : Context) (provider : Option (Provider σ))

mutual

theorem bracketed_walk (path : List String) : (n : Node) → (state : σ) →
    Bracketed (n.walk context provider path state).1
  | .mk ⟨es⟩ ls, state => by
    simp only [walk]
    exact (bracketed_walkAll path es state).append
      (.of_outcomes (isOutcome_of_mem_walkLeaves context provider path ls _))

theorem bracketed_walkAll (path : List String) : (es : List (String × Node)) → (state : σ) →
    Bracketed (walkAll context provider path es state).1
  | [], _ => by
    simp only [walkAll]
    exact .nil
  | (segment, n) :: es, state => by
    simp only [walkAll, List.cons_append]
    exact .group (bracketed_walk _ n state) (bracketed_walkAll path es _)

end

theorem during_walkLeaves (g path : List String) (ls : List TestCase) (state : σ) :
    during g path (walkLeaves context provider path ls state).1 =
      if path = g then (walkLeaves context provider path ls state).1 else [] :=
  during_outcomes (isOutcome_of_mem_walkLeaves context provider path ls state)

theorem during_walkAll_cons (g path : List String) (segment : String) (n : Node)
    (es : List (String × Node)) (state : σ) :
    during g path (walkAll context provider path ((segment, n) :: es) state).1 =
      (if path = g then [.enter segment] else []) ++
        during g (path ++ [segment]) (n.walk context provider (path ++ [segment]) state).1 ++
          (if path ++ [segment] = g then [.exit segment] else []) ++
            during g path (walkAll context provider path es
              (n.walk context provider (path ++ [segment]) state).2).1 := by
  simp only [walkAll, List.cons_append]
  exact during_group (bracketed_walk context provider _ n state)

theorem during_walk_eq (g path : List String) (es : List (String × Node)) (ls : List TestCase)
    (state : σ) :
    during g path ((Node.mk ⟨es⟩ ls).walk context provider path state).1 =
      during g path (walkAll context provider path es state).1 ++
        during g path (walkLeaves context provider path ls
          (walkAll context provider path es state).2).1 := by
  simp only [walk]
  exact (bracketed_walkAll context provider path es state).during_append path _

mutual

theorem during_walk_outside {g path : List String} (h : ¬ path <+: g) : (n : Node) → (state : σ) →
    during g path (n.walk context provider path state).1 = []
  | .mk ⟨es⟩ ls, state => by
    have hne : path ≠ g := fun e => h (e ▸ List.prefix_rfl)
    rw [during_walk_eq, during_walkAll_outside h es state, during_walkLeaves, if_neg hne]
    rfl

theorem during_walkAll_outside {g path : List String} (h : ¬ path <+: g) :
    (es : List (String × Node)) → (state : σ) →
    during g path (walkAll context provider path es state).1 = []
  | [], _ => by simp [walkAll, during]
  | (segment, n) :: es, state => by
    have hne : path ≠ g := fun e => h (e ▸ List.prefix_rfl)
    have hbelow : ¬ path ++ [segment] <+: g := fun hp => h ((List.prefix_append ..).trans hp)
    have hne' : path ++ [segment] ≠ g := fun e => hbelow (e ▸ List.prefix_rfl)
    rw [during_walkAll_cons, during_walk_outside hbelow n state, during_walkAll_outside h es,
      if_neg hne, if_neg hne']
    rfl

end

theorem during_walkAll_self (path : List String) (es : List (String × Node)) (state : σ) :
    during path path (walkAll context provider path es state).1 =
      es.map fun e => .enter e.1 := by
  induction es generalizing state with
  | nil => simp [walkAll, during]
  | cons e es ih =>
    obtain ⟨segment, n⟩ := e
    have hbelow : ¬ path ++ [segment] <+: path := by
      intro hp
      have hle := hp.length_le
      rw [List.length_append, List.length_singleton] at hle
      omega
    rw [during_walkAll_cons, during_walk_outside context provider hbelow, ih]
    simp

/-- The events of a group while it is open: entries, outcomes and, but for the root, its exit. -/
def Visit (g : List String) (last : Option String) (group : Option Node) (es : List Event) : Prop :=
  match group with
  | none => es = []
  | some n => ∃ outcomes, es = n.children.keys.map .enter ++ outcomes ++ (last.map .exit).toList ∧
    List.Forall₂ (Settles context g) n.leaves outcomes

def Distinct (n : Node) : Prop := ∀ gs m, n.find? gs = some m → m.children.keys.Nodup

theorem Distinct.nodup {es : List (String × Node)} {ls : List TestCase}
    (h : (Node.mk ⟨es⟩ ls).Distinct) : (es.map (·.1)).Nodup := h [] _ rfl

theorem Distinct.child {es : List (String × Node)} {ls : List TestCase}
    (h : (Node.mk ⟨es⟩ ls).Distinct) {segment : String} {n : Node} (hn : (segment, n) ∈ es) :
    n.Distinct := by
  intro gs m hm
  apply h (segment :: gs) m
  have hlookup : es.lookup segment = some n := OrderedMap.lookup_of_mem h.nodup hn
  rw [find?_cons, OrderedMap.get?, children, hlookup]
  exact hm

theorem Visit.exit {path gs : List String} {segment : String} {n : Node} {es : List Event}
    (h : Visit context (path ++ segment :: gs) gs.getLast? (n.find? gs) es) :
    Visit context (path ++ segment :: gs) (segment :: gs).getLast? (n.find? gs)
      (es ++ if path ++ [segment] = path ++ segment :: gs then [.exit segment] else []) := by
  cases gs with
  | nil =>
    obtain ⟨outcomes, rfl, houtcomes⟩ := h
    exact ⟨outcomes, by simp, houtcomes⟩
  | cons g gs => simpa using h

mutual

theorem visit_walk (path : List String) : (n : Node) → n.Distinct → (gs : List String) →
    (state : σ) → Visit context (path ++ gs) gs.getLast? (n.find? gs)
      (during (path ++ gs) path (n.walk context provider path state).1)
  | .mk ⟨es⟩ ls, _, [], state => by
    rw [List.append_nil, during_walk_eq, during_walkAll_self, during_walkLeaves, if_pos rfl]
    have houtcomes := settles_walkLeaves context provider path ls
      (walkAll context provider path es state).2
    exact ⟨_, by simp [children, OrderedMap.keys, Function.comp_def], houtcomes⟩
  | .mk ⟨es⟩ ls, hdistinct, g :: gs, state => by
    have hne : path ≠ path ++ g :: gs := by simp
    rw [during_walk_eq, during_walkLeaves, if_neg hne, List.append_nil]
    exact visit_walkAll path es hdistinct.nodup (fun segment n hn => hdistinct.child hn) g gs state

theorem visit_walkAll (path : List String) : (es : List (String × Node)) →
    (es.map (·.1)).Nodup → (∀ segment n, (segment, n) ∈ es → n.Distinct) → (g : String) →
    (gs : List String) → (state : σ) →
    Visit context (path ++ g :: gs) (g :: gs).getLast? ((es.lookup g).bind (find? gs))
      (during (path ++ g :: gs) path (walkAll context provider path es state).1)
  | [], _, _, g, gs, state => by simp [walkAll, during, Visit]
  -- the segments differ, so only one sub-group can have events of the group that is asked for
  | (segment, n) :: es, hnodup, hdistinct, g, gs, state => by
    obtain ⟨hnew, hnodup⟩ := List.nodup_cons.1 hnodup
    have hne : path ≠ path ++ g :: gs := by simp
    have hafter := visit_walkAll path es hnodup
      (fun segment n hn => hdistinct segment n (List.mem_cons_of_mem _ hn)) g gs
      (n.walk context provider (path ++ [segment]) state).2
    rw [during_walkAll_cons, if_neg hne, List.nil_append, OrderedMap.lookup_cons]
    by_cases hg : g = segment
    · subst hg
      rw [OrderedMap.lookup_eq_none.2 hnew] at hafter
      have hinside := visit_walk (path ++ [g]) n (hdistinct g n List.mem_cons_self) gs state
      rw [List.append_assoc, List.singleton_append] at hinside
      rw [show during _ _ _ = [] from hafter, List.append_nil, if_pos rfl]
      exact hinside.exit
    · have houtside : ¬ path ++ [segment] <+: path ++ g :: gs := by
        rw [List.prefix_append_right_inj, List.cons_prefix_cons]
        exact fun h => hg h.1.symm
      have hne' : path ++ [segment] ≠ path ++ g :: gs :=
        fun e => houtside (e ▸ List.prefix_rfl)
      rw [during_walk_outside context provider houtside, if_neg hne', if_neg hg]
      exact hafter

end

end Node

namespace Summary

def count (s : Summary) : Nat := s.passed + s.failed + s.filtered

theorem count_add (s : Summary) (e : Event) :
    (s.add e).count = s.count + if e.isOutcome then 1 else 0 := by
  cases e with
  | enter => rfl
  | exit => rfl
  | filtered => rfl
  | case report =>
    simp only [add, count]
    split <;> simp [Event.isOutcome] <;> omega

theorem count_ofEvents (events : List Event) :
    (RunReport.ofEvents events).summary.count = (events.filter Event.isOutcome).length := by
  induction events using List.reverseRecOn with
  | nil => rfl
  | append_singleton events e ih =>
    have hlast : (RunReport.ofEvents (events ++ [e])).summary =
        (RunReport.ofEvents events).summary.add e := by
      simp [RunReport.ofEvents, RunReport.add]
    rw [hlast, count_add, ih]
    cases h : e.isOutcome <;> simp [h]

end Summary

namespace Tree

variable {cs : List TestCase}

theorem distinct_ofCases (cs : List TestCase) : (ofCases cs).root.Distinct := by
  intro gs m hm
  have hkeys := (groups_ofCases cs).keys_eq gs
  rw [hm, Option.getD_some] at hkeys
  rw [hkeys]
  exact nodup_eraseDups _

theorem visit_ofCases (cs : List TestCase) {σ : Type} (context : Context)
    (provider : Option (Provider σ)) (state : σ) (g : List String) :
    Node.Visit context g g.getLast? ((ofCases cs).root.find? g)
      (Event.during g [] ((ofCases cs).walk context provider state).1) := by
  simpa [Tree.walk] using Node.visit_walk context provider [] _ (distinct_ofCases cs) g state

theorem during_ofCases (cs : List TestCase) {σ : Type} (context : Context)
    (provider : Option (Provider σ)) (state : σ) (g : List String) :
    let kept := earliest TestCase.id cs
    ∃ outcomes, Event.during g [] ((ofCases cs).walk context provider state).1 =
        (kept.filterMap (TestCase.segmentBelow? g)).eraseDups.map .enter ++ outcomes ++
          (if ∃ c ∈ kept, g <+: c.groups then (g.getLast?.map .exit).toList else []) ∧
      List.Forall₂ (Node.Settles context g) ((kept.filter (·.groups = g)).map TestCase.leaf)
        outcomes := by
  intro kept
  have hgroups := groups_ofCases cs
  have hvisit := visit_ofCases cs context provider state g
  rw [← hgroups.keys_eq g, ← hgroups.leaves_eq g]
  cases hfind : (ofCases cs).root.find? g with
  | none =>
    rw [hfind] at hvisit
    have hnone : ¬ ∃ c ∈ kept, g <+: c.groups := by
      intro h
      have := (hgroups.isSome_iff g).2 (.inr h)
      simp [hfind] at this
    rw [if_neg hnone]
    exact ⟨[], hvisit, .nil⟩
  | some group =>
    rw [hfind] at hvisit
    obtain ⟨outcomes, hevents, houtcomes⟩ := hvisit
    refine ⟨outcomes, hevents.trans ?_, houtcomes⟩
    rcases (hgroups.isSome_iff g).1 (by rw [hfind]; rfl) with rfl | hexists
    · simp
    · rw [if_pos hexists]
      rfl

theorem count_outcomes_ofCases (cs : List TestCase) {σ : Type} (context : Context)
    (provider : Option (Provider σ)) (state : σ) :
    (((ofCases cs).walk context provider state).1.filter Event.isOutcome).length =
      (ofCases cs).size := by
  have houtcomes := Node.outcomes_walk context provider [] (ofCases cs).root state
  rw [size_eq_caseCount, caseCount, Node.caseCount_eq [], houtcomes.length_eq, Tree.walk]

/-- The events are bracketed. While a group is open come the entries of its sub-groups, then the
outcomes of its own cases, both in the order in which the cases were inserted, then its exit. -/
theorem walk_ofCases (cs : List TestCase) {σ : Type} (context : Context)
    (provider : Option (Provider σ)) (state : σ) :
    let kept := earliest TestCase.id cs
    let t := ofCases cs
    let events := (t.walk context provider state).1
    let summary := (RunReport.ofEvents events).summary
    Event.Bracketed events ∧
      (∀ g, ∃ outcomes, Event.during g [] events =
          (kept.filterMap (TestCase.segmentBelow? g)).eraseDups.map .enter ++ outcomes ++
            (if ∃ c ∈ kept, g <+: c.groups then (g.getLast?.map .exit).toList else []) ∧
        List.Forall₂ (Node.Settles context g) ((kept.filter (·.groups = g)).map TestCase.leaf)
          outcomes) ∧
      t.root.records.Perm (kept.map TestCase.leaf) ∧
      (∀ c ∈ kept, cs.find? (·.id = c.id) = some c ∧ t.groupPath? c.id = some c.groups ∧
        t.get? c.id = some c.leaf ∧ c.groups ++ [c.leaf.name] = resolvePath c.id c.name) ∧
      summary.passed + summary.failed + summary.filtered = t.size := by
  intro kept t events summary
  refine ⟨Node.bracketed_walk context provider [] t.root state,
    during_ofCases cs context provider state, perm_records cs, fun c hc => ?_, ?_⟩
  · have hholds := holds_of_mem_earliest hc
    exact ⟨find?_eq_some_of_mem_earliest hc, hholds.groupPath?_eq, hholds.get?_eq,
      c.groups_append_leaf_name⟩
  · exact (Summary.count_ofEvents events).trans (count_outcomes_ofCases cs context provider state)

end Tree

end InlineAssert
