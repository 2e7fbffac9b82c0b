import InlineAssert.Proofs.Merge
import InlineAssert.Proofs.Walk
import Mathlib.Algebra.GroupWithZero.Nat
import Mathlib.Data.Finset.Card

namespace InlineAssert

namespace TestCase

def matchers : Polarity → TestCase → List Matcher
  | .present, c => c.present
  | .absent, c => c.absent

@[simp] theorem matchers_leaf (polarity : Polarity) (c : TestCase) :
    c.leaf.matchers polarity = c.matchers polarity := by
  cases polarity <;> rfl

end TestCase

namespace Directive

theorem value_ne_of_read? {comment : String} {d : Directive} (h : read? comment = some d) :
    d.value ≠ "" := by
  simp only [read?, readChars?, bind, Option.bind_eq_some_iff] at h
  obtain ⟨body, -, rest, -, ⟨id, rest'⟩, -, ⟨key, value⟩, -, k, -, h⟩ := h
  dsimp only at h
  split at h
  · cases h
  · next hempty =>
    have hvalue : value ≠ [] := by simp_all
    cases h
    simpa using hvalue

end Directive

namespace Mention

def ofSources (sources : List (String × String)) : List Mention :=
  sources.flatMap fun s => Site.directives s.1 s.2

theorem value_ne_of_mem {sources : List (String × String)} {a : Mention}
    (h : a ∈ ofSources sources) : a.1.value ≠ "" := by
  obtain ⟨s, -, ha⟩ := List.mem_flatMap.1 h
  simp only [Site.directives, List.mem_filterMap, bind, Option.bind_eq_some_iff] at ha
  obtain ⟨c, -, -, -, d, hd, ha⟩ := ha
  cases ha
  exact Directive.value_ne_of_read? hd

theorem card_ids (as : List Mention) : (as.map (·.1.id)).toFinset.card = (ids as).length := by
  rw [← List.toFinset_card_of_nodup (nodup_ids as)]
  congr 1
  ext id
  simp

theorem sum_length_filter {α : Type} (f : α → String) {keys : List String} (hnodup : keys.Nodup)
    {l : List α} (h : ∀ x ∈ l, f x ∈ keys) :
    (keys.map fun k => (l.filter (f · = k)).length).sum = l.length := by
  induction keys generalizing l with
  | nil =>
    cases l with
    | nil => rfl
    | cons x l => exact absurd (h x (by simp)) (by simp)
  | cons k ks ih =>
    obtain ⟨hk, hks⟩ := List.nodup_cons.1 hnodup
    have hrest := ih hks (l := l.filter (f · ≠ k)) (by grind)
    have hsame : ∀ j ∈ ks, (l.filter (f · ≠ k)).filter (f · = j) = l.filter (f · = j) := by
      intro j hj
      rw [List.filter_filter]
      apply List.filter_congr
      intro x _
      have : j ≠ k := fun e => hk (e ▸ hj)
      by_cases hx : f x = j <;> simp [hx, this]
    rw [List.map_cons, List.sum_cons, List.length_eq_length_filter_add (l := l) (f · = k),
      ← List.map_congr_left (fun j hj => congrArg List.length (hsame j hj)), hrest]
    simp

theorem sum_length_about (key : Directive.Key) (as : List Mention) :
    ((ids as).map fun id => (about id key as).length).sum = as.countP (·.1.key = key) := by
  have hmem : ∀ a ∈ as.filter (·.1.key = key), a.1.id ∈ ids as :=
    fun a ha => mem_ids.2 ⟨a, (List.mem_filter.1 ha).1, rfl⟩
  rw [List.countP_eq_length_filter, ← sum_length_filter (·.1.id) (nodup_ids as) hmem]
  simp [about, List.filter_filter]

theorem matchers_record (polarity : Polarity) (as : List Mention) (id : String) :
    (record as id).matchers polarity =
      (about id (.diagnostic polarity) as).filterMap (matcher? polarity) := by
  cases polarity <;> rfl

theorem Consistent.length_matchers {as : List Mention} (h : Consistent as) (id : String)
    (polarity : Polarity) :
    ((record as id).matchers polarity).length = (about id (.diagnostic polarity) as).length := by
  rw [matchers_record]
  apply List.filterMap_length_eq_length.2
  intro a ha
  obtain ⟨hmem, -, hkey⟩ := mem_about.1 ha
  have hvalid := h.valid a hmem
  simp only [IsValid, hkey] at hvalid
  obtain ⟨m, hm⟩ := hvalid
  exact Option.isSome_iff_exists.2 ⟨m, Except.toOption_eq_some_iff.2 hm⟩

end Mention

namespace Table

theorem applyAll_append {t t' : Table} {as : List Mention} {n : Nat}
    (h : t.applyAll as = (t', .ok n)) (bs : List Mention) :
    t.applyAll (as ++ bs) = ((t'.applyAll bs).1, (t'.applyAll bs).2.map (n + ·)) := by
  induction as generalizing t n with
  | nil =>
    obtain ⟨rfl, rfl⟩ : t = t' ∧ 0 = n := by simpa [applyAll] using h
    refine Prod.ext rfl ?_
    cases h : (t.applyAll bs).2 <;> simp [h, Except.map]
  | cons a as ih =>
    cases happly : t.apply a.1 a.2 with
    | error e => simp [applyAll, happly] at h
    | ok r =>
      simp only [applyAll, happly, Prod.mk.injEq, Except.map_eq_ok_iff] at h
      obtain ⟨ht, m, hm, rfl⟩ := h
      have hrest := ih (Prod.ext ht hm)
      simp only [List.cons_append, applyAll, happly, hrest, Prod.mk.injEq, true_and]
      cases (t'.applyAll bs).2 with
      | error e => rfl
      | ok k => simp [Except.map]; omega

theorem readSource_eq_ok {t t' : Table} {path source : String} {n : Nat}
    (h : t.readSource path source = (t', .ok n)) :
    t.applyAll (Site.directives path source) = (t', .ok n) := by
  simp only [readSource, Prod.mk.injEq, Except.bind_eq_ok_iff] at h
  obtain ⟨ht, m, hm, hn⟩ := h
  split at hn
  · cases hn
  · cases hn
    exact Prod.ext ht hm

theorem readSources_eq_ok {t t' : Table} {sources : List (String × String)} {counts : List Nat}
    (h : t.readSources sources = .ok (t', counts)) :
    t.applyAll (Mention.ofSources sources) = (t', .ok counts.sum) := by
  induction sources generalizing t counts with
  | nil =>
    obtain ⟨rfl, rfl⟩ : t = t' ∧ [] = counts := by simpa [readSources] using h
    rfl
  | cons s sources ih =>
    simp only [readSources, Except.bind_eq_ok_iff, Except.pure_eq_ok_iff, Prod.mk.injEq,
      Prod.exists] at h
    obtain ⟨n, hn, t₁, counts', hrest, rfl, rfl⟩ := h
    have hfirst := readSource_eq_ok (Prod.ext rfl hn)
    have hall := applyAll_append hfirst (Mention.ofSources sources)
    rw [ih hrest] at hall
    simpa [Mention.ofSources, Except.map] using hall

variable {sources : List (String × String)} {t : Table} {counts : List Nat}

theorem means_readSources (h : readSources {} sources = .ok (t, counts)) :
    t.Means (Mention.ofSources sources) ∧ Mention.Consistent (Mention.ofSources sources) := by
  have hrun := readSources_eq_ok h
  obtain ⟨hiff, hmeans⟩ := means_applyAll Means.empty Mention.consistent_nil
    (Mention.ofSources sources) (fun _ ha => Mention.value_ne_of_mem ha)
  rw [hrun] at hiff hmeans
  exact ⟨(hmeans _ rfl).2, hiff.1 ⟨_, rfl⟩⟩

theorem Means.map_id_records {as : List Mention} (h : t.Means as) :
    t.records.map (·.id) = Mention.ids as := by
  rw [h.records_eq, List.map_map]
  exact List.map_id _

end Table

namespace Node

mutual

theorem records_eq (path : List String) : (n : Node) → n.records = (n.placed path).map (·.2)
  | .mk ⟨es⟩ ls => by simp [records, placed, recordsAll_eq path es]

theorem recordsAll_eq (path : List String) :
    (es : List (String × Node)) → recordsAll es = (placedAll path es).map (·.2)
  | [] => rfl
  | (segment, n) :: es => by
    simp [recordsAll, placedAll, records_eq (path ++ [segment]) n, recordsAll_eq path es]

end

end Node

namespace Tree

variable {cs : List TestCase}

theorem sum_records_ofCases (hnodup : (cs.map (·.id)).Nodup) (f : TestCase → Nat)
    (hleaf : ∀ c : TestCase, f c.leaf = f c) :
    ((ofCases cs).root.records.map f).sum = (cs.map f).sum := by
  rw [Node.records_eq [], List.map_map]
  rw [((placed_ofCases hnodup).map _).sum_nat, List.map_map]
  simp [Function.comp_def, hleaf]

theorem outcomes_ofCases (hnodup : (cs.map (·.id)).Nodup) {σ : Type} (context : Context)
    (provider : Option (Provider σ)) (state : σ) :
    ∃ ids : List String, ids.Perm (cs.map (·.id)) ∧
      List.Forall₂ (fun id e => ∃ c ∈ cs, c.id = id ∧ Event.IsOutcomeOf id c.path e) ids
        (((ofCases cs).walk context provider state).1.filter Event.isOutcome) := by
  have hplaced := placed_ofCases hnodup
  refine ⟨((ofCases cs).root.placed []).map (·.2.id), ?_, ?_⟩
  · simpa [Function.comp_def, TestCase.leaf] using hplaced.map (·.2.id)
  · rw [List.forall₂_map_left_iff]
    have htells := Node.outcomes_walk context provider [] (ofCases cs).root state
    have hcases : ∀ leaf ∈ (ofCases cs).root.placed [],
        ∃ c ∈ cs, (c.groups, c.leaf) = leaf := by
      intro leaf hleaf
      exact List.mem_map.1 (hplaced.mem_iff.1 hleaf)
    refine ((List.forall₂_and_left ..).2 ⟨hcases, htells⟩).imp ?_
    rintro leaf e ⟨⟨c, hc, rfl⟩, htell⟩
    refine ⟨c, hc, rfl, ?_⟩
    rw [← c.groups_append_leaf_name]
    exact htell

end Tree

namespace Table

theorem Means.sum_matchers {t : Table} {as : List Mention} (h : t.Means as)
    (hconsistent : Mention.Consistent as) (polarity : Polarity) :
    ((Tree.ofCases t.records).root.records.map fun c => (c.matchers polarity).length).sum =
      as.countP (·.1.key = .diagnostic polarity) := by
  have hnodup : (t.records.map (·.id)).Nodup := h.map_id_records ▸ Mention.nodup_ids as
  rw [Tree.sum_records_ofCases hnodup _ (by simp), ← Mention.sum_length_about, h.records_eq,
    List.map_map]
  congr 2
  funext id
  exact hconsistent.length_matchers id polarity

/-- One case an id, with all that is asserted of it, and one outcome a case. -/
theorem readSources_conserves {sources : List (String × String)} {t : Table} {counts : List Nat}
    (h : readSources {} sources = .ok (t, counts)) {σ : Type} (context : Context)
    (provider : Option (Provider σ)) (state : σ) :
    let mentions := Mention.ofSources sources
    let ids := (mentions.map (·.1.id)).toFinset
    let tree := Tree.ofCases t.records
    (tree.size = ids.card ∧ tree.caseCount = ids.card) ∧
      (∀ id ∈ ids, ∃ c leaf, t.get? id = some c ∧ tree.get? id = some leaf ∧ leaf.id = id ∧
        leaf.alloc = c.alloc ∧ leaf.bytes = c.bytes ∧
        leaf.present = c.present ∧ leaf.absent = c.absent) ∧
      (tree.root.records.map (·.present.length)).sum =
        mentions.countP (·.1.key = .diagnostic .present) ∧
      (tree.root.records.map (·.absent.length)).sum =
        mentions.countP (·.1.key = .diagnostic .absent) ∧
      ∃ told : List String, told.Nodup ∧ told.toFinset = ids ∧
        List.Forall₂ (fun id e => ∃ c, t.get? id = some c ∧ Event.IsOutcomeOf id c.path e) told
          ((tree.walk context provider state).1.filter Event.isOutcome) := by
  intro mentions ids tree
  obtain ⟨hmeans, hconsistent⟩ := means_readSources h
  have hids : t.records.map (·.id) = Mention.ids mentions := hmeans.map_id_records
  have hnodup : (t.records.map (·.id)).Nodup := hids ▸ Mention.nodup_ids mentions
  have hcard : t.records.length = ids.card := by
    rw [Mention.card_ids, ← hids, List.length_map]
  have hmem : ∀ id, id ∈ ids ↔ id ∈ Mention.ids mentions := by
    simp [ids]
  have hget : ∀ c ∈ t.records, t.get? c.id = some c := by
    intro c hc
    rw [hmeans.records_eq] at hc
    obtain ⟨id, hid, rfl⟩ := List.mem_map.1 hc
    rw [hmeans.get?_eq]
    exact if_pos hid
  refine ⟨⟨(Tree.size_ofCases hnodup).trans hcard, ?_⟩, ?_,
    hmeans.sum_matchers hconsistent .present, hmeans.sum_matchers hconsistent .absent, ?_⟩
  · rw [Tree.caseCount, Node.caseCount_eq [], (Tree.placed_ofCases hnodup).length_eq,
      List.length_map, hcard]
  · intro id hid
    obtain ⟨c, hc, rfl⟩ : ∃ c ∈ t.records, c.id = id := by
      rw [hmem, ← hids] at hid
      exact List.mem_map.1 hid
    exact ⟨c, c.leaf, hget c hc, (Tree.holds_ofCases hnodup hc).get?_eq, rfl, rfl, rfl, rfl, rfl⟩
  · obtain ⟨told, hperm, htold⟩ := Tree.outcomes_ofCases hnodup context provider state
    refine ⟨told, hperm.nodup_iff.2 hnodup, ?_, htold.imp ?_⟩
    · ext id
      rw [List.mem_toFinset, hperm.mem_iff, hids, hmem]
    · rintro id e ⟨c, hc, rfl, htell⟩
      exact ⟨c, hget c hc, htell⟩

theorem readSources_conserves_two_files :
    let sources := [("a.go", "x := 1 // lem.b.m=s: x\n// lem.a.name=/g/x\n"),
      ("b.go", "// lem.b.bytes=2-3\n")]
    ∃ t counts, readSources {} sources = .ok (t, counts) ∧
      (Tree.ofCases t.records).size = 2 ∧
      ((Tree.ofCases t.records).root.records.map (·.present.length)).sum = 1 ∧
      ∃ told : List String, told.Nodup ∧ told.toFinset = {"a", "b"} ∧
        List.Forall₂ (fun id e => ∃ c, t.get? id = some c ∧ Event.IsOutcomeOf id c.path e) told
          (((Tree.ofCases t.records).walk ⟨"", {}⟩ (none : Option (Provider Unit)) ()).1.filter
            Event.isOutcome) := by
  intro sources
  have hok : (readSources {} sources).isOk := by decide +kernel
  cases h : readSources {} sources with
  | error e => simp [h, Except.isOk, Except.toBool] at hok
  | ok r =>
    obtain ⟨t, counts⟩ := r
    obtain ⟨⟨hsize, -⟩, -, hpresent, -, told, hnodup, htold, houtcomes⟩ :=
      readSources_conserves h ⟨"", {}⟩ (none : Option (Provider Unit)) ()
    have hids : ((Mention.ofSources sources).map (·.1.id)).toFinset = {"a", "b"} := by
      decide +kernel
    refine ⟨t, counts, rfl, hsize.trans ?_, hpresent.trans ?_, told, hnodup, htold.trans hids,
      houtcomes⟩
    · rw [hids]
      decide
    · decide +kernel

end Table

end InlineAssert
