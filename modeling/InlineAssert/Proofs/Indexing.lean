import InlineAssert.Proofs.Conservation
import InlineAssert.Proofs.Grouping

namespace InlineAssert.Tree

inductive Update : Type
  | insert : TestCase → Update
  | extend : List TestCase → Update

namespace Update

def cases : Update → List TestCase
  | .insert c => [c]
  | .extend cs => cs

def run (t : Tree) : Update → Tree
  | .insert c => t.insert c
  | .extend cs => t.extend cs

end Update

def afterUpdates (updates : List Update) : Tree := updates.foldl Update.run empty

theorem afterUpdates_eq (updates : List Update) :
    afterUpdates updates = ofCases (updates.flatMap Update.cases) := by
  induction updates using List.reverseRecOn with
  | nil => rfl
  | append_singleton updates u ih =>
    rw [afterUpdates, List.foldl_append, List.flatMap_append]
    simp only [List.foldl_cons, List.foldl_nil, List.flatMap_cons, List.flatMap_nil,
      List.append_nil]
    rw [← afterUpdates, ih]
    cases u <;> simp [Update.run, Update.cases, ofCases, extend]

/-- What inserting a case answers: the leaf of its id. There would be none if the index led
nowhere. -/
def stored? (t : Tree) (c : TestCase) : Option TestCase := (t.insert c).get? c.id

variable {cs : List TestCase} {c : TestCase} {id : String}

theorem holds_of_mem_earliest (h : c ∈ earliest TestCase.id cs) :
    (ofCases cs).Holds c.id c.groups c.leaf := by
  rw [← ofCases_earliest]
  exact holds_ofCases (nodup_map_earliest ..) h

theorem exists_first_of_mem (h : id ∈ cs.map TestCase.id) :
    ∃ c ∈ earliest TestCase.id cs, c.id = id ∧ (ofCases cs).Holds id c.groups c.leaf := by
  rw [← mem_map_earliest] at h
  obtain ⟨c, hc, rfl⟩ := List.mem_map.1 h
  exact ⟨c, hc, rfl, holds_of_mem_earliest hc⟩

theorem isSome_get?_iff : ((ofCases cs).get? id).isSome ↔ id ∈ cs.map TestCase.id := by
  constructor
  · intro h
    by_contra hid
    have hnone : (ofCases cs).locations.get? id = none := by
      rw [OrderedMap.get?, OrderedMap.lookup_eq_none]
      exact fun hmem => hid (mem_keys_ofCases.1 hmem)
    simp [get?, hnone] at h
  · intro h
    obtain ⟨c, -, -, hholds⟩ := exists_first_of_mem h
    simp [hholds.get?_eq]

theorem perm_records (cs : List TestCase) :
    (ofCases cs).root.records.Perm ((earliest TestCase.id cs).map TestCase.leaf) := by
  have hplaced := placed_ofCases (nodup_map_earliest TestCase.id cs)
  rw [ofCases_earliest] at hplaced
  rw [Node.records_eq []]
  simpa [Function.comp_def] using hplaced.map Prod.snd

theorem get?_of_mem_records {leaf : TestCase} (h : leaf ∈ (ofCases cs).root.records) :
    (ofCases cs).get? leaf.id = some leaf := by
  obtain ⟨c, hc, rfl⟩ := List.mem_map.1 ((perm_records cs).mem_iff.1 h)
  exact (holds_of_mem_earliest hc).get?_eq

theorem nodup_ids_records (cs : List TestCase) :
    ((ofCases cs).root.records.map TestCase.id).Nodup := by
  rw [((perm_records cs).map TestCase.id).nodup_iff, List.map_map]
  exact nodup_map_earliest TestCase.id cs

theorem size_eq_caseCount (cs : List TestCase) : (ofCases cs).size = (ofCases cs).caseCount := by
  have hsize := size_ofCases (nodup_map_earliest TestCase.id cs)
  have hrecords := (perm_records cs).length_eq
  rw [ofCases_earliest] at hsize
  rw [Node.records_eq [], List.length_map, List.length_map, ← Node.caseCount_eq] at hrecords
  rw [hsize, caseCount, hrecords]

theorem exists_group_of_first (h : c ∈ earliest TestCase.id cs) :
    ∃ group, (ofCases cs).root.find? c.groups = some group ∧
      group.leaves.filter (·.id = c.id) = [c.leaf] := by
  have hgroups := groups_ofCases cs
  have hsome := (hgroups.isSome_iff c.groups).2 (.inr ⟨c, h, List.prefix_rfl⟩)
  obtain ⟨group, hgroup⟩ := Option.isSome_iff_exists.1 hsome
  have hleaves := hgroups.leaves_eq c.groups
  rw [hgroup, Option.getD_some] at hleaves
  refine ⟨group, hgroup, ?_⟩
  have hone : ((earliest TestCase.id cs).filter (·.groups = c.groups)).filter (·.id = c.id) =
      [c] := by
    rw [List.filter_comm, filter_earliest h]
    simp
  rw [hleaves, List.filter_map]
  exact congrArg (List.map TestCase.leaf) hone

theorem exists_first_of_get? {leaf : TestCase} (h : (ofCases cs).get? id = some leaf) :
    ∃ c group, cs.find? (·.id = id) = some c ∧
      (ofCases cs).groupPath? id = some c.path.dropLast ∧
        (ofCases cs).root.find? c.path.dropLast = some group ∧
          group.leaves.filter (·.id = id) = [leaf] := by
  obtain ⟨c, hc, rfl, hholds⟩ := exists_first_of_mem (isSome_get?_iff.1 (by rw [h]; rfl))
  obtain ⟨group, hgroup, hfilter⟩ := exists_group_of_first hc
  obtain rfl : c.leaf = leaf := Option.some.inj (hholds.get?_eq.symm.trans h)
  exact ⟨c, group, find?_eq_some_of_mem_earliest hc, hholds.groupPath?_eq, hgroup, hfilter⟩

theorem stays_of_isSome (h : ((ofCases cs).get? id).isSome) (c : TestCase) :
    ((ofCases cs).insert c).get? id = (ofCases cs).get? id ∧
      ((ofCases cs).insert c).groupPath? id = (ofCases cs).groupPath? id := by
  obtain ⟨d, -, -, hholds⟩ := exists_first_of_mem (isSome_get?_iff.1 h)
  have hlater := hholds.insert c
  exact ⟨hlater.get?_eq.trans hholds.get?_eq.symm,
    hlater.groupPath?_eq.trans hholds.groupPath?_eq.symm⟩

/-- The index and the structure agree after any calls, and later calls change neither what an id
leads to nor the way to it. -/
theorem index_afterUpdates (updates : List Update) :
    let t := afterUpdates updates
    let cs := updates.flatMap Update.cases
    (∀ id, (t.get? id).isSome ↔ id ∈ cs.map TestCase.id) ∧
      (∀ id leaf, t.get? id = some leaf → ∃ c group, cs.find? (·.id = id) = some c ∧
        t.groupPath? id = some c.path.dropLast ∧ t.root.find? c.path.dropLast = some group ∧
          group.leaves.filter (·.id = id) = [leaf]) ∧
      ((∀ leaf ∈ t.root.records, t.get? leaf.id = some leaf) ∧
        (t.root.records.map TestCase.id).Nodup) ∧
      t.size = t.caseCount ∧
      (∀ c, (t.get? c.id).isSome → t.insert c = t ∧ t.stored? c = t.get? c.id) ∧
      (∀ c id, (t.get? id).isSome →
        (t.insert c).get? id = t.get? id ∧ (t.insert c).groupPath? id = t.groupPath? id) ∧
      ∀ c, (t.stored? c).isSome := by
  intro t cs
  have ht : t = ofCases cs := afterUpdates_eq updates
  rw [ht]
  refine ⟨fun id => isSome_get?_iff, fun id leaf => exists_first_of_get?,
    ⟨fun leaf => get?_of_mem_records, nodup_ids_records cs⟩, size_eq_caseCount cs, ?_,
    fun c id hid => stays_of_isSome hid c, ?_⟩
  · intro c hc
    have hinsert := insert_of_mem (mem_keys_ofCases.2 (isSome_get?_iff.1 hc))
    exact ⟨hinsert, by rw [stored?, hinsert]⟩
  · intro c
    rw [stored?, ← ofCases_append_singleton, isSome_get?_iff]
    simp

end InlineAssert.Tree
