import InlineAssert.Proofs.FirstLine
import InlineAssert.Proofs.Placement

namespace InlineAssert

namespace Text

theorem not_mem_of_mem_pieces {sep : Char} {cs p : List Char} (h : p ∈ pieces sep cs) :
    sep ∉ p := by
  by_cases hmem : sep ∈ cs
  · obtain ⟨a, b, rfl, ha⟩ := List.eq_append_cons_of_mem hmem
    rw [pieces_append_sep ha] at h
    rcases List.mem_cons.1 h with rfl | hb
    · exact ha
    · exact not_mem_of_mem_pieces hb
  · rw [pieces_of_not_mem hmem] at h
    obtain rfl := List.mem_singleton.1 h
    exact hmem
termination_by cs.length

end Text

structure IsSegment (s : String) : Prop where
  ne_empty : s ≠ ""
  slash_not_mem : '/' ∉ s.toList

theorem isSegment_of_mem_segments {name s : String} (h : s ∈ segments name) : IsSegment s := by
  simp only [segments, List.mem_map, List.mem_filter] at h
  obtain ⟨p, ⟨hpiece, hne⟩, rfl⟩ := h
  exact ⟨by simpa using hne, by simpa using Text.not_mem_of_mem_pieces hpiece⟩

namespace IsSegment

variable {id s : String} (h : IsSegment s)

include h

theorem segments_eq : segments s = [s] := by
  have hne : s.toList ≠ [] := fun hnil => h.ne_empty (String.toList_eq_nil_iff.1 hnil)
  simp [segments, Text.pieces_of_not_mem h.slash_not_mem, hne]

theorem resolvePath_eq (hid : s ≠ id) : resolvePath id s = [id, s] := by
  have hhead : s.toList.head? ≠ some '/' := fun hhead =>
    h.slash_not_mem (List.mem_of_mem_head? hhead)
  simp [resolvePath, h.ne_empty, hid, hhead, h.segments_eq]

end IsSegment

@[simp] theorem resolvePath_self (id : String) : resolvePath id id = [id] := by
  simp [resolvePath]

theorem eq_or_of_resolvePath_eq {id name s : String} (h : resolvePath id name = [s]) :
    s = id ∨ name.toList.head? = some '/' ∧ segments name = [s] := by
  rw [resolvePath] at h
  split at h
  · left
    simpa [eq_comm] using h
  · by_cases hslash : name.toList.head? = some '/'
    · cases hsegments : segments name with
      | nil => left; simpa [hslash, hsegments, eq_comm] using h
      | cons g gs => right; simpa [hslash, hsegments] using h
    · left
      simp only [hslash, if_false, List.singleton_append, List.isEmpty_cons] at h
      exact ((List.cons.inj h).1).symm

namespace Tree

/-- A case with a path of one segment stands in the root under that name. Taken out and placed in a
new tree it stands in the root again, with that path, exactly if the segment is its id. Any other
segment has come of a slash before it, and the second time the case stands below its id. -/
theorem insert_again_iff (t : Tree) (c : TestCase) (s : String) (hpath : c.path = [s])
    (hnew : c.id ∉ t.locations.keys) :
    let stored : TestCase := { c with name := s }
    let again := empty.insert stored
    ((t.insert c).get? c.id = some stored ∧ (t.insert c).groupPath? c.id = some []) ∧
      (resolvePath c.id s = [s] ↔ s = c.id) ∧
      (again.get? c.id = some stored ∧ (again.groupPath? c.id = some [] ↔ s = c.id)) ∧
      (s ≠ c.id → (c.name.toList.head? = some '/' ∧ segments c.name = [s]) ∧
        resolvePath c.id s = [c.id, s] ∧ again.groupPath? c.id = some [c.id]) := by
  intro stored again
  have hplaced : (t.insert c).Holds c.id [] stored := by
    have h := holds_insert_self hnew
    rwa [TestCase.groups, TestCase.leaf, hpath] at h
  have hagain : again.Holds c.id stored.path.dropLast
      { stored with name := stored.path.getLast?.getD c.id } :=
    holds_insert_self (by simp [empty])
  refine ⟨⟨hplaced.get?_eq, hplaced.groupPath?_eq⟩, ?_⟩
  by_cases hid : s = c.id
  · have hpath' : stored.path = [s] := by
      rw [TestCase.path, show stored.name = stored.id from hid, resolvePath_self]
      exact congrArg ([·]) hid.symm
    rw [hpath'] at hagain
    exact ⟨iff_of_true hpath' hid, ⟨hagain.get?_eq, iff_of_true hagain.groupPath?_eq hid⟩,
      fun hne => absurd hid hne⟩
  · obtain ⟨hslash, hsegments⟩ := (eq_or_of_resolvePath_eq hpath).resolve_left hid
    have hmem : s ∈ segments c.name := by simp [hsegments]
    -- what came of a slash has none left, so the second time the id leads
    have hsegment : IsSegment s := isSegment_of_mem_segments hmem
    have hpath' : stored.path = [c.id, s] := hsegment.resolvePath_eq hid
    rw [hpath'] at hagain
    have hbelow : again.groupPath? c.id = some [c.id] := hagain.groupPath?_eq
    refine ⟨iff_of_false ?_ hid, ⟨hagain.get?_eq, iff_of_false ?_ hid⟩,
      fun _ => ⟨⟨hslash, hsegments⟩, hpath', hbelow⟩⟩
    · rw [show resolvePath c.id s = [c.id, s] from hpath']
      simp
    · rw [hbelow]
      simp

theorem insert_again_only_slashes :
    let t : Tree := ofCases [{ id := "z", name := "/a/b/x" }]
    let c : TestCase := { id := "a/b", name := "//", alloc := some (Range.exact 2) }
    (c.path = ["a/b"] ∧ c.id ∉ t.locations.keys) ∧
      (t.insert c).groupPath? "a/b" = some [] ∧ resolvePath "a/b" "a/b" = ["a/b"] ∧
      (empty.insert { c with name := "a/b" }).groupPath? "a/b" = some [] := by
  intro t c
  have hpath : c.path = ["a/b"] := by decide
  have hnew : c.id ∉ t.locations.keys := by decide
  obtain ⟨⟨-, hroot⟩, hpath', ⟨-, hagain⟩, -⟩ := insert_again_iff t c "a/b" hpath hnew
  exact ⟨⟨hpath, hnew⟩, hroot, hpath'.2 rfl, hagain.2 rfl⟩

theorem insert_again_leading_slash :
    let c : TestCase := { id := "a", name := "/foo" }
    (c.path = ["foo"] ∧ (empty.insert c).groupPath? "a" = some []) ∧
      resolvePath "a" "foo" = ["a", "foo"] ∧
      (empty.insert { c with name := "foo" }).groupPath? "a" = some ["a"] := by
  decide

end Tree

end InlineAssert
