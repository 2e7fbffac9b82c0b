import InlineAssert.Proofs.Earliest
import InlineAssert.Proofs.Placement

namespace InlineAssert

def TestCase.segmentBelow? (group : List String) (c : TestCase) : Option String :=
  if group <+: c.groups then c.groups[group.length]? else none

theorem TestCase.segmentBelow?_of_append {group rest : List String} {c : TestCase}
    (h : group ++ rest = c.groups) : c.segmentBelow? group = rest.head? := by
  rw [segmentBelow?, if_pos ⟨rest, h⟩, ← h, List.getElem?_append_right (Nat.le_refl _),
    Nat.sub_self, List.head?_eq_getElem?]

namespace Node

theorem find?_cons (n : Node) (g : String) (gs : List String) :
    n.find? (g :: gs) = (n.children.get? g).bind (find? gs) := rfl

theorem find?_empty (gs : List String) : empty.find? gs = if gs = [] then some empty else none := by
  cases gs <;> rfl

theorem getD_find?_empty (gs : List String) : (empty.find? gs).getD empty = empty := by
  cases gs <;> rfl

theorem find?_place_of_append (leaf : TestCase) (gs rest : List String) (n : Node) :
    (place leaf (gs ++ rest) n).1.find? gs =
      some (place leaf rest ((n.find? gs).getD .empty)).1 := by
  induction gs generalizing n with
  | nil => rfl
  | cons g gs ih =>
    have hchild := ih ((n.children.get? g).getD .empty)
    rw [find?_cons, find?_cons]
    simp only [List.cons_append, place, children_withChild, OrderedMap.get?_insert, if_true,
      Option.bind_some, hchild]
    cases n.children.get? g with
    | none => simp [getD_find?_empty]
    | some child => rfl

theorem find?_place_elsewhere (leaf : TestCase) {gs others : List String}
    (h : ¬ others <+: gs) (n : Node) : (place leaf gs n).1.find? others = n.find? others := by
  induction gs generalizing others n with
  | nil =>
    cases others with
    | nil => exact absurd List.nil_prefix h
    | cons o others => rfl
  | cons g gs ih =>
    cases others with
    | nil => exact absurd List.nil_prefix h
    | cons o others =>
      rw [find?_cons, find?_cons]
      simp only [place, children_withChild, OrderedMap.get?_insert]
      by_cases ho : o = g
      -- a group that is not on the way may still branch off below this one
      · subst ho
        have hrest : ¬ others <+: gs := fun hp => h (List.prefix_cons_inj o |>.2 hp)
        have hne : others ≠ [] := fun e => hrest (e ▸ List.nil_prefix)
        simp only [if_true, Option.bind_some, ih hrest]
        cases n.children.get? o with
        | none => simp [find?_empty, hne]
        | some child => rfl
      · rw [if_neg ho]

theorem leaves_place (leaf : TestCase) (gs : List String) (n : Node) :
    (place leaf gs n).1.leaves = if gs = [] then n.leaves ++ [leaf] else n.leaves := by
  cases gs <;> rfl

theorem keys_place (leaf : TestCase) (gs : List String) (n : Node) :
    (place leaf gs n).1.children.keys =
      match gs with
      | [] => n.children.keys
      | g :: _ => if g ∈ n.children.keys then n.children.keys else n.children.keys ++ [g] := by
  cases gs with
  | nil => rfl
  | cons g gs => exact OrderedMap.keys_insert ..

/-- The groups are those on the way to the cases; each has the cases that stand directly in it, and
its sub-groups in the order in which the cases first use them. -/
structure Groups (cs : List TestCase) (n : Node) : Prop where
  isSome_iff : ∀ g, (n.find? g).isSome ↔ g = [] ∨ ∃ c ∈ cs, g <+: c.groups
  leaves_eq : ∀ g, ((n.find? g).getD .empty).leaves =
    (cs.filter (·.groups = g)).map TestCase.leaf
  keys_eq : ∀ g, ((n.find? g).getD .empty).children.keys =
    (cs.filterMap (TestCase.segmentBelow? g)).eraseDups

theorem groups_empty : Groups [] empty where
  isSome_iff g := by
    rw [find?_empty]
    split <;> simp_all
  leaves_eq g := by
    rw [getD_find?_empty]
    rfl
  keys_eq g := by
    rw [getD_find?_empty]
    rfl

theorem Groups.place {cs : List TestCase} {n : Node} (h : Groups cs n) (c : TestCase) :
    Groups (cs ++ [c]) (place c.leaf c.groups n).1 where
  isSome_iff g := by
    by_cases hg : g <+: c.groups
    · obtain ⟨rest, hrest⟩ := hg
      rw [← hrest, find?_place_of_append]
      simp [← hrest]
    · rw [find?_place_elsewhere _ hg, h.isSome_iff]
      simp [hg]
  leaves_eq g := by
    rw [List.filter_append, List.map_append, ← h.leaves_eq]
    by_cases hg : g <+: c.groups
    · obtain ⟨rest, hrest⟩ := hg
      rw [← hrest, find?_place_of_append, Option.getD_some, leaves_place]
      cases rest <;> simp [← hrest]
    · rw [find?_place_elsewhere _ hg]
      have hne : c.groups ≠ g := fun e => hg (e ▸ List.prefix_rfl)
      simp [hne]
  keys_eq g := by
    rw [List.filterMap_append]
    by_cases hg : g <+: c.groups
    · obtain ⟨rest, hrest⟩ := hg
      have hnext := TestCase.segmentBelow?_of_append hrest
      rw [← hrest, find?_place_of_append, Option.getD_some, keys_place, h.keys_eq]
      cases rest with
      | nil => simp [hnext]
      | cons r rest => simp [hnext, eraseDups_append_singleton, List.mem_eraseDups]
    · rw [find?_place_elsewhere _ hg, h.keys_eq]
      simp [TestCase.segmentBelow?, hg]

end Node

theorem TestCase.path_ne_nil (c : TestCase) : c.path ≠ [] := resolvePath_ne_nil c.id c.name

theorem TestCase.leaf_eq (c : TestCase) : c.leaf = { c with name := c.path.getLast c.path_ne_nil } := by
  simp [leaf, List.getLast?_eq_some_getLast c.path_ne_nil]

namespace Tree

theorem ofCases_append_singleton (cs : List TestCase) (c : TestCase) :
    ofCases (cs ++ [c]) = (ofCases cs).insert c := by
  simp [ofCases, extend]

theorem keys_ofCases (cs : List TestCase) :
    (ofCases cs).locations.keys = (earliest TestCase.id cs).map TestCase.id := by
  induction cs using List.reverseRecOn with
  | nil => rfl
  | append_singleton cs c ih =>
    rw [ofCases_append_singleton, keys_insert, earliest_append_singleton, ih]
    simp only [mem_map_earliest]
    split <;> simp

theorem mem_keys_ofCases {cs : List TestCase} {id : String} :
    id ∈ (ofCases cs).locations.keys ↔ id ∈ cs.map TestCase.id := by
  rw [keys_ofCases, mem_map_earliest]

theorem ofCases_earliest (cs : List TestCase) : ofCases (earliest TestCase.id cs) = ofCases cs := by
  induction cs using List.reverseRecOn with
  | nil => rfl
  | append_singleton cs c ih =>
    rw [ofCases_append_singleton, earliest_append_singleton]
    by_cases hc : c.id ∈ cs.map TestCase.id
    · rw [if_pos hc, ih, insert_of_mem (mem_keys_ofCases.2 hc)]
    · rw [if_neg hc, ofCases_append_singleton, ih]

theorem groups_ofCases (cs : List TestCase) :
    (ofCases cs).root.Groups (earliest TestCase.id cs) := by
  induction cs using List.reverseRecOn with
  | nil => exact Node.groups_empty
  | append_singleton cs c ih =>
    rw [ofCases_append_singleton, earliest_append_singleton]
    by_cases hc : c.id ∈ cs.map TestCase.id
    · rw [if_pos hc, insert_of_mem (mem_keys_ofCases.2 hc)]
      exact ih
    · rw [if_neg hc, insert_of_not_mem (fun h => hc (mem_keys_ofCases.1 h))]
      exact ih.place c

/-- A tree is determined by the paths of the first cases of each id: which groups there are, which
cases each has, named by the last segment of their paths, and the order of both. -/
theorem find?_ofCases (cs : List TestCase) (g : List String) :
    let kept := earliest TestCase.id cs
    (((ofCases cs).root.find? g).isSome ↔ g = [] ∨ ∃ c ∈ kept, g <+: c.path.dropLast) ∧
      ∀ group, (ofCases cs).root.find? g = some group →
        group.leaves = (kept.filter (·.path.dropLast = g)).map
          (fun c => { c with name := c.path.getLast c.path_ne_nil }) ∧
        group.children.keys = (kept.filterMap (TestCase.segmentBelow? g)).eraseDups := by
  intro kept
  have hgroups := groups_ofCases cs
  refine ⟨hgroups.isSome_iff g, fun group hgroup => ⟨?_, ?_⟩⟩
  · have hleaves := hgroups.leaves_eq g
    rw [hgroup, Option.getD_some] at hleaves
    rw [hleaves]
    exact List.map_congr_left fun c _ => c.leaf_eq
  · have hkeys := hgroups.keys_eq g
    rwa [hgroup, Option.getD_some] at hkeys

end Tree

end InlineAssert
