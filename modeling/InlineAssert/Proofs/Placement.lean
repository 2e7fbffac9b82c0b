import InlineAssert.Proofs.OrderedMap
import InlineAssert.Tree

namespace InlineAssert

theorem resolvePath_ne_nil (id name : String) : resolvePath id name ≠ [] := by
  unfold resolvePath
  split
  · simp
  · dsimp only
    generalize (if name.toList.head? = some '/' then [] else [id]) ++ segments name = path
    cases path <;> simp

namespace TestCase

def groups (c : TestCase) : List String := c.path.dropLast

def leaf (c : TestCase) : TestCase := { c with name := c.path.getLast?.getD c.id }

theorem groups_append_leaf_name (c : TestCase) : c.groups ++ [c.leaf.name] = c.path := by
  have h : c.path ≠ [] := resolvePath_ne_nil c.id c.name
  simp [groups, leaf, List.getLast?_eq_some_getLast h, List.dropLast_append_getLast]

end TestCase

namespace Node

@[simp] theorem children_withChild (n : Node) (segment : String) (child : Node) :
    (n.withChild segment child).children = n.children.insert segment child := rfl

@[simp] theorem leaves_withChild (n : Node) (segment : String) (child : Node) :
    (n.withChild segment child).leaves = n.leaves := rfl

@[simp] theorem children_withLeaf (n : Node) (leaf : TestCase) :
    (n.withLeaf leaf).children = n.children := rfl

@[simp] theorem leaves_withLeaf (n : Node) (leaf : TestCase) :
    (n.withLeaf leaf).leaves = n.leaves ++ [leaf] := rfl

mutual

def placed (path : List String) : Node → List (List String × TestCase)
  | .mk ⟨es⟩ ls => placedAll path es ++ ls.map (path, ·)

def placedAll (path : List String) : List (String × Node) → List (List String × TestCase)
  | [] => []
  | (segment, n) :: es => placed (path ++ [segment]) n ++ placedAll path es

end

theorem placed_eq (path : List String) (n : Node) :
    n.placed path = placedAll path n.children.entries ++ n.leaves.map (path, ·) := by
  obtain ⟨⟨es⟩, ls⟩ := n
  simp [placed, children, leaves]

@[simp] theorem placed_empty (path : List String) : empty.placed path = [] := by
  simp [empty, OrderedMap.empty, placed, placedAll]

theorem placedAll_append (path : List String) (es fs : List (String × Node)) :
    placedAll path (es ++ fs) = placedAll path es ++ placedAll path fs := by
  induction es with
  | nil => simp [placedAll]
  | cons e es ih =>
    obtain ⟨segment, n⟩ := e
    simp [placedAll, ih]

mutual

theorem caseCount_eq (path : List String) : (n : Node) → n.caseCount = (n.placed path).length
  | .mk ⟨es⟩ ls => by
    simp only [caseCount, placed, List.length_append, List.length_map,
      caseCountAll_eq path es]
    omega

theorem caseCountAll_eq (path : List String) :
    (es : List (String × Node)) → caseCountAll es = (placedAll path es).length
  | [] => by simp [caseCountAll, placedAll]
  | (segment, n) :: es => by
    simp only [caseCountAll, placedAll, List.length_append, caseCount_eq (path ++ [segment]) n,
      caseCountAll_eq path es]

end

theorem placed_place (leaf : TestCase) (gs : List String) (n : Node) (path : List String) :
    ((place leaf gs n).1.placed path).Perm ((path ++ gs, leaf) :: n.placed path) := by
  induction gs generalizing n path with
  | nil =>
    rw [placed_eq, placed_eq path n]
    simp [place, ← List.append_assoc, List.perm_append_singleton]
  | cons g gs ih =>
    rw [placed_eq, placed_eq path n]
    simp only [place, children_withChild, leaves_withChild, OrderedMap.insert, OrderedMap.get?,
      ← List.cons_append]
    apply List.Perm.append_right
    cases h : n.children.entries.lookup g with
    | none =>
      rw [OrderedMap.put_of_lookup_eq_none h, placedAll_append]
      have hchild := ih Node.empty (path ++ [g])
      simp only [placed_empty] at hchild
      simpa [placedAll] using
        (hchild.append_left (placedAll path n.children.entries)).trans
          (List.perm_append_singleton _ _)
    | some old =>
      obtain ⟨as, bs, hes, -, hput⟩ := OrderedMap.exists_split_of_lookup h
      rw [hput, hes]
      simp only [placedAll_append, placedAll]
      have hchild := ih old (path ++ [g])
      refine ((hchild.append_right _).append_left _).trans ?_
      simp [List.perm_middle]

theorem descend?_cons_eq_some {n : Node} {i : Nat} {is : List Nat} {segments : List String}
    {group : Node} :
    n.descend? (i :: is) = some (segments, group) ↔
      ∃ segment child rest, n.children.at? i = some (segment, child) ∧
        child.descend? is = some (rest, group) ∧ segments = segment :: rest := by
  simp only [descend?, bind, Option.bind_eq_some_iff, pure, Option.some.injEq, Prod.mk.injEq,
    Prod.exists]
  constructor
  · rintro ⟨segment, child, hat, rest, _, hd, rfl, rfl⟩
    exact ⟨segment, child, rest, hat, hd, rfl⟩
  · rintro ⟨segment, child, rest, hat, hd, rfl⟩
    exact ⟨segment, child, hat, rest, group, hd, rfl, rfl⟩

theorem descend?_place (leaf : TestCase) (gs : List String) (n : Node) :
    ∃ group, (place leaf gs n).1.descend? (place leaf gs n).2.groups = some (gs, group) ∧
      group.leaves[(place leaf gs n).2.leaf]? = some leaf := by
  induction gs generalizing n with
  | nil => exact ⟨n.withLeaf leaf, rfl, by simp [place]⟩
  | cons g gs ih =>
    obtain ⟨group, hd, hleaf⟩ := ih ((n.children.get? g).getD .empty)
    refine ⟨group, ?_, hleaf⟩
    exact descend?_cons_eq_some.2
      ⟨g, _, gs, OrderedMap.at?_position_insert n.children g _, hd, rfl⟩

/-- Positions go on leading through the same segments; the leaves there are at most added to. -/
theorem descend?_place_of_descend? (leaf : TestCase) (gs : List String) {n : Node}
    {is : List Nat} {segments : List String} {group : Node}
    (h : n.descend? is = some (segments, group)) :
    ∃ group', (place leaf gs n).1.descend? is = some (segments, group') ∧
      group.leaves <+: group'.leaves := by
  induction gs generalizing n is segments with
  | nil =>
    cases is with
    | nil =>
      obtain ⟨rfl, rfl⟩ : segments = [] ∧ group = n := by simpa [descend?, eq_comm] using h
      exact ⟨_, rfl, List.prefix_append ..⟩
    | cons i is => exact ⟨group, h, List.prefix_rfl⟩
  | cons g gs ih =>
    cases is with
    | nil =>
      obtain ⟨rfl, rfl⟩ : segments = [] ∧ group = n := by simpa [descend?, eq_comm] using h
      exact ⟨_, rfl, List.prefix_rfl⟩
    | cons i is =>
      obtain ⟨segment, child, rest, hat, hd, rfl⟩ := descend?_cons_eq_some.1 h
      -- the leaf is placed off the way or further along it
      rcases OrderedMap.at?_insert _ hat g
        (place leaf gs ((n.children.get? g).getD .empty)).1 with hsame | ⟨rfl, hget, hnew⟩
      · exact ⟨group, descend?_cons_eq_some.2 ⟨segment, child, rest, hsame, hd, rfl⟩,
          List.prefix_rfl⟩
      · obtain ⟨group', hd', hleaves⟩ := ih hd
        rw [hget] at hnew
        exact ⟨group', descend?_cons_eq_some.2 ⟨segment, _, rest, by simpa [place, hget], hd', rfl⟩,
          hleaves⟩

end Node

namespace Tree

def Holds (t : Tree) (id : String) (groups : List String) (leaf : TestCase) : Prop :=
  ∃ location group, t.locations.get? id = some location ∧
    t.root.descend? location.groups = some (groups, group) ∧
      group.leaves[location.leaf]? = some leaf

variable {t : Tree} {c : TestCase} {id : String} {groups : List String} {leaf : TestCase}

theorem Holds.get?_eq (h : t.Holds id groups leaf) : t.get? id = some leaf := by
  obtain ⟨location, group, hl, hd, hleaf⟩ := h
  simp [get?, hl, hd, hleaf]

theorem Holds.groupPath?_eq (h : t.Holds id groups leaf) : t.groupPath? id = some groups := by
  obtain ⟨location, group, hl, hd, -⟩ := h
  simp [groupPath?, hl, hd]

theorem insert_of_mem (h : c.id ∈ t.locations.keys) : t.insert c = t := by
  rw [insert, if_pos ((OrderedMap.contains_iff_mem_keys ..).2 h)]

theorem insert_of_not_mem (h : c.id ∉ t.locations.keys) :
    t.insert c = ⟨(Node.place c.leaf c.groups t.root).1,
      t.locations.insert c.id (Node.place c.leaf c.groups t.root).2⟩ := by
  rw [insert, if_neg (fun hc => h ((OrderedMap.contains_iff_mem_keys ..).1 hc))]
  rfl

theorem keys_insert (t : Tree) (c : TestCase) :
    (t.insert c).locations.keys =
      if c.id ∈ t.locations.keys then t.locations.keys else t.locations.keys ++ [c.id] := by
  by_cases h : c.id ∈ t.locations.keys
  · rw [insert_of_mem h, if_pos h]
  · rw [insert_of_not_mem h, OrderedMap.keys_insert]

theorem holds_insert_self (h : c.id ∉ t.locations.keys) :
    (t.insert c).Holds c.id c.groups c.leaf := by
  obtain ⟨group, hd, hleaf⟩ := Node.descend?_place c.leaf c.groups t.root
  rw [insert_of_not_mem h]
  exact ⟨_, group, by simp, hd, hleaf⟩

theorem Holds.insert (h : t.Holds id groups leaf) (c : TestCase) :
    (t.insert c).Holds id groups leaf := by
  by_cases hc : c.id ∈ t.locations.keys
  · rwa [insert_of_mem hc]
  · obtain ⟨location, group, hl, hd, hleaf⟩ := h
    obtain ⟨group', hd', rest, hleaves⟩ := Node.descend?_place_of_descend? c.leaf c.groups hd
    have hid : id ≠ c.id := by
      rintro rfl
      rw [OrderedMap.get?, OrderedMap.lookup_eq_none.2 hc] at hl
      cases hl
    rw [insert_of_not_mem hc]
    refine ⟨location, group', by simp [hid, hl], hd', ?_⟩
    rw [← hleaves, List.getElem?_append_left (List.getElem?_eq_some_iff.1 hleaf).1]
    exact hleaf

theorem extend_cons (t : Tree) (c : TestCase) (cs : List TestCase) :
    t.extend (c :: cs) = (t.insert c).extend cs := rfl

theorem Holds.extend (h : t.Holds id groups leaf) (cs : List TestCase) :
    (t.extend cs).Holds id groups leaf := by
  induction cs generalizing t with
  | nil => exact h
  | cons c cs ih => exact ih (h.insert c)

theorem holds_extend (as : List TestCase) (c : TestCase) (bs : List TestCase)
    (hold : c.id ∉ t.locations.keys) (has : c.id ∉ as.map (·.id)) :
    (t.extend (as ++ c :: bs)).Holds c.id c.groups c.leaf := by
  induction as generalizing t with
  | nil => exact (holds_insert_self hold).extend bs
  | cons a as ih =>
    obtain ⟨hne, has⟩ := List.ne_and_not_mem_of_not_mem_cons has
    refine ih ?_ has
    rw [keys_insert]
    split
    · exact hold
    · simp [hold, hne]

section Distinct

variable {cs : List TestCase}

theorem keys_extend (hnodup : (cs.map (·.id)).Nodup)
    (hnew : ∀ c ∈ cs, c.id ∉ t.locations.keys) :
    (t.extend cs).locations.keys = t.locations.keys ++ cs.map (·.id) := by
  induction cs generalizing t with
  | nil => simp [extend]
  | cons c cs ih =>
    obtain ⟨hc, hcs⟩ := List.nodup_cons.1 hnodup
    have hkeys : (t.insert c).locations.keys = t.locations.keys ++ [c.id] := by
      rw [keys_insert, if_neg (hnew c (by simp))]
    rw [extend_cons, ih hcs, hkeys]
    · simp
    · intro d hd
      have hne : d.id ≠ c.id := fun e => hc (List.mem_map.2 ⟨d, hd, e⟩)
      simp [hkeys, hnew d (by simp [hd]), hne]

theorem placed_extend (hnodup : (cs.map (·.id)).Nodup)
    (hnew : ∀ c ∈ cs, c.id ∉ t.locations.keys) :
    ((t.extend cs).root.placed []).Perm
      (cs.map (fun c => (c.groups, c.leaf)) ++ t.root.placed []) := by
  induction cs generalizing t with
  | nil => simp [extend]
  | cons c cs ih =>
    obtain ⟨hc, hcs⟩ := List.nodup_cons.1 hnodup
    have hnot := hnew c (by simp)
    have hplaced : ((t.insert c).root.placed []).Perm ((c.groups, c.leaf) :: t.root.placed []) := by
      rw [insert_of_not_mem hnot]
      exact Node.placed_place c.leaf c.groups t.root []
    refine (ih hcs ?_).trans ?_
    · intro d hd
      have hne : d.id ≠ c.id := fun e => hc (List.mem_map.2 ⟨d, hd, e⟩)
      simp [keys_insert, hnot, hnew d (by simp [hd]), hne]
    · exact (hplaced.append_left _).trans List.perm_middle

end Distinct

theorem placed_ofCases {cs : List TestCase} (hnodup : (cs.map (·.id)).Nodup) :
    ((ofCases cs).root.placed []).Perm (cs.map fun c => (c.groups, c.leaf)) := by
  simpa [ofCases, empty] using placed_extend (t := empty) hnodup (by simp [empty])

theorem size_ofCases {cs : List TestCase} (hnodup : (cs.map (·.id)).Nodup) :
    (ofCases cs).size = cs.length := by
  have hkeys := keys_extend (t := empty) hnodup (by simp [empty])
  simpa [ofCases, empty, OrderedMap.keys, OrderedMap.empty, size, OrderedMap.size] using
    congrArg List.length hkeys

theorem holds_ofCases {cs : List TestCase} (hnodup : (cs.map (·.id)).Nodup) {c : TestCase}
    (hc : c ∈ cs) : (ofCases cs).Holds c.id c.groups c.leaf := by
  obtain ⟨as, bs, rfl⟩ := List.append_of_mem hc
  refine holds_extend as c bs (by simp [empty]) ?_
  rw [List.map_append, List.nodup_append] at hnodup
  exact fun hid => hnodup.2.2 c.id hid c.id (by simp) rfl

end Tree

end InlineAssert
