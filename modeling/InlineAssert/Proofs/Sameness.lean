import InlineAssert.Proofs.Indexing

/-! When trees are the same. The comparison looks at the nodes alone, and at a pattern only as it is
written; yet trees that are built by calls and compare equal answer alike whatever they are asked,
and still do after the same further calls. -/

namespace InlineAssert

def Matcher.Alike (m n : Matcher) : Prop := m.pattern.text = n.pattern.text ∧ m.source = n.source

structure TestCase.Alike (c d : TestCase) : Prop where
  id_eq : c.id = d.id
  name_eq : c.name = d.name
  alloc_eq : c.alloc = d.alloc
  bytes_eq : c.bytes = d.bytes
  present : List.Forall₂ Matcher.Alike c.present d.present
  absent : List.Forall₂ Matcher.Alike c.absent d.absent

theorem forall₂_iff_eq {α : Type} {r : α → α → Prop} (h : ∀ a b, r a b ↔ a = b) {as bs : List α} :
    List.Forall₂ r as bs ↔ as = bs := by
  rw [show r = Eq from funext fun a => funext fun b => propext (h a b), List.forall₂_eq_eq_eq]

theorem Matcher.alike_iff (m n : Matcher) : m.Alike n ↔ m = n := by
  constructor
  · obtain ⟨p, source⟩ := m
    obtain ⟨q, source'⟩ := n
    rintro ⟨htext, rfl⟩
    obtain rfl : p = q := Pattern.ext_text htext
    rfl
  · rintro rfl
    exact ⟨rfl, rfl⟩

theorem TestCase.alike_iff (c d : TestCase) : c.Alike d ↔ c = d := by
  have hmatchers {ms ns : List Matcher} : List.Forall₂ Matcher.Alike ms ns ↔ ms = ns :=
    forall₂_iff_eq Matcher.alike_iff
  constructor
  · obtain ⟨id, name, alloc, bytes, present, absent⟩ := c
    rintro ⟨rfl, rfl, rfl, rfl, hpresent, habsent⟩
    cases hmatchers.1 hpresent
    cases hmatchers.1 habsent
    rfl
  · rintro rfl
    exact ⟨rfl, rfl, rfl, rfl, hmatchers.2 rfl, hmatchers.2 rfl⟩

namespace Node

mutual

inductive Alike : Node → Node → Prop
  | mk : AlikeAll es fs → List.Forall₂ TestCase.Alike ls ms → Alike (.mk ⟨es⟩ ls) (.mk ⟨fs⟩ ms)

inductive AlikeAll : List (String × Node) → List (String × Node) → Prop
  | nil : AlikeAll [] []
  | cons : Alike m n → AlikeAll es fs → AlikeAll ((s, m) :: es) ((s, n) :: fs)

end

mutual

theorem beq_iff_alike : (m n : Node) → m.beq n = true ↔ m.Alike n
  | .mk ⟨es⟩ ls, .mk ⟨fs⟩ ms => by
    rw [beq, Bool.and_eq_true, beqAll_iff_alikeAll es fs, beq_iff_eq,
      ← forall₂_iff_eq TestCase.alike_iff]
    constructor
    · rintro ⟨hes, hls⟩
      exact .mk hes hls
    · rintro ⟨hes, hls⟩
      exact ⟨hes, hls⟩

theorem beqAll_iff_alikeAll : (es fs : List (String × Node)) → beqAll es fs = true ↔ AlikeAll es fs
  | [], [] => by simp [beqAll, AlikeAll.nil]
  | [], _ :: _ => by
    simp only [beqAll, Bool.false_eq_true, false_iff]
    nofun
  | _ :: _, [] => by
    simp only [beqAll, Bool.false_eq_true, false_iff]
    nofun
  | (s, m) :: es, (t, n) :: fs => by
    rw [beqAll, Bool.and_eq_true, Bool.and_eq_true, beq_iff_eq, beq_iff_alike m n,
      beqAll_iff_alikeAll es fs]
    constructor
    · rintro ⟨⟨rfl, hm⟩, hes⟩
      exact .cons hm hes
    · rintro (_ | ⟨hm, hes⟩)
      exact ⟨⟨rfl, hm⟩, hes⟩

end

mutual

theorem eq_of_alike : {m n : Node} → m.Alike n → m = n
  | _, _, .mk hes hls => by
    rw [eq_of_alikeAll hes, (forall₂_iff_eq TestCase.alike_iff).1 hls]

theorem eq_of_alikeAll : {es fs : List (String × Node)} → AlikeAll es fs → es = fs
  | _, _, .nil => rfl
  | _, _, .cons hm hes => by rw [eq_of_alike hm, eq_of_alikeAll hes]

end

mutual

theorem beq_self : (n : Node) → n.beq n = true
  | .mk ⟨es⟩ ls => by simp [beq, beqAll_self es]

theorem beqAll_self : (es : List (String × Node)) → beqAll es es = true
  | [] => by simp [beqAll]
  | (s, n) :: es => by simp [beqAll, beq_self n, beqAll_self es]

end

theorem beq_iff_eq (m n : Node) : m.beq n = true ↔ m = n := by
  constructor
  · intro h
    exact eq_of_alike ((beq_iff_alike m n).1 h)
  · rintro rfl
    exact beq_self m

end Node

namespace Tree

variable {cs ds : List TestCase} {id : String}

theorem holds_of_mem_placed {place : List String × TestCase}
    (h : place ∈ (ofCases cs).root.placed []) :
    (ofCases cs).Holds place.2.id place.1 place.2 := by
  have hplaced := placed_ofCases (nodup_map_earliest TestCase.id cs)
  rw [ofCases_earliest] at hplaced
  obtain ⟨c, hc, rfl⟩ := List.mem_map.1 (hplaced.mem_iff.1 h)
  exact holds_of_mem_earliest hc

theorem lookup_ofCases (cs : List TestCase) (id : String) :
    let place := ((ofCases cs).root.placed []).find? (·.2.id = id)
    (ofCases cs).get? id = place.map (·.2) ∧ (ofCases cs).groupPath? id = place.map (·.1) := by
  intro place
  cases hplace : place with
  | some found =>
    have hid : found.2.id = id := by simpa using List.find?_some hplace
    have hholds := holds_of_mem_placed (List.mem_of_find?_eq_some hplace)
    rw [hid] at hholds
    exact ⟨hholds.get?_eq, hholds.groupPath?_eq⟩
  | none =>
    have hid : id ∉ (ofCases cs).locations.keys := by
      intro hmem
      obtain ⟨c, hc, rfl, -⟩ := exists_first_of_mem (mem_keys_ofCases.1 hmem)
      have hplaced := placed_ofCases (nodup_map_earliest TestCase.id cs)
      rw [ofCases_earliest] at hplaced
      have hnone := List.find?_eq_none.1 hplace (c.groups, c.leaf)
        (hplaced.mem_iff.2 (List.mem_map_of_mem hc))
      exact hnone (decide_eq_true rfl)
    have hlocation : (ofCases cs).locations.get? id = none := OrderedMap.lookup_eq_none.2 hid
    exact ⟨by simp [get?, hlocation], by simp [groupPath?, hlocation]⟩

theorem insert_root_eq (h : (ofCases cs).root = (ofCases ds).root) (c : TestCase) :
    ((ofCases cs).insert c).root = ((ofCases ds).insert c).root := by
  have hget : (ofCases cs).get? c.id = (ofCases ds).get? c.id := by
    rw [(lookup_ofCases cs c.id).1, (lookup_ofCases ds c.id).1, h]
  by_cases hc : c.id ∈ (ofCases cs).locations.keys
  · have hd : c.id ∈ (ofCases ds).locations.keys := by
      rwa [mem_keys_ofCases, ← isSome_get?_iff, ← hget, isSome_get?_iff, ← mem_keys_ofCases]
    rw [insert_of_mem hc, insert_of_mem hd, h]
  · have hd : c.id ∉ (ofCases ds).locations.keys := by
      rwa [mem_keys_ofCases, ← isSome_get?_iff, ← hget, isSome_get?_iff, ← mem_keys_ofCases]
    rw [insert_of_not_mem hc, insert_of_not_mem hd, h]

theorem ofCases_append_root_eq (h : (ofCases cs).root = (ofCases ds).root) (more : List TestCase) :
    (ofCases (cs ++ more)).root = (ofCases (ds ++ more)).root := by
  induction more using List.reverseRecOn with
  | nil => simpa using h
  | append_singleton more c ih =>
    rw [← List.append_assoc, ← List.append_assoc, ofCases_append_singleton,
      ofCases_append_singleton]
    exact insert_root_eq ih c

theorem foldl_run_afterUpdates (us more : List Update) :
    more.foldl Update.run (afterUpdates us) =
      ofCases (us.flatMap Update.cases ++ more.flatMap Update.cases) := by
  rw [← List.flatMap_append, ← afterUpdates_eq, afterUpdates, afterUpdates, List.foldl_append]

/-- Trees that compare equal, which is told by their nodes alone and of patterns by their text,
cannot be told apart by what is asked of them, by what further calls make of them, or by a walk. -/
theorem agree_of_beq (us vs : List Update) :
    let a := afterUpdates us
    let b := afterUpdates vs
    ((a == b) = true ↔ a.root.Alike b.root) ∧
      ((a == b) = true →
        a.size = b.size ∧
        (∀ id, a.get? id = b.get? id ∧ a.groupPath? id = b.groupPath? id) ∧
        (∀ more : List Update, (more.foldl Update.run a == more.foldl Update.run b) = true) ∧
        ∀ {σ : Type} (context : Context) (provider : Option (Provider σ)) (state : σ),
          a.walk context provider state = b.walk context provider state) := by
  intro a b
  refine ⟨Node.beq_iff_alike a.root b.root, fun hbeq => ?_⟩
  have hroot : a.root = b.root := (Node.beq_iff_eq a.root b.root).1 hbeq
  have ha : a = ofCases (us.flatMap Update.cases) := afterUpdates_eq us
  have hb : b = ofCases (vs.flatMap Update.cases) := afterUpdates_eq vs
  refine ⟨?_, fun id => ?_, fun more => ?_, fun context provider state => ?_⟩
  · rw [ha, hb, size_eq_caseCount, size_eq_caseCount, ← ha, ← hb, caseCount, caseCount, hroot]
  -- the index is not compared, but it can be read off the nodes
  · obtain ⟨hget, hgroups⟩ := lookup_ofCases (us.flatMap Update.cases) id
    obtain ⟨hget', hgroups'⟩ := lookup_ofCases (vs.flatMap Update.cases) id
    rw [← ha] at hget hgroups
    rw [← hb] at hget' hgroups'
    rw [hget, hget', hgroups, hgroups', hroot]
    exact ⟨rfl, rfl⟩
  · apply (Node.beq_iff_eq _ _).2
    rw [foldl_run_afterUpdates, foldl_run_afterUpdates]
    exact ofCases_append_root_eq (by rw [← ha, ← hb, hroot]) _
  · rw [walk, walk, hroot]

theorem agree_of_beq_other_order :
    let x : TestCase := { id := "x", name := "/g/x", alloc := some (Range.exact 2) }
    let y : TestCase := { id := "y" }
    let a := afterUpdates [.insert x, .insert y]
    let b := afterUpdates [.extend [y, x]]
    (a.locations ≠ b.locations ∧ (a == b) = true) ∧
      (b.get? "x" = some { x with name := "x" } ∧ b.groupPath? "x" = some ["g"]) ∧
      ∀ more : List Update, (more.foldl Update.run a == more.foldl Update.run b) = true := by
  intro x y a b
  have hbeq : (a == b) = true := by decide
  obtain ⟨-, hlookups, hlater, -⟩ := (agree_of_beq [.insert x, .insert y] [.extend [y, x]]).2 hbeq
  obtain ⟨hget, hgroups⟩ := hlookups "x"
  exact ⟨⟨by decide, hbeq⟩, ⟨hget ▸ by decide, hgroups ▸ by decide⟩, hlater⟩

end Tree

end InlineAssert
