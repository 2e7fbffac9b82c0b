import InlineAssert.Proofs.Resolution

namespace InlineAssert

inductive Spells : (segments : List String) → (name : List Char) → Prop
  | last : IsSegment s → Spells [s] (s.toList ++ List.replicate n '/')
  | cons : IsSegment s → Spells later name →
      Spells (s :: later) (s.toList ++ List.replicate (n + 1) '/' ++ name)

section Segments

theorem segments_slash (cs : List Char) :
    segments (.ofList ('/' :: cs)) = segments (.ofList cs) := by
  have hcut : Text.pieces '/' ([] ++ '/' :: cs) = [] :: Text.pieces '/' cs :=
    Text.pieces_append_sep List.not_mem_nil cs
  rw [List.nil_append] at hcut
  rw [segments, String.toList_ofList, hcut, segments, String.toList_ofList]
  rfl

theorem segments_slashes (n : Nat) (cs : List Char) :
    segments (.ofList (List.replicate n '/' ++ cs)) = segments (.ofList cs) := by
  induction n with
  | zero => rfl
  | succ n ih => rw [List.replicate_succ, List.cons_append, segments_slash, ih]

@[simp] theorem segments_replicate (n : Nat) : segments (.ofList (List.replicate n '/')) = [] := by
  have h := segments_slashes n []
  rwa [List.append_nil] at h

theorem IsSegment.segments_append_slash {s : String} (h : IsSegment s) (cs : List Char) :
    segments (.ofList (s.toList ++ '/' :: cs)) = s :: segments (.ofList cs) := by
  have hne : s.toList.isEmpty = false := by
    rw [List.isEmpty_eq_false_iff, ne_eq, String.toList_eq_nil_iff]
    exact h.ne_empty
  rw [segments, String.toList_ofList, Text.pieces_append_sep h.slash_not_mem,
    List.filter_cons_of_pos (by rw [hne]; rfl), List.map_cons, String.ofList_toList, segments,
    String.toList_ofList]

theorem IsSegment.segments_append {s : String} (h : IsSegment s) (n : Nat) :
    segments (.ofList (s.toList ++ List.replicate n '/')) = [s] := by
  cases n with
  | zero => rw [List.replicate_zero, List.append_nil, String.ofList_toList, h.segments_eq]
  | succ n => rw [List.replicate_succ, h.segments_append_slash, segments_replicate]

end Segments

namespace Spells

variable {path : List String} {name : List Char}

theorem segments_eq (h : Spells path name) : segments (.ofList name) = path := by
  induction h with
  | last hs => exact hs.segments_append _
  | cons hs _ ih =>
    rw [List.append_assoc, List.replicate_succ, List.cons_append, hs.segments_append_slash,
      segments_slashes, ih]

theorem ne_nil (h : Spells path name) : path ≠ [] := by
  cases h <;> exact List.cons_ne_nil _ _

theorem isSegment {s : String} (h : Spells path name) (hs : s ∈ path) : IsSegment s := by
  rw [← h.segments_eq] at hs
  exact isSegment_of_mem_segments hs

theorem head?_ne (h : Spells path name) : name.head? ≠ some '/' := by
  have hsegment {s : String} (hs : IsSegment s) (cs : List Char) :
      (s.toList ++ cs).head? ≠ some '/' := by
    have hne : s.toList ≠ [] := fun hnil => hs.ne_empty (String.toList_eq_nil_iff.1 hnil)
    rw [List.head?_append_of_ne_nil _ hne]
    exact fun hslash => hs.slash_not_mem (List.mem_of_mem_head? hslash)
  cases h with
  | last hs => exact hsegment hs _
  | cons hs => rw [List.append_assoc]; exact hsegment hs _

end Spells

theorem exists_slashes (cs : List Char) :
    ∃ n rest, cs = List.replicate n '/' ++ rest ∧ rest.head? ≠ some '/' := by
  induction cs with
  | nil => exact ⟨0, [], rfl, nofun⟩
  | cons c cs ih =>
    by_cases hc : c = '/'
    · obtain ⟨n, rest, rfl, hrest⟩ := ih
      exact ⟨n + 1, rest, by rw [hc, List.replicate_succ, List.cons_append], hrest⟩
    · exact ⟨0, c :: cs, rfl, by simpa using hc⟩

theorem exists_spells {cs : List Char} (hne : cs ≠ []) (hhead : cs.head? ≠ some '/') :
    ∃ path, Spells path cs := by
  by_cases hslash : '/' ∈ cs
  · obtain ⟨front, later, rfl, hfront⟩ := List.eq_append_cons_of_mem hslash
    have hsegment : IsSegment (.ofList front) := by
      refine ⟨fun hempty => ?_, by simpa using hfront⟩
      obtain rfl : front = [] := by simpa using hempty
      exact hhead rfl
    obtain ⟨n, rest, rfl, hrest⟩ := exists_slashes later
    rcases eq_or_ne rest [] with rfl | hmore
    · have hlast := Spells.last hsegment (n := n + 1)
      rw [String.toList_ofList, List.replicate_succ] at hlast
      exact ⟨_, by rwa [List.append_nil]⟩
    · obtain ⟨path, hpath⟩ := exists_spells hmore hrest
      have hcons := Spells.cons hsegment hpath (n := n)
      rw [String.toList_ofList, List.append_assoc, List.replicate_succ] at hcons
      exact ⟨_, hcons⟩
  · have hsegment : IsSegment (.ofList cs) := ⟨by simpa using hne, by simpa using hslash⟩
    have hlast := Spells.last hsegment (n := 0)
    rw [String.toList_ofList, List.replicate_zero, List.append_nil] at hlast
    exact ⟨_, hlast⟩
termination_by cs.length

inductive Addresses (id : String) : (name : String) → (path : List String) → Prop
  | self : Addresses id id [id]
  | slashes : Addresses id (.ofList (List.replicate n '/')) [id]
  | rooted : Spells path cs → .ofList (List.replicate (n + 1) '/' ++ cs) ≠ id →
      Addresses id (.ofList (List.replicate (n + 1) '/' ++ cs)) path
  | below : Spells path cs → .ofList cs ≠ id → Addresses id (.ofList cs) (id :: path)

namespace Addresses

variable {id name : String} {path : List String}

theorem resolvePath_eq (h : Addresses id name path) : resolvePath id name = path := by
  cases h with
  | self => exact resolvePath_self id
  | @slashes n =>
    cases n with
    | zero => exact if_pos (.inl rfl)
    | succ n =>
      have hhead : (List.replicate (n + 1) '/').head? = some '/' := rfl
      rw [resolvePath, String.toList_ofList, if_pos hhead, segments_replicate]
      exact ite_self [id]
  | @rooted _ cs n hspells hid =>
    have hne : String.ofList (List.replicate (n + 1) '/' ++ cs) ≠ "" := by simp
    have hhead : (List.replicate (n + 1) '/' ++ cs).head? = some '/' := rfl
    rw [resolvePath, if_neg (not_or.2 ⟨hne, hid⟩), String.toList_ofList, if_pos hhead,
      segments_slashes, hspells.segments_eq, List.nil_append]
    exact if_neg (by simpa using hspells.ne_nil)
  | @below path cs hspells hid =>
    have hne : String.ofList cs ≠ "" := by
      intro hempty
      obtain rfl : cs = [] := by simpa using hempty
      exact hspells.ne_nil hspells.segments_eq.symm
    rw [resolvePath, if_neg (not_or.2 ⟨hne, hid⟩), String.toList_ofList,
      if_neg hspells.head?_ne, hspells.segments_eq]
    rfl

end Addresses

theorem exists_addresses (id name : String) : ∃ path, Addresses id name path := by
  by_cases hid : name = id
  · exact hid ▸ ⟨_, .self⟩
  · obtain ⟨n, cs, hname, hhead⟩ := exists_slashes name.toList
    obtain rfl : name = .ofList (List.replicate n '/' ++ cs) := by
      rw [← hname, String.ofList_toList]
    rcases eq_or_ne cs [] with rfl | hne
    · rw [List.append_nil]
      exact ⟨_, .slashes⟩
    · obtain ⟨path, hspells⟩ := exists_spells hne hhead
      cases n with
      | zero => exact ⟨_, .below hspells hid⟩
      | succ n => exact ⟨_, .rooted hspells hid⟩

theorem mem_resolvePath {id name s : String} (h : s ∈ resolvePath id name) :
    s = id ∨ IsSegment s := by
  obtain ⟨path, haddresses⟩ := exists_addresses id name
  rw [haddresses.resolvePath_eq] at h
  cases haddresses with
  | self => exact .inl (List.mem_singleton.1 h)
  | slashes => exact .inl (List.mem_singleton.1 h)
  | rooted hspells => exact .inr (hspells.isSegment h)
  | below hspells => exact (List.mem_cons.1 h).imp_right hspells.isSegment

/-- A name resolves to the path that it addresses, whatever its slashes, and to no other. If the id
is not empty then the path has a segment and no empty one, and a slash in none but the id. -/
theorem resolvePath_eq_iff_addresses (id : String) :
    (∀ name path, resolvePath id name = path ↔ Addresses id name path) ∧
      (id ≠ "" → ∀ name, resolvePath id name ≠ [] ∧
        ∀ s ∈ resolvePath id name, s ≠ "" ∧ ('/' ∈ s.toList → s = id)) := by
  refine ⟨fun name path => ⟨?_, Addresses.resolvePath_eq⟩, fun hid name => ?_⟩
  · rintro rfl
    obtain ⟨path, h⟩ := exists_addresses id name
    rwa [h.resolvePath_eq]
  · refine ⟨resolvePath_ne_nil id name, fun s hs => ?_⟩
    rcases mem_resolvePath hs with rfl | hsegment
    · exact ⟨hid, fun _ => rfl⟩
    · exact ⟨hsegment.ne_empty, fun hslash => absurd hslash hsegment.slash_not_mem⟩

theorem resolvePath_eq_iff_addresses_slashed_id :
    let id := "a/b"
    id ≠ "" ∧ Addresses id "//x///y z/" ["x", "y z"] ∧ Addresses id "x" ["a/b", "x"] ∧
      Addresses id "a/b" ["a/b"] ∧ Addresses id "///" ["a/b"] ∧
      ∀ s ∈ resolvePath id "x//y", s ≠ "" ∧ ('/' ∈ s.toList → s = id) := by
  intro id
  have hid : id ≠ "" := by decide
  obtain ⟨hiff, hsegments⟩ := resolvePath_eq_iff_addresses id
  exact ⟨hid, (hiff _ _).1 (by decide), (hiff _ _).1 (by decide), (hiff _ _).1 (by decide),
    (hiff _ _).1 (by decide), (hsegments hid "x//y").2⟩

end InlineAssert
