import InlineAssert.OrderedMap
import Mathlib.Data.List.Basic

namespace InlineAssert.OrderedMap

variable {V : Type}

theorem lookup_eq_none {key : String} {es : List (String × V)} :
    es.lookup key = none ↔ key ∉ es.map (·.1) := by
  induction es with
  | nil => simp
  | cons e es ih =>
    obtain ⟨k, v⟩ := e
    rw [lookup_cons]
    by_cases h : key = k <;> simp [h, ih]

theorem lookup_of_mem {key : String} {value : V} {es : List (String × V)}
    (hnodup : (es.map (·.1)).Nodup) (h : (key, value) ∈ es) : es.lookup key = some value := by
  induction es with
  | nil => cases h
  | cons e es ih =>
    obtain ⟨k, v⟩ := e
    obtain ⟨hk, hes⟩ := List.nodup_cons.1 hnodup
    rw [lookup_cons]
    cases h with
    | head => rw [if_pos rfl]
    | tail _ h =>
      have hmem : key ∈ es.map (·.1) := List.mem_map_of_mem h
      have hne : key ≠ k := fun e => hk (e ▸ hmem)
      rw [if_neg hne, ih hes h]

theorem exists_split_of_lookup {key : String} {old : V} {es : List (String × V)}
    (h : es.lookup key = some old) :
    ∃ as bs, es = as ++ (key, old) :: bs ∧ key ∉ as.map (·.1) ∧
      ∀ value, put key value es = as ++ (key, value) :: bs := by
  induction es with
  | nil => simp at h
  | cons e es ih =>
    obtain ⟨k, v⟩ := e
    by_cases hk : key = k
    · subst hk
      obtain rfl : v = old := by simpa [lookup_cons] using h
      exact ⟨[], es, rfl, by simp, fun value => by simp [put]⟩
    · rw [lookup_cons, if_neg hk] at h
      obtain ⟨as, bs, rfl, has, hput⟩ := ih h
      refine ⟨(k, v) :: as, bs, rfl, by simpa [hk] using has, fun value => ?_⟩
      rw [put, if_neg (fun e => hk e.symm), hput]
      rfl

theorem put_of_lookup_eq_none {key : String} {es : List (String × V)}
    (h : es.lookup key = none) (value : V) : put key value es = es ++ [(key, value)] := by
  induction es with
  | nil => rfl
  | cons e es ih =>
    obtain ⟨k, v⟩ := e
    by_cases hk : key = k
    · simp [hk] at h
    · rw [lookup_cons, if_neg hk] at h
      rw [put, if_neg (fun e => hk e.symm), ih h]
      rfl

theorem put_put (key : String) (value value' : V) (es : List (String × V)) :
    put key value' (put key value es) = put key value' es := by
  induction es with
  | nil => simp [put]
  | cons e es ih =>
    obtain ⟨k, v⟩ := e
    by_cases h : k = key <;> simp [put, h, ih]

theorem lookup_map_pair (f : String → V) (keys : List String) (key : String) :
    (keys.map fun k => (k, f k)).lookup key = if key ∈ keys then some (f key) else none := by
  induction keys with
  | nil => simp
  | cons k ks ih =>
    rw [List.map_cons, lookup_cons, ih]
    by_cases h : key = k
    · subst h
      simp
    · simp [h]

theorem put_map_pair (f : String → V) {keys : List String} (hnodup : keys.Nodup) (key : String)
    (value : V) :
    put key value (keys.map fun k => (k, f k)) =
      (if key ∈ keys then keys else keys ++ [key]).map
        fun k => (k, if k = key then value else f k) := by
  induction keys with
  | nil => simp [put]
  | cons k ks ih =>
    obtain ⟨hk, hks⟩ := List.nodup_cons.1 hnodup
    by_cases h : k = key
    · subst h
      have hrest : ∀ j ∈ ks, j ≠ k := fun j hj e => hk (e ▸ hj)
      simpa [put] using fun j hj e => absurd e (hrest j hj)
    · have h' : key ≠ k := fun e => h e.symm
      rw [List.map_cons, put, if_neg h, ih hks]
      by_cases hmem : key ∈ ks <;> simp [h, h', hmem]

theorem idxOf?_append_cons {key : String} {as : List String} (h : key ∉ as) (bs : List String) :
    (as ++ key :: bs).idxOf? key = some as.length := by
  induction as with
  | nil => simp [List.idxOf?_cons]
  | cons a as ih =>
    obtain ⟨ha, has⟩ := List.ne_and_not_mem_of_not_mem_cons h
    simp [List.idxOf?_cons, ha.symm, ih has]

variable (m : OrderedMap V)

theorem at?_position_insert (key : String) (value : V) :
    (m.insert key value).at? (m.position key) = some (key, value) := by
  cases h : m.entries.lookup key with
  | none =>
    have hindex : m.index? key = none := by
      simpa [index?, keys] using lookup_eq_none.1 h
    simp [at?, insert, position, hindex, size, put_of_lookup_eq_none h]
  | some old =>
    obtain ⟨as, bs, hes, has, hput⟩ := exists_split_of_lookup h
    have hindex : m.index? key = some as.length := by
      rw [index?, keys, hes, List.map_append, List.map_cons]
      simpa using idxOf?_append_cons has (bs.map (·.1))
    simp [at?, insert, position, hindex, hput]

theorem at?_insert {i : Nat} {k : String} {v : V} (h : m.at? i = some (k, v)) (key : String)
    (value : V) :
    (m.insert key value).at? i = some (k, v) ∨
      k = key ∧ m.get? key = some v ∧ (m.insert key value).at? i = some (key, value) := by
  cases hl : m.entries.lookup key with
  | none =>
    left
    have hi : i < m.entries.length := (List.getElem?_eq_some_iff.1 h).1
    rw [at?, insert, put_of_lookup_eq_none hl, List.getElem?_append_left hi]
    exact h
  | some old =>
    obtain ⟨as, bs, hes, -, hput⟩ := exists_split_of_lookup hl
    rw [at?, hes] at h
    simp only [at?, insert, get?, hput, hl]
    rcases Nat.lt_trichotomy i as.length with hi | rfl | hi
    · left
      rw [List.getElem?_append_left hi] at h ⊢
      exact h
    · right
      simp only [List.getElem?_append_right (Nat.le_refl _), Nat.sub_self,
        List.getElem?_cons_zero, Option.some.injEq, Prod.mk.injEq] at h ⊢
      exact ⟨h.1.symm, h.2, trivial⟩
    · left
      obtain ⟨j, rfl⟩ : ∃ j, i = as.length + (j + 1) := ⟨i - as.length - 1, by omega⟩
      simpa [List.getElem?_append_right] using h

end InlineAssert.OrderedMap
