import InlineAssert.IndexedMap
import InlineAssert.Proofs.Earliest
import InlineAssert.Proofs.OrderedMap

namespace InlineAssert

theorem idxOf?_append_singleton (keys : List String) (key k : String) :
    (keys ++ [key]).idxOf? k =
      (keys.idxOf? k).or (if key = k then some keys.length else none) := by
  induction keys with
  | nil => simp [List.idxOf?_cons]
  | cons j keys ih =>
    by_cases h : j = k
    · simp [List.idxOf?_cons, h]
    · rw [List.cons_append, List.idxOf?_cons, List.idxOf?_cons, ih]
      cases keys.idxOf? k <;> by_cases hk : key = k <;> simp [h, hk]

namespace KeyIndex

structure Indexes (index : KeyIndex) (keys : List String) : Prop where
  nodup : keys.Nodup
  find?_eq : ∀ key, index.find? key = keys.idxOf? key
  size_eq : index.size = keys.length

namespace Indexes

variable {index index' : KeyIndex} {keys : List String} {key : String} {i : Nat}

theorem empty : Indexes {} [] := ⟨List.nodup_nil, fun _ => find?_empty _, size_empty⟩

theorem find?_eq_none_iff (h : index.Indexes keys) : index.find? key = none ↔ key ∉ keys := by
  rw [h.find?_eq, List.idxOf?_eq_none_iff]

theorem find?_eq_some_iff (h : index.Indexes keys) :
    index.find? key = some i ↔ keys[i]? = some key := by
  rw [h.find?_eq, List.idxOf?_eq_some_iff]
  constructor
  · rintro ⟨hi, rfl, -⟩
    exact List.getElem?_eq_getElem hi
  · intro hkey
    obtain ⟨hi, rfl⟩ := List.getElem?_eq_some_iff.1 hkey
    refine ⟨hi, rfl, fun j hj hsame => ?_⟩
    exact Nat.ne_of_lt hj (h.nodup.getElem_inj_iff.1 hsame)

theorem push (h : index.Indexes keys) (hkey : key ∉ keys) :
    (index.insert key keys.length).Indexes (keys ++ [key]) where
  nodup := by simpa [List.nodup_append, h.nodup] using fun a ha (e : a = key) => hkey (e ▸ ha)
  find?_eq k := by
    rw [find?_insert, h.find?_eq, idxOf?_append_singleton]
    by_cases hk : k = key
    · subst hk
      simp [List.idxOf?_eq_none_iff.2 hkey]
    · have hk' : ¬ key = k := fun e => hk e.symm
      simp [hk, hk']
  size_eq := by
    rw [size_insert _ _ _ (h.find?_eq_none_iff.2 hkey), h.size_eq, List.length_append,
      List.length_singleton]

theorem eq (h : index.Indexes keys) (h' : index'.Indexes keys) : index = index' :=
  KeyIndex.ext fun key => by rw [h.find?_eq, h'.find?_eq]

end Indexes

end KeyIndex

namespace OrderedMap

variable {V : Type}

theorem get?_eq_bind (m : OrderedMap V) (key : String) :
    m.get? key = (m.index? key).bind fun i => m.values[i]? := by
  obtain ⟨entries⟩ := m
  simp only [get?, index?, keys, values]
  induction entries with
  | nil => rfl
  | cons e es ih =>
    obtain ⟨k, v⟩ := e
    rw [lookup_cons, List.map_cons, List.map_cons, List.idxOf?_cons]
    by_cases h : key = k
    · simp [h]
    · have h' : ¬ k = key := fun e => h e.symm
      rw [if_neg h, ih, if_neg (by simpa using h'), Option.bind_map]
      rfl

section Zip

variable {keys : List String} {values : List V} {key : String}
  (hlength : keys.length = values.length)

include hlength

theorem put_zip_append (h : key ∉ keys) (value : V) :
    put key value (keys.zip values) = (keys ++ [key]).zip (values ++ [value]) := by
  have hkeys : (keys.zip values).map (·.1) = keys := List.map_fst_zip (Nat.le_of_eq hlength)
  rw [put_of_lookup_eq_none, List.zip_append hlength]
  · rfl
  · rw [lookup_eq_none, hkeys]
    exact h

theorem put_zip_set {i : Nat} (h : keys.idxOf? key = some i) (value : V) :
    put key value (keys.zip values) = keys.zip (values.set i value) := by
  induction keys generalizing values i with
  | nil => cases h
  | cons k keys ih =>
    obtain _ | ⟨v, values⟩ := values
    · cases hlength
    · rw [List.idxOf?_cons] at h
      by_cases hk : k = key
      · obtain rfl : 0 = i := by simpa [hk] using h
        simp [put, hk]
      · obtain ⟨j, hj, rfl⟩ : ∃ j, keys.idxOf? key = some j ∧ j + 1 = i := by
          simpa [hk] using h
        have hrest := ih (Nat.succ.inj hlength) hj
        simp [put, hk, hrest]

theorem beq_zip [BEq V] {keys' : List String} {values' : List V}
    (hlength' : keys'.length = values'.length) :
    (keys.zip values == keys'.zip values') = (keys == keys' && values == values') := by
  induction keys generalizing values keys' values' with
  | nil =>
    obtain rfl : values = [] := List.length_eq_zero_iff.1 hlength.symm
    cases keys' with
    | nil =>
      obtain rfl : values' = [] := List.length_eq_zero_iff.1 hlength'.symm
      rfl
    | cons k' keys' =>
      cases values' with
      | nil => cases hlength'
      | cons v' values' => rfl
  | cons k keys ih =>
    cases values with
    | nil => cases hlength
    | cons v values =>
    cases keys' with
    | nil => rfl
    | cons k' keys' =>
    cases values' with
    | nil => cases hlength'
    | cons v' values' =>
      have hrest := ih (Nat.succ.inj hlength) (Nat.succ.inj hlength')
      rw [List.zip_cons_cons, List.zip_cons_cons, List.cons_beq_cons, List.cons_beq_cons,
        List.cons_beq_cons, hrest]
      change ((k == k' && v == v') && _) = _
      ac_rfl

end Zip

def written? (log : List (String × V)) (key : String) : Option V :=
  (log.filter (·.1 = key)).getLast?.map (·.2)

theorem ofList_append_singleton (log : List (String × V)) (e : String × V) :
    ofList (log ++ [e]) = (ofList log).insert e.1 e.2 := by
  simp [ofList]

theorem keys_ofList (log : List (String × V)) : (ofList log).keys = (log.map (·.1)).eraseDups := by
  induction log using List.reverseRecOn with
  | nil => rfl
  | append_singleton log e ih =>
    rw [ofList_append_singleton, keys_insert, ih, List.map_append, List.map_singleton,
      eraseDups_append_singleton]
    simp only [List.mem_eraseDups]

theorem get?_ofList (log : List (String × V)) (key : String) :
    (ofList log).get? key = written? log key := by
  induction log using List.reverseRecOn with
  | nil => rfl
  | append_singleton log e ih =>
    rw [ofList_append_singleton, get?_insert, ih, written?, written?, List.filter_append]
    by_cases h : key = e.1
    · simp [h]
    · have h' : ¬ e.1 = key := fun hk => h hk.symm
      simp [h, h']

end OrderedMap

namespace IndexedMap

variable {V σ : Type} {m m' : IndexedMap V} {key : String} {i : Nat}

structure Intact (m : IndexedMap V) : Prop where
  indexes : m.index.Indexes m.keys
  length_eq : m.keys.length = m.values.length

def toOrdered (m : IndexedMap V) : OrderedMap V := ⟨m.entries⟩

theorem at?_toOrdered : m.toOrdered.at? i = m.at? i := by
  rw [OrderedMap.at?, toOrdered, entries, List.zip_eq_zipWith, List.getElem?_zipWith, at?]
  cases m.keys[i]? <;> cases m.values[i]? <;> rfl

namespace Intact

theorem empty : Intact ({} : IndexedMap V) := ⟨.empty, rfl⟩

variable (h : m.Intact)

include h

theorem keys_toOrdered : m.toOrdered.keys = m.keys := List.map_fst_zip (Nat.le_of_eq h.length_eq)

theorem values_toOrdered : m.toOrdered.values = m.values :=
  List.map_snd_zip (Nat.le_of_eq h.length_eq.symm)

theorem size_toOrdered : m.toOrdered.size = m.size := by
  rw [OrderedMap.size, toOrdered, entries, List.length_zip, h.length_eq, Nat.min_self, size]

theorem index?_toOrdered : m.toOrdered.index? key = m.index? key := by
  rw [OrderedMap.index?, h.keys_toOrdered, index?, h.indexes.find?_eq]

theorem get?_toOrdered : m.toOrdered.get? key = m.get? key := by
  rw [OrderedMap.get?_eq_bind, h.index?_toOrdered, h.values_toOrdered]
  rfl

theorem position_of_index? (hkey : m.index? key = some i) : m.toOrdered.position key = i := by
  rw [OrderedMap.position, h.index?_toOrdered, hkey, Option.getD_some]

theorem position_of_new (hkey : m.index? key = none) : m.toOrdered.position key = m.size := by
  rw [OrderedMap.position, h.index?_toOrdered, hkey, Option.getD_none, h.size_toOrdered]

theorem values_of_index? (hkey : m.index? key = some i) :
    ∃ value, m.values[i]? = some value ∧ m.get? key = some value := by
  obtain ⟨hi, -⟩ := List.getElem?_eq_some_iff.1 (h.indexes.find?_eq_some_iff.1 hkey)
  have hvalue : m.values[i]? = some _ := List.getElem?_eq_getElem (h.length_eq ▸ hi)
  refine ⟨_, hvalue, ?_⟩
  rw [get?, hkey]
  exact hvalue

theorem index?_eq_some_iff : m.index? key = some i ↔ ∃ value, m.at? i = some (key, value) := by
  constructor
  · intro hkey
    obtain ⟨value, hvalue, -⟩ := h.values_of_index? hkey
    refine ⟨value, ?_⟩
    rw [at?, h.indexes.find?_eq_some_iff.1 hkey, hvalue]
    rfl
  · rintro ⟨value, hat⟩
    rw [← at?_toOrdered] at hat
    exact h.indexes.find?_eq_some_iff.2 (List.getElem?_zip_eq_some.1 hat).1

theorem push (hkey : m.index? key = none) (value : V) : (m.push key value).Intact where
  indexes := by
    rw [IndexedMap.push, size, ← h.length_eq]
    exact h.indexes.push (h.indexes.find?_eq_none_iff.1 hkey)
  length_eq := by simp [IndexedMap.push, h.length_eq]

theorem modifyAt (i : Nat) (change : V → V) : (m.modifyAt i change).Intact :=
  ⟨h.indexes, by rw [IndexedMap.modifyAt, List.length_modify, h.length_eq]⟩

theorem toOrdered_push (hkey : m.index? key = none) (value : V) :
    (m.push key value).toOrdered = m.toOrdered.insert key value :=
  congrArg OrderedMap.mk
    (OrderedMap.put_zip_append h.length_eq (h.indexes.find?_eq_none_iff.1 hkey) value).symm

theorem toOrdered_modifyAt {value : V} (hkey : m.index? key = some i)
    (hvalue : m.get? key = some value) (change : V → V) :
    (m.modifyAt i change).toOrdered = m.toOrdered.insert key (change value) := by
  obtain ⟨old, hold, hget⟩ := h.values_of_index? hkey
  obtain rfl : value = old := Option.some.inj (hvalue.symm.trans hget)
  have hset : m.values.modify i change = m.values.set i (change value) := by
    rw [List.modify_eq_set_getElem?, hold]
    rfl
  rw [toOrdered, entries, IndexedMap.modifyAt, hset,
    ← OrderedMap.put_zip_set h.length_eq ((h.indexes.find?_eq key).symm.trans hkey) (change value)]
  rfl

theorem insert (key : String) (value : V) :
    (m.insert key value).1.Intact ∧
      (m.insert key value).1.toOrdered = m.toOrdered.insert key value ∧
      (m.insert key value).2 = m.toOrdered.position key := by
  unfold IndexedMap.insert
  cases hkey : m.index? key with
  | some i =>
    obtain ⟨old, -, hget⟩ := h.values_of_index? hkey
    exact ⟨h.modifyAt i _, h.toOrdered_modifyAt hkey hget _, (h.position_of_index? hkey).symm⟩
  | none =>
    rw [getOrInsertWith, hkey]
    exact ⟨h.push hkey value, h.toOrdered_push hkey value, (h.position_of_new hkey).symm⟩

theorem index?_of_get?_eq_none (hget : m.get? key = none) : m.index? key = none := by
  cases hkey : m.index? key with
  | none => rfl
  | some i =>
    obtain ⟨value, -, hvalue⟩ := h.values_of_index? hkey
    cases hget.symm.trans hvalue

end Intact

def visit (m : IndexedMap V) (key : String) (make : σ → V × σ) (change : V → V) (state : σ) :
    IndexedMap V × σ :=
  let ((m, i), state) := m.getOrInsertWith key make state
  (m.modifyAt i change, state)

namespace Intact

variable (h : m.Intact) {value : V}

include h

theorem visit_of_get? (hget : m.get? key = some value) (make : σ → V × σ) (change : V → V)
    (state : σ) :
    (m.visit key make change state).2 = state ∧ (m.visit key make change state).1.Intact ∧
      (m.visit key make change state).1.toOrdered = m.toOrdered.insert key (change value) := by
  obtain ⟨i, hkey, -⟩ := Option.bind_eq_some_iff.1 hget
  simp only [visit, getOrInsertWith, hkey]
  exact ⟨trivial, h.modifyAt i change, h.toOrdered_modifyAt hkey hget change⟩

theorem visit_of_new (hget : m.get? key = none) (make : σ → V × σ) (change : V → V) (state : σ) :
    (m.visit key make change state).2 = (make state).2 ∧
      (m.visit key make change state).1.Intact ∧
      (m.visit key make change state).1.toOrdered =
        (m.toOrdered.insert key (make state).1).insert key (change (make state).1) := by
  have hkey := h.index?_of_get?_eq_none hget
  have hpush := h.push hkey (make state).1
  have hplace : (m.push key (make state).1).index? key = some m.size := by
    rw [index?, IndexedMap.push, KeyIndex.find?_insert, if_pos rfl]
  have hmade : (m.push key (make state).1).get? key = some (make state).1 := by
    rw [← hpush.get?_toOrdered, h.toOrdered_push hkey, OrderedMap.get?_insert, if_pos rfl]
  simp only [visit, getOrInsertWith, hkey]
  refine ⟨trivial, hpush.modifyAt _ change, ?_⟩
  rw [hpush.toOrdered_modifyAt hplace hmade, h.toOrdered_push hkey]

theorem visit (key : String) (make : σ → V × σ) (change : V → V) (state : σ) :
    (m.visit key make change state).1.Intact ∧
      (m.visit key make change state).1.toOrdered =
        m.toOrdered.insert key (change ((m.get? key).getD (make state).1)) := by
  cases hget : m.get? key with
  | some value => exact (h.visit_of_get? hget make change state).2
  | none =>
    obtain ⟨-, hintact, hordered⟩ := h.visit_of_new hget make change state
    refine ⟨hintact, hordered.trans ?_⟩
    exact congrArg OrderedMap.mk (OrderedMap.put_put ..)

theorem getOrInsertWith_position (key : String) (make : σ → V × σ) (state : σ) :
    (m.getOrInsertWith key make state).1.2 = m.toOrdered.position key := by
  rw [getOrInsertWith]
  cases hkey : m.index? key with
  | some i => exact (h.position_of_index? hkey).symm
  | none => exact (h.position_of_new hkey).symm

end Intact

theorem ofList_intact (entries : List (String × V)) :
    (ofList entries).Intact ∧ (ofList entries).toOrdered = .ofList entries := by
  induction entries using List.reverseRecOn with
  | nil => exact ⟨.empty, rfl⟩
  | append_singleton entries e ih =>
    obtain ⟨hintact, hordered⟩ := ih
    obtain ⟨hintact', hordered', -⟩ := hintact.insert e.1 e.2
    rw [OrderedMap.ofList_append_singleton, ← hordered, ← hordered', ofList,
      List.foldl_append, List.foldl_cons, List.foldl_nil]
    exact ⟨hintact', rfl⟩

theorem at?_modifyAt (i : Nat) (change : V → V) (j : Nat) :
    (m.modifyAt i change).at? j =
      if i = j then (m.at? j).map fun e => (e.1, change e.2) else m.at? j := by
  rw [at?, at?, modifyAt, List.getElem?_modify]
  by_cases h : i = j
  · simp only [if_pos h]
    cases m.keys[j]? <;> cases m.values[j]? <;> rfl
  · simp only [if_neg h]
    rw [id_map']

theorem Intact.insert_of_index? (h : m.Intact) (hkey : m.index? key = some i) (value : V) :
    (m.insert key value).2 = i ∧ (∀ k, (m.insert key value).1.index? k = m.index? k) ∧
      ∀ j, (m.insert key value).1.at? j = if i = j then some (key, value) else m.at? j := by
  simp only [IndexedMap.insert, hkey]
  refine ⟨trivial, fun k => rfl, fun j => ?_⟩
  obtain ⟨old, hold⟩ := h.index?_eq_some_iff.1 hkey
  rw [at?_modifyAt]
  by_cases hj : i = j
  · subst hj
    rw [if_pos rfl, if_pos rfl, hold, Option.map_some]
  · rw [if_neg hj, if_neg hj]

theorem Intact.beq_eq [BEq V] (h : m.Intact) (h' : m'.Intact) :
    (m == m') = (m.entries == m'.entries) := by
  rw [entries, entries, OrderedMap.beq_zip h.length_eq h'.length_eq]
  change (m.index == m'.index && m.keys == m'.keys && m.values == m'.values) = _
  cases hkeys : m.keys == m'.keys with
  | false => rw [Bool.and_false]
  | true =>
    -- equal keys leave the index no choice
    have hindex : m.index = m'.index := h.indexes.eq (eq_of_beq hkeys ▸ h'.indexes)
    rw [hindex, beq_self_eq_true, Bool.true_and]

structure Tells (m : IndexedMap V) (log : List (String × V)) : Prop where
  nodup : m.keys.Nodup
  keys_eq : m.keys = (log.map (·.1)).eraseDups
  entries_keys : m.entries.map (·.1) = m.keys
  entries_values : m.entries.map (·.2) = m.values
  keys_length : m.keys.length = m.size
  values_length : m.values.length = m.size
  index_size : m.index.size = m.size
  index?_iff : ∀ key i, m.index? key = some i ↔ ∃ value, m.at? i = some (key, value)
  get?_eq : ∀ key, m.get? key = OrderedMap.written? log key

inductive Call (σ V : Type)
  | collect : (entries : List (String × V)) → Call σ V
  | insert : (key : String) → (value : V) → Call σ V
  | visit : (key : String) → (make : σ → V × σ) → (change : V → V) → Call σ V

namespace Call

def run : IndexedMap V × σ → Call σ V → IndexedMap V × σ
  | (_, state), .collect entries => (.ofList entries, state)
  | (m, state), .insert key value => ((m.insert key value).1, state)
  | (m, state), .visit key make change => m.visit key make change state

def note : List (String × V) × σ → Call σ V → List (String × V) × σ
  | (_, state), .collect entries => (entries, state)
  | (log, state), .insert key value => (log ++ [(key, value)], state)
  | (log, state), .visit key make change =>
    match OrderedMap.written? log key with
    | some value => (log ++ [(key, change value)], state)
    | none =>
      let (value, state) := make state
      (log ++ [(key, value), (key, change value)], state)

def runAll (calls : List (Call σ V)) (state : σ) : IndexedMap V × σ := calls.foldl run ({}, state)

def noteAll (calls : List (Call σ V)) (state : σ) : List (String × V) × σ :=
  calls.foldl note ([], state)

/-- A map is what the log makes of an ordered map, and the state has been changed by the same
makers. -/
structure Noted (s : IndexedMap V × σ) (log : List (String × V) × σ) : Prop where
  intact : s.1.Intact
  toOrdered_eq : s.1.toOrdered = .ofList log.1
  state_eq : s.2 = log.2

namespace Noted

variable {s : IndexedMap V × σ} {log : List (String × V) × σ}

theorem get?_eq (h : Noted s log) (key : String) :
    s.1.get? key = OrderedMap.written? log.1 key := by
  rw [← h.intact.get?_toOrdered, h.toOrdered_eq, OrderedMap.get?_ofList]

theorem step (h : Noted s log) (call : Call σ V) : Noted (call.run s) (call.note log) := by
  obtain ⟨m, state⟩ := s
  obtain ⟨log, state'⟩ := log
  obtain rfl : state = state' := h.state_eq
  cases call with
  | collect entries =>
    obtain ⟨hintact, hordered⟩ := ofList_intact entries
    exact ⟨hintact, hordered, rfl⟩
  | insert key value =>
    obtain ⟨hintact, hordered, -⟩ := h.intact.insert key value
    refine ⟨hintact, ?_, rfl⟩
    rw [note, OrderedMap.ofList_append_singleton, ← h.toOrdered_eq]
    exact hordered
  | visit key make change =>
    have hget : m.get? key = OrderedMap.written? log key := h.get?_eq key
    cases hwritten : OrderedMap.written? log key with
    | some value =>
      obtain ⟨hstate, hintact, hordered⟩ :=
        h.intact.visit_of_get? (hget.trans hwritten) make change state
      simp only [note, hwritten]
      refine ⟨hintact, ?_, hstate⟩
      rw [OrderedMap.ofList_append_singleton, ← h.toOrdered_eq]
      exact hordered
    | none =>
      obtain ⟨hstate, hintact, hordered⟩ :=
        h.intact.visit_of_new (hget.trans hwritten) make change state
      simp only [note, hwritten]
      refine ⟨hintact, ?_, hstate⟩
      rw [List.append_cons, OrderedMap.ofList_append_singleton, OrderedMap.ofList_append_singleton,
        ← h.toOrdered_eq]
      exact hordered

end Noted

theorem noted (calls : List (Call σ V)) (state : σ) :
    Noted (runAll calls state) (noteAll calls state) := by
  induction calls using List.reverseRecOn with
  | nil => exact ⟨.empty, rfl, rfl⟩
  | append_singleton calls call ih =>
    rw [runAll, noteAll, List.foldl_append, List.foldl_append]
    exact ih.step call

theorem Noted.tells {s : IndexedMap V × σ} {log : List (String × V) × σ} (h : Noted s log) :
    s.1.Tells log.1 where
  nodup := h.intact.indexes.nodup
  keys_eq := by rw [← h.intact.keys_toOrdered, h.toOrdered_eq, OrderedMap.keys_ofList]
  entries_keys := h.intact.keys_toOrdered
  entries_values := h.intact.values_toOrdered
  keys_length := h.intact.length_eq
  values_length := rfl
  index_size := h.intact.indexes.size_eq.trans h.intact.length_eq
  index?_iff _ _ := h.intact.index?_eq_some_iff
  get?_eq := h.get?_eq

/-- After any calls a map tells what has been written, and no maker has been called but for a key
that was missing. The last part is about two maps with a history each. -/
theorem tells_runAll {σ' : Type} [BEq V] (calls : List (Call σ V)) (state : σ)
    (calls' : List (Call σ' V)) (state' : σ') :
    let m := (runAll calls state).1
    let m' := (runAll calls' state').1
    m.Tells (noteAll calls state).1 ∧ (runAll calls state).2 = (noteAll calls state).2 ∧
      (∀ key i, m.index? key = some i → ∀ value,
        (m.insert key value).2 = i ∧ (∀ k, (m.insert key value).1.index? k = m.index? k) ∧
        ∀ j, (m.insert key value).1.at? j = if i = j then some (key, value) else m.at? j) ∧
      (∀ key i, m.index? key = some i → ∀ (make : σ → V × σ) s,
        m.getOrInsertWith key make s = ((m, i), s)) ∧
      (m == m') = (m.entries == m'.entries) := by
  have h := noted calls state
  have h' := noted calls' state'
  refine ⟨h.tells, h.state_eq, fun key i hkey value => h.intact.insert_of_index? hkey value,
    fun key i hkey make s => ?_, h.intact.beq_eq h'.intact⟩
  rw [getOrInsertWith, hkey]

end Call

end IndexedMap

end InlineAssert
