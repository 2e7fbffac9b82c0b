namespace InlineAssert

/-- No key comes twice in a map made by the operations below. -/
structure OrderedMap (V : Type) where
  entries : List (String × V)
  deriving DecidableEq

namespace OrderedMap

variable {V : Type}

def empty : OrderedMap V := ⟨[]⟩

def size (m : OrderedMap V) : Nat := m.entries.length

def isEmpty (m : OrderedMap V) : Bool := m.entries.isEmpty

def keys (m : OrderedMap V) : List String := m.entries.map (·.1)

def values (m : OrderedMap V) : List V := m.entries.map (·.2)

def index? (m : OrderedMap V) (key : String) : Option Nat := m.keys.idxOf? key

def position (m : OrderedMap V) (key : String) : Nat := (m.index? key).getD m.size

def at? (m : OrderedMap V) (i : Nat) : Option (String × V) := m.entries[i]?

def get? (m : OrderedMap V) (key : String) : Option V := m.entries.lookup key

def contains (m : OrderedMap V) (key : String) : Bool := (m.index? key).isSome

def put (key : String) (value : V) : List (String × V) → List (String × V)
  | [] => [(key, value)]
  | (k, v) :: es => if k = key then (key, value) :: es else (k, v) :: put key value es

def insert (m : OrderedMap V) (key : String) (value : V) : OrderedMap V :=
  ⟨put key value m.entries⟩

def update (m : OrderedMap V) (key : String) (make : Unit → V) (f : V → V) : OrderedMap V :=
  match m.get? key with
  | some value => m.insert key (f value)
  | none => m.insert key (f (make ()))

def ofList (entries : List (String × V)) : OrderedMap V :=
  entries.foldl (fun m e => m.insert e.1 e.2) empty

theorem lookup_cons (k j : String) (v : V) (es : List (String × V)) :
    ((j, v) :: es).lookup k = if k = j then some v else es.lookup k := by
  rw [List.lookup_cons]
  by_cases h : k = j
  · simp [h]
  · rw [beq_false_of_ne h]
    simp [h]

theorem lookup_put (key k : String) (value : V) (es : List (String × V)) :
    (put key value es).lookup k = if k = key then some value else es.lookup k := by
  induction es with
  | nil => simp [put, lookup_cons]
  | cons e es ih =>
    obtain ⟨j, v⟩ := e
    by_cases hj : j = key
    · subst hj
      by_cases h : k = j <;> simp [put, lookup_cons, h]
    · by_cases h : k = j
      · subst h; simp [put, hj]
      · simp [put, hj, lookup_cons, h, ih]

theorem map_fst_put (key : String) (value : V) (es : List (String × V)) :
    (put key value es).map (·.1) =
      if key ∈ es.map (·.1) then es.map (·.1) else es.map (·.1) ++ [key] := by
  induction es with
  | nil => rfl
  | cons e es ih =>
    obtain ⟨k, v⟩ := e
    by_cases h : k = key
    · simp [put, h]
    · have h' : key ≠ k := fun e => h e.symm
      simp only [put, h, if_false, List.map_cons, ih, List.mem_cons, h', false_or]
      split <;> rfl

@[simp] theorem get?_insert (m : OrderedMap V) (key k : String) (value : V) :
    (m.insert key value).get? k = if k = key then some value else m.get? k :=
  lookup_put key k value m.entries

@[simp] theorem keys_empty : (empty : OrderedMap V).keys = [] := rfl

theorem keys_insert (m : OrderedMap V) (key : String) (value : V) :
    (m.insert key value).keys = if key ∈ m.keys then m.keys else m.keys ++ [key] :=
  map_fst_put key value m.entries

theorem contains_iff_mem_keys (m : OrderedMap V) (key : String) :
    m.contains key ↔ key ∈ m.keys := by
  simp [contains, index?, List.isSome_idxOf?]

end OrderedMap

end InlineAssert
