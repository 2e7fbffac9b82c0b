import Std.Data.ExtHashMap

namespace InlineAssert

structure KeyIndex where
  positions : Std.ExtHashMap String Nat := ∅
  deriving DecidableEq

namespace KeyIndex

def size (index : KeyIndex) : Nat := index.positions.size

def find? (index : KeyIndex) (key : String) : Option Nat := index.positions[key]?

def insert (index : KeyIndex) (key : String) (position : Nat) : KeyIndex :=
  ⟨index.positions.insert key position⟩

variable (index : KeyIndex) (key : String) (position : Nat)

@[simp] theorem size_empty : ({} : KeyIndex).size = 0 := Std.ExtHashMap.size_empty

@[simp] theorem find?_empty : ({} : KeyIndex).find? key = none := Std.ExtHashMap.getElem?_empty

theorem find?_insert (k : String) :
    (index.insert key position).find? k = if k = key then some position else index.find? k := by
  rw [find?, insert, Std.ExtHashMap.getElem?_insert, find?]
  by_cases h : k = key
  · simp [h]
  · have h' : ¬ key = k := fun e => h e.symm
    simp [h, h']

theorem size_insert (h : index.find? key = none) :
    (index.insert key position).size = index.size + 1 := by
  have hnew : key ∉ index.positions := by
    rw [Std.ExtHashMap.mem_iff_isSome_getElem?, show index.positions[key]? = none from h]
    simp
  rw [size, insert, Std.ExtHashMap.size_insert, if_neg hnew, size]

variable {index} in
theorem ext {other : KeyIndex} (h : ∀ key, index.find? key = other.find? key) : index = other := by
  obtain ⟨positions⟩ := index
  obtain ⟨positions'⟩ := other
  rw [mk.injEq]
  exact Std.ExtHashMap.ext_getElem? h

end KeyIndex

end InlineAssert
