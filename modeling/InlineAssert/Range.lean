import InlineAssert.Text

namespace InlineAssert

structure Range where
  min : Int
  max : Int
  min_le_max : min ≤ max := by omega
  deriving DecidableEq

inductive RangeError : Type
  | invalidBound : String → RangeError
  | overflow : String → RangeError
  | inverted : Int → Int → RangeError
  deriving DecidableEq

def RangeError.message : RangeError → String
  | .invalidBound text => "invalid range bound `" ++ text ++ "`: expected a non-negative integer"
  | .overflow text => "range bound `" ++ text ++ "` does not fit in a 64-bit integer"
  | .inverted min max => "range minimum " ++ toString min ++ " exceeds maximum " ++ toString max

namespace Range

def limit : Nat := 0x7FFFFFFFFFFFFFFF

def exact (value : Int) : Range where
  min := value
  max := value

def between (min max : Int) : Except RangeError Range :=
  if h : min ≤ max then .ok { min, max, min_le_max := h } else .error (.inverted min max)

def isExact (r : Range) : Bool := r.min = r.max

def contains (r : Range) (value : Int) : Bool := r.min ≤ value && value ≤ r.max

def readBound (cs : List Char) : Except RangeError Int :=
  if cs.isEmpty || !cs.all Char.isDigit then .error (.invalidBound (String.ofList cs))
  else if Nat.ofDigitChars 10 cs 0 ≤ limit then .ok (Nat.ofDigitChars 10 cs 0)
  else .error (.overflow (String.ofList cs))

def read (text : String) : Except RangeError Range :=
  match Text.splitOnce? '-' text.toList with
  | none => do return exact (← readBound text.toList)
  | some (min, max) => do between (← readBound min) (← readBound max)

def print (r : Range) : String :=
  if r.isExact then toString r.min else toString r.min ++ "-" ++ toString r.max

theorem contains_iff (r : Range) (v : Int) : r.contains v ↔ r.min ≤ v ∧ v ≤ r.max := by
  simp [contains]

end Range

end InlineAssert
