import Mathlib.Algebra.Order.Ring.Nat

namespace InlineAssert.Decimal

def value : List Char → Nat
  | [] => 0
  | c :: cs => (c.toNat - '0'.toNat) * 10 ^ cs.length + value cs

def IsNumeral (text : String) : Prop := text ≠ "" ∧ ∀ c ∈ text.toList, '0' ≤ c ∧ c ≤ '9'

theorem ofDigitChars_eq_value (cs : List Char) : Nat.ofDigitChars 10 cs 0 = value cs := by
  induction cs with
  | nil => rfl
  | cons c cs ih =>
    rw [Nat.ofDigitChars_cons, Nat.ofDigitChars_eq_ofDigitChars_zero, ih, value, Nat.mul_zero,
      Nat.zero_add, Nat.mul_comm]

theorem isDigit_iff {c : Char} : c.isDigit ↔ '0' ≤ c ∧ c ≤ '9' := by
  simp [Char.isDigit, Char.le_def]

theorem isNumeral_iff {text : String} :
    IsNumeral text ↔ text.toList ≠ [] ∧ ∀ c ∈ text.toList, c.isDigit := by
  simp [IsNumeral, isDigit_iff]

section Written

variable {m n : Nat} {u v : List Char}

theorem isDigit_of_mem_toString {c : Char} (h : c ∈ (toString n).toList) : c.isDigit := by
  rw [Nat.toString_eq_ofList_toDigits, String.toList_ofList] at h
  exact Nat.isDigit_of_mem_toDigits (by decide) (by decide) h

theorem toList_toString_ne_nil (n : Nat) : (toString n).toList ≠ [] := by
  rw [Nat.toString_eq_ofList_toDigits, String.toList_ofList]
  exact Nat.toDigits_ne_nil

theorem isNumeral_toString (n : Nat) : IsNumeral (toString n) :=
  isNumeral_iff.2 ⟨toList_toString_ne_nil n, fun _ => isDigit_of_mem_toString⟩

theorem value_toString (n : Nat) : value (toString n).toList = n := by
  rw [Nat.toString_eq_ofList_toDigits, String.toList_ofList, ← ofDigitChars_eq_value,
    Nat.ofDigitChars_ten_toDigits]

theorem takeWhile_toString (hu : ∀ c ∈ u.head?, c = '-') :
    ((toString n).toList ++ u).takeWhile Char.isDigit = (toString n).toList := by
  rw [List.takeWhile_append_of_pos fun _ => isDigit_of_mem_toString]
  cases u with
  | nil => simp
  | cons c u =>
    obtain rfl := hu c rfl
    simp

theorem nat_append_inj (hu : ∀ c ∈ u.head?, c = '-') (hv : ∀ c ∈ v.head?, c = '-')
    (h : (toString m).toList ++ u = (toString n).toList ++ v) : m = n ∧ u = v := by
  have hdigits : (toString m).toList = (toString n).toList := by
    rw [← takeWhile_toString hu, h, takeWhile_toString hv]
  refine ⟨?_, List.append_cancel_left (hdigits ▸ h)⟩
  calc
    m = value (toString m).toList := (value_toString m).symm
    _ = value (toString n).toList := by rw [hdigits]
    _ = n := value_toString n

theorem nat_append_ne (u v : List Char) : (toString n).toList ++ u ≠ '-' :: v := by
  intro h
  obtain ⟨c, cs, hdigits⟩ := List.exists_cons_of_ne_nil (toList_toString_ne_nil n)
  have hc : c.isDigit := isDigit_of_mem_toString (hdigits ▸ List.mem_cons_self)
  rw [hdigits] at h
  obtain ⟨rfl, -⟩ := List.cons.inj h
  exact absurd hc (by decide)

theorem toList_negSucc (n : Nat) :
    (toString (Int.negSucc n)).toList = '-' :: (toString (n + 1)).toList := by
  simp [Int.toString_eq_repr, Int.repr]

/-- An integer is read off a text from the front, though the mark behind it is also the sign. -/
theorem int_append_inj {x y : Int} (hu : ∀ c ∈ u.head?, c = '-') (hv : ∀ c ∈ v.head?, c = '-')
    (h : (toString x).toList ++ u = (toString y).toList ++ v) : x = y ∧ u = v := by
  cases x with
  | ofNat m =>
    cases y with
    | ofNat n =>
      obtain ⟨rfl, rfl⟩ := nat_append_inj hu hv h
      exact ⟨rfl, rfl⟩
    | negSucc n =>
      rw [toList_negSucc] at h
      exact absurd h (nat_append_ne _ _)
  | negSucc m =>
    rw [toList_negSucc] at h
    cases y with
    | ofNat n => exact absurd h.symm (nat_append_ne _ _)
    | negSucc n =>
      rw [toList_negSucc] at h
      obtain ⟨hmn, rfl⟩ := nat_append_inj hu hv (List.cons.inj h).2
      obtain rfl := Nat.succ.inj hmn
      exact ⟨rfl, rfl⟩

end Written

end InlineAssert.Decimal
