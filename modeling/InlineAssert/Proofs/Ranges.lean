import InlineAssert.Proofs.Decimal
import InlineAssert.Range
import Mathlib.Algebra.Order.Ring.Int
import Mathlib.Data.Set.Insert

namespace InlineAssert.Range

open Decimal

structure IsBound (text : String) : Prop where
  numeral : IsNumeral text
  fits : value text.toList ≤ 2 ^ 63 - 1

inductive BoundFault (text : String) : RangeError → Prop
  | invalid : ¬ IsNumeral text → BoundFault text (.invalidBound text)
  | overflow : IsNumeral text → 2 ^ 63 - 1 < value text.toList → BoundFault text (.overflow text)

inductive Denotes : String → Set Int → Prop
  | exact : IsBound text → Denotes text {(value text.toList : Int)}
  | between : IsBound low → IsBound high → value low.toList ≤ value high.toList →
      Denotes (low ++ "-" ++ high) {v | value low.toList ≤ v ∧ v ≤ value high.toList}

/-- The first fault of a text, whose bounds are on the two sides of its first `-`. -/
inductive Fault : String → RangeError → Prop
  | exact : '-' ∉ text.toList → BoundFault text error → Fault text error
  | low : '-' ∉ low.toList → BoundFault low error → Fault (low ++ "-" ++ high) error
  | high : IsBound low → BoundFault high error → Fault (low ++ "-" ++ high) error
  | inverted : IsBound low → IsBound high → value high.toList < value low.toList →
      Fault (low ++ "-" ++ high) (.inverted (value low.toList) (value high.toList))

section Bounds

variable {text : String} {error : RangeError}

theorem IsBound.hyphen_notMem (h : IsBound text) : '-' ∉ text.toList := fun hmem =>
  absurd (h.numeral.2 '-' hmem).1 (by decide)

theorem isBound_or_fault (text : String) : IsBound text ∨ ∃ error, BoundFault text error := by
  by_cases hnumeral : IsNumeral text
  · by_cases hfits : value text.toList ≤ 2 ^ 63 - 1
    · exact .inl ⟨hnumeral, hfits⟩
    · exact .inr ⟨_, .overflow hnumeral (Nat.lt_of_not_le hfits)⟩
  · exact .inr ⟨_, .invalid hnumeral⟩

theorem isNumeral_iff_test :
    IsNumeral text ↔ ¬ (text.toList.isEmpty || !text.toList.all Char.isDigit) := by
  simp [isNumeral_iff]

theorem IsBound.readBound_eq (h : IsBound text) :
    readBound text.toList = .ok (value text.toList) := by
  have hfits : Nat.ofDigitChars 10 text.toList 0 ≤ limit := by
    rw [ofDigitChars_eq_value]
    exact h.fits
  rw [readBound, if_neg (isNumeral_iff_test.1 h.numeral), if_pos hfits, ofDigitChars_eq_value]

theorem BoundFault.readBound_eq (h : BoundFault text error) :
    readBound text.toList = .error error := by
  cases h with
  | invalid hnumeral =>
    rw [readBound, if_pos (not_not.1 (isNumeral_iff_test.not.1 hnumeral)), String.ofList_toList]
  | overflow hnumeral hlimit =>
    have hfits : ¬ Nat.ofDigitChars 10 text.toList 0 ≤ limit := by
      rw [ofDigitChars_eq_value]
      exact Nat.not_le_of_lt hlimit
    rw [readBound, if_neg (isNumeral_iff_test.1 hnumeral), if_neg hfits, String.ofList_toList]

end Bounds

section Sides

variable {text low high : String}

theorem read_of_hyphen_notMem (h : '-' ∉ text.toList) :
    read text = (readBound text.toList).map exact := by
  have hsplit : Text.splitOnce? '-' text.toList = none := by
    rw [Option.eq_none_iff_forall_ne_some]
    rintro ⟨a, b⟩ hab
    exact h ((Text.splitOnce?_eq_some.1 hab).1 ▸ by simp)
  rw [read, hsplit]
  rfl

theorem read_append (h : '-' ∉ low.toList) (high : String) :
    read (low ++ "-" ++ high) =
      (do between (← readBound low.toList) (← readBound high.toList)) := by
  have hsplit : Text.splitOnce? '-' (low ++ "-" ++ high).toList =
      some (low.toList, high.toList) :=
    Text.splitOnce?_eq_some.2 ⟨by simp, h⟩
  rw [read, hsplit]

theorem exists_sides (h : '-' ∈ text.toList) :
    ∃ low high, text = low ++ "-" ++ high ∧ '-' ∉ low.toList := by
  obtain ⟨a, b, htext, ha⟩ := List.eq_append_cons_of_mem h
  refine ⟨.ofList a, .ofList b, ?_, by simpa using ha⟩
  rw [← String.toList_inj, htext]
  simp

theorem IsBound.read_eq (h : IsBound text) : read text = .ok (Range.exact (value text.toList)) := by
  rw [read_of_hyphen_notMem h.hyphen_notMem, h.readBound_eq]
  rfl

theorem IsBound.read_append_eq (hlow : IsBound low) (hhigh : IsBound high) :
    read (low ++ "-" ++ high) = between (value low.toList) (value high.toList) := by
  rw [read_append hlow.hyphen_notMem, hlow.readBound_eq, hhigh.readBound_eq]
  rfl

theorem between_eq_ok {low high : Int} (h : low ≤ high) : between low high = .ok ⟨low, high, h⟩ :=
  dif_pos h

end Sides

variable {text : String}

theorem exists_denotes_or_fault (text : String) :
    (∃ values, Denotes text values) ∨ ∃ error, Fault text error := by
  by_cases hmem : '-' ∈ text.toList
  · obtain ⟨low, high, rfl, hlow⟩ := exists_sides hmem
    rcases isBound_or_fault low with hl | ⟨error, hl⟩
    · rcases isBound_or_fault high with hh | ⟨error, hh⟩
      · by_cases hle : value low.toList ≤ value high.toList
        · exact .inl ⟨_, .between hl hh hle⟩
        · exact .inr ⟨_, .inverted hl hh (Nat.lt_of_not_le hle)⟩
      · exact .inr ⟨_, .high hl hh⟩
    · exact .inr ⟨_, .low hlow hl⟩
  · rcases isBound_or_fault text with h | ⟨error, h⟩
    · exact .inl ⟨_, .exact h⟩
    · exact .inr ⟨_, .exact hmem h⟩

theorem Fault.read_eq {error : RangeError} (h : Fault text error) : read text = .error error := by
  cases h with
  | exact hmem hfault =>
    rw [read_of_hyphen_notMem hmem, hfault.readBound_eq]
    rfl
  | low hmem hfault =>
    rw [read_append hmem, hfault.readBound_eq]
    rfl
  | high hlow hfault =>
    rw [read_append hlow.hyphen_notMem, hlow.readBound_eq, hfault.readBound_eq]
    rfl
  | inverted hlow hhigh hlt =>
    rw [hlow.read_append_eq hhigh]
    exact dif_neg (by omega)

theorem Denotes.exists_read {values : Set Int} (h : Denotes text values) :
    ∃ r, read text = .ok r ∧ ∀ v, r.contains v ↔ v ∈ values := by
  cases h with
  | exact hbound =>
    refine ⟨_, hbound.read_eq, fun v => ?_⟩
    simp only [contains_iff, Range.exact, Set.mem_singleton_iff]
    omega
  | between hlow hhigh hle =>
    exact ⟨_, (hlow.read_append_eq hhigh).trans (between_eq_ok (by omega)), contains_iff _⟩

theorem exists_denotes_of_read {r : Range} (h : read text = .ok r) :
    ∃ values, Denotes text values ∧ ∀ v, r.contains v ↔ v ∈ values := by
  rcases exists_denotes_or_fault text with ⟨values, hvalues⟩ | ⟨error, hfault⟩
  · obtain ⟨r', hr', hcontains⟩ := hvalues.exists_read
    cases h.symm.trans hr'
    exact ⟨values, hvalues, hcontains⟩
  · cases h.symm.trans hfault.read_eq

theorem fault_of_read {error : RangeError} (h : read text = .error error) : Fault text error := by
  rcases exists_denotes_or_fault text with ⟨values, hvalues⟩ | ⟨error', hfault⟩
  · obtain ⟨r, hr, -⟩ := hvalues.exists_read
    cases h.symm.trans hr
  · cases h.symm.trans hfault.read_eq
    exact hfault

/-- A text is read exactly if it denotes some values, which are then those that the range contains.
Every other text has a fault, and that is reported. -/
theorem read_eq_ok_iff_denotes (text : String) :
    ((∃ r, read text = .ok r) ↔ ∃ values, Denotes text values) ∧
      (∀ r, read text = .ok r →
        r.min ≤ r.max ∧ ∀ values, Denotes text values → ∀ v, r.contains v ↔ v ∈ values) ∧
      ∀ error, read text = .error error ↔ Fault text error := by
  refine ⟨⟨fun ⟨r, hr⟩ => ?_, fun ⟨values, hvalues⟩ => ?_⟩,
    fun r hr => ⟨r.min_le_max, fun values hvalues => ?_⟩, fun _ => ⟨fault_of_read, Fault.read_eq⟩⟩
  · obtain ⟨values, hvalues, -⟩ := exists_denotes_of_read hr
    exact ⟨values, hvalues⟩
  · obtain ⟨r, hr, -⟩ := hvalues.exists_read
    exact ⟨r, hr⟩
  · obtain ⟨r', hr', hcontains⟩ := hvalues.exists_read
    cases hr.symm.trans hr'
    exact hcontains

example : read "007-9" = .ok ⟨7, 9, by decide⟩ ∧ read "1-2-x" = .error (.invalidBound "2-x") := by
  constructor <;> rfl

section Printed

theorem Denotes.bounds {values : Set Int} (h : Denotes text values) {v : Int} (hv : v ∈ values) :
    0 ≤ v ∧ v ≤ 2 ^ 63 - 1 := by
  cases h with
  | exact hbound =>
    have := hbound.fits
    rw [Set.mem_singleton_iff] at hv
    omega
  | between hlow hhigh =>
    have := hhigh.fits
    obtain ⟨hmin, hmax⟩ := hv
    omega

theorem bounds_of_read {r : Range} (h : read text = .ok r) : 0 ≤ r.min ∧ r.max ≤ 2 ^ 63 - 1 := by
  obtain ⟨values, hvalues, hcontains⟩ := exists_denotes_of_read h
  have hmin : r.contains r.min := (r.contains_iff _).2 ⟨Int.le_refl _, r.min_le_max⟩
  have hmax : r.contains r.max := (r.contains_iff _).2 ⟨r.min_le_max, Int.le_refl _⟩
  exact ⟨(hvalues.bounds ((hcontains _).1 hmin)).1, (hvalues.bounds ((hcontains _).1 hmax)).2⟩

theorem isBound_toString {n : Nat} (h : n ≤ 2 ^ 63 - 1) : IsBound (toString n) :=
  ⟨isNumeral_toString n, by rwa [value_toString]⟩

theorem read_print {r : Range} (hmin : 0 ≤ r.min) (hmax : r.max ≤ 2 ^ 63 - 1) :
    read r.print = .ok r := by
  obtain ⟨low, high, hle⟩ := r
  obtain ⟨m, rfl⟩ := Int.eq_ofNat_of_zero_le hmin
  obtain ⟨n, rfl⟩ := Int.eq_ofNat_of_zero_le (Int.le_trans hmin hle)
  have hn : n ≤ 2 ^ 63 - 1 := by
    have : (n : Int) ≤ 2 ^ 63 - 1 := hmax
    omega
  have hm : IsBound (toString m) := isBound_toString (by omega)
  by_cases hexact : (m : Int) = n
  · obtain rfl := Int.ofNat.inj hexact
    have hprint : print ⟨m, m, hle⟩ = toString m := if_pos (decide_eq_true rfl)
    rw [hprint, hm.read_eq, value_toString]
    rfl
  · have hprint : print ⟨m, n, hle⟩ = toString m ++ "-" ++ toString n :=
      if_neg (by simpa [isExact] using hexact)
    rw [hprint, hm.read_append_eq (isBound_toString hn), value_toString, value_toString,
      between_eq_ok hle]

def behindMin (r : Range) : List Char :=
  if r.isExact then [] else '-' :: (toString r.max).toList

theorem toList_print (r : Range) : r.print.toList = (toString r.min).toList ++ r.behindMin := by
  by_cases h : r.isExact <;> simp [print, behindMin, h]

theorem head?_behindMin (r : Range) : ∀ c ∈ r.behindMin.head?, c = '-' := by
  by_cases h : r.isExact <;> simp [behindMin, h]

theorem print_injective : Function.Injective print := by
  intro r s h
  have hlist : (toString r.min).toList ++ r.behindMin = (toString s.min).toList ++ s.behindMin := by
    rw [← toList_print, h, toList_print]
  obtain ⟨hmin, hrest⟩ := int_append_inj r.head?_behindMin s.head?_behindMin hlist
  have hmax : r.max = s.max := by
    by_cases hr : r.min = r.max
    · by_cases hs : s.min = s.max
      · rw [← hr, hmin, hs]
      · simp [behindMin, isExact, hr, hs] at hrest
    · by_cases hs : s.min = s.max
      · simp [behindMin, isExact, hr, hs] at hrest
      · have htext : (toString r.max).toList ++ [] = (toString s.max).toList ++ [] := by
          simpa [behindMin, isExact, hr, hs] using hrest
        exact (int_append_inj (by simp) (by simp) htext).1
  cases r
  cases s
  simp_all

/-- The ranges that have no negative bound and fit in 64 bits, and no others, are read back as they
are printed. They are all that is ever read, and no two ranges at all are printed alike. -/
theorem read_print_eq_ok_iff (r : Range) :
    (read r.print = .ok r ↔ 0 ≤ r.min ∧ r.max ≤ 2 ^ 63 - 1) ∧
      (∀ text, read text = .ok r → read r.print = .ok r) ∧
      ∀ s, s.print = r.print → s = r := by
  refine ⟨⟨bounds_of_read, fun h => read_print h.1 h.2⟩, fun text h => ?_,
    fun s h => print_injective h⟩
  obtain ⟨hmin, hmax⟩ := bounds_of_read h
  exact read_print hmin hmax

end Printed

end InlineAssert.Range
