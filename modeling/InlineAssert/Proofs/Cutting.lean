import InlineAssert.Proofs.Remainder
import Mathlib.Data.List.TakeWhile

namespace InlineAssert.Pattern

def Ending (e : List Char) : Prop := ∀ c ∈ e, c ∈ ['$', '.', '*', '\\']

/-- What is left of a text and of the text with an ending: the ending is still there, unless it was
skipped with the rest of the text. -/
def Held (e u v : List Char) : Prop := v = u ++ e ∨ u = [] ∧ v = []

variable {e u v w : List Char} {c : Char}

theorem Ending.not_mem (h : Ending e) (hc : c ∉ ['$', '.', '*', '\\']) : c ∉ e :=
  fun hmem => hc (h c hmem)

theorem Ending.of_mem {p : Char → Prop} (h : Ending e) (hp : p '$' ∧ p '.' ∧ p '*' ∧ p '\\')
    (hc : c ∈ e) : p c := by
  have hmem := h c hc
  simp only [List.mem_cons, List.not_mem_nil, or_false] at hmem
  rcases hmem with rfl | rfl | rfl | rfl
  · exact hp.1
  · exact hp.2.1
  · exact hp.2.2.1
  · exact hp.2.2.2

theorem Ending.of_suffix (h : Ending e) (hu : u <:+ e) : Ending u := fun c hc => h c (hu.mem hc)

theorem Ending.tail (h : Ending (c :: e)) : Ending e := h.of_suffix (List.suffix_cons c e)

theorem ending_nil : Ending [] := List.forall_mem_nil _

theorem ending_backslash : Ending ['\\'] := by simp [Ending]

namespace Held

theorem kept : Held e u (u ++ e) := .inl rfl

theorem lost : Held e [] [] := .inr ⟨rfl, rfl⟩

theorem of_cons (h : Held e u (c :: v)) (hc : c ∉ e) : ∃ u', u = c :: u' ∧ v = u' ++ e := by
  rcases h with h | ⟨-, h⟩
  · cases u with
    | nil => exact absurd (h ▸ List.mem_cons_self : c ∈ [] ++ e) hc
    | cons d u =>
      obtain ⟨rfl, rfl⟩ := List.cons.inj h
      exact ⟨u, rfl, rfl⟩
  · cases h

theorem of_cons_eq (h : c :: v = u ++ e) (hc : c ∉ e) : ∃ u', u = c :: u' ∧ v = u' ++ e :=
  of_cons (.inl h) hc

theorem of_mem (h : Held e u v) (hc : c ∉ e) (hv : c ∈ v) : v = u ++ e ∧ c ∈ u := by
  rcases h with rfl | ⟨-, rfl⟩
  · exact ⟨rfl, (List.mem_append.1 hv).resolve_right hc⟩
  · cases hv

theorem eq_nil (h : Held e u []) : u = [] := by
  rcases h with h | ⟨h, -⟩
  · exact (List.append_eq_nil_iff.1 h.symm).1
  · exact h

theorem eq_nil_or_cons (h : Held e u (c :: v)) : u = [] ∨ ∃ u', u = c :: u' ∧ v = u' ++ e := by
  cases u with
  | nil => exact .inl rfl
  | cons d u =>
    rcases h with h | ⟨h, -⟩
    · obtain ⟨rfl, rfl⟩ := List.cons.inj h
      exact .inr ⟨u, rfl, rfl⟩
    · cases h

theorem mem_of_nil (h : Held e [] (c :: v)) : c ∈ e := by
  rcases h with h | ⟨-, h⟩
  · rw [List.nil_append] at h
    exact h ▸ List.mem_cons_self
  · cases h

theorem ne_cons (h : Held e u v) (hv : ∀ more, v ≠ c :: more) : ∀ more, u ≠ c :: more := by
  rintro more rfl
  rcases h with rfl | ⟨h, -⟩
  · exact hv (more ++ e) rfl
  · cases h

end Held

theorem skipSpace_ending (he : Ending e) : skipSpace false e = e ∧ skipSpace true e = [] := by
  constructor
  · cases e with
    | nil => rfl
    | cons c e =>
      have hc : Text.isBlank c = false ∧ c ≠ '#' :=
        he.of_mem (p := fun c => Text.isBlank c = false ∧ c ≠ '#') (by decide) List.mem_cons_self
      simp [skipSpace, hc]
  · induction e with
    | nil => rfl
    | cons c e ih =>
      have hc : c ≠ '\n' := he.of_mem (p := (· ≠ '\n')) (by decide) List.mem_cons_self
      simpa [skipSpace, hc] using ih he.tail

theorem Flags.skip_ending (he : Ending e) (f : Flags) : f.skip e = e := by
  rw [skip]
  split
  · exact (skipSpace_ending he).1
  · rfl

theorem skipSpace_held (he : Ending e) (comment : Bool) (cs : List Char) :
    Held e (skipSpace comment cs) (skipSpace comment (cs ++ e)) := by
  fun_induction skipSpace comment cs with
  | case1 comment =>
    cases comment with
    | true => exact .inr ⟨rfl, (skipSpace_ending he).2⟩
    | false => exact .inl (skipSpace_ending he).1
  | case2 c cs ih => exact ih
  | case3 c cs hc ih =>
    rw [List.cons_append, skipSpace, if_pos hc]
    exact ih
  | case4 cs hc ih =>
    rw [List.cons_append, skipSpace, if_neg hc, if_pos rfl]
    exact ih
  | case5 c cs hblank hcomment =>
    rw [List.cons_append, skipSpace, if_neg hblank, if_neg hcomment]
    exact .kept

theorem skip_held (he : Ending e) (f : Flags) (u : List Char) :
    Held e (f.skip u) (f.skip (u ++ e)) := by
  rw [Flags.skip, Flags.skip]
  split
  · exact skipSpace_held he false u
  · exact .kept

theorem Held.skip (h : Held e u v) (he : Ending e) (f : Flags) : Held e (f.skip u) (f.skip v) := by
  rcases h with rfl | ⟨rfl, rfl⟩
  · exact skip_held he f u
  · have hnil : f.skip [] = [] := List.suffix_nil.1 (f.skip_suffix [])
    rw [hnil]
    exact .lost

theorem Flags.exists_of_skip_backslash {f : Flags} (h : f.skip u = v ++ ['\\']) :
    ∃ u', u = u' ++ ['\\'] ∧ f.skip u' = v := by
  obtain ⟨skipped, hskipped⟩ := f.skip_suffix u
  have hu : u = skipped ++ v ++ ['\\'] := by rw [← hskipped, h, List.append_assoc]
  refine ⟨skipped ++ v, hu, ?_⟩
  have hheld := skip_held ending_backslash f (skipped ++ v)
  rw [← hu, h] at hheld
  rcases hheld with heq | ⟨-, heq⟩
  · exact (List.append_cancel_right heq).symm
  · simp at heq

theorem span_append (hc : c ∉ e) (u : List Char) :
    (u ++ e).takeWhile (· ≠ c) = u.takeWhile (· ≠ c) ∧
        (u ++ e).dropWhile (· ≠ c) = u.dropWhile (· ≠ c) ++ e ∨
      u.dropWhile (· ≠ c) = [] ∧ (u ++ e).dropWhile (· ≠ c) = [] := by
  induction u with
  | nil =>
    have hall : ∀ d ∈ e, d ≠ c := fun d hd h => hc (h ▸ hd)
    exact .inr ⟨rfl, List.dropWhile_eq_nil_iff.2 fun d hd => by simpa using hall d hd⟩
  | cons d u ih =>
    by_cases hd : d = c
    · simp [hd]
    · rcases ih with ⟨htake, hdrop⟩ | ⟨hdrop, hdrop'⟩
      · exact .inl ⟨by simpa [hd] using htake, by simpa [hd] using hdrop⟩
      · exact .inr ⟨by simpa [hd] using hdrop, by simpa [hd] using hdrop'⟩

theorem after?_append_right {lead : List Char} (h : ∀ c ∈ lead, c ∉ e) (u : List Char) :
    Text.after? lead (u ++ e) = (Text.after? lead u).map (· ++ e) := by
  induction lead generalizing u with
  | nil => simp
  | cons c lead ih =>
    obtain ⟨hc, hlead⟩ := List.forall_mem_cons.1 h
    cases u with
    | nil =>
      cases e with
      | nil => rfl
      | cons d e =>
        have hd : c ≠ d := fun h => hc (h ▸ List.mem_cons_self)
        simp [Text.after?, hd]
    | cons d u =>
      by_cases hd : c = d
      · simp [Text.after?, hd, ih hlead]
      · simp [Text.after?, hd]

namespace Token

variable {f : Flags} {t : Token}

theorem braced_eq_none (h : '\x7d' ∉ u) (comment : Bool) : braced f comment u = none := by
  fun_induction braced f comment u with
  | case1 => rfl
  | case2 c u ih => exact ih fun hmem => h (List.mem_cons_of_mem _ hmem)
  | case3 c u _ ih | case4 c u _ _ ih => exact ih fun hmem => h (List.mem_cons_of_mem _ hmem)
  | case5 => exact absurd List.mem_cons_self h
  | case6 c u _ _ _ ih =>
    rw [ih fun hmem => h (List.mem_cons_of_mem _ hmem)]
    rfl

theorem braced_append (he : '\x7d' ∉ e) {comment : Bool} {inside : List Char}
    (h : braced f comment (u ++ e) = some (inside, w)) :
    ∃ w', braced f comment u = some (inside, w') ∧ w = w' ++ e := by
  induction u generalizing comment inside with
  | nil =>
    rw [List.nil_append, braced_eq_none he] at h
    cases h
  | cons c u ih =>
    rw [List.cons_append] at h
    cases comment with
    | true => exact ih h
    | false =>
      unfold braced at h ⊢
      split_ifs at h ⊢ with hblank hcomment hclose
      · exact ih h
      · exact ih h
      · cases h
        exact ⟨u, rfl, rfl⟩
      · obtain ⟨⟨inside', w'⟩, hinside, heq⟩ := Option.map_eq_some_iff.1 h
        cases heq
        obtain ⟨w', hu, rfl⟩ := ih hinside
        exact ⟨w', by rw [hu]; rfl, rfl⟩

theorem mem_of_exactly {comment : Bool} {n : Nat} {inside : List Char}
    (h : exactly f comment n u = some (inside, w)) : inside.length = n ∧ ∀ c ∈ inside, c ∈ u := by
  fun_induction exactly f comment n u generalizing inside with
  | case1 =>
    cases h
    exact ⟨rfl, List.forall_mem_nil _⟩
  | case2 => cases h
  | case3 n c u ih => exact ⟨(ih h).1, fun d hd => List.mem_cons_of_mem c ((ih h).2 d hd)⟩
  | case4 n c u _ ih | case5 n c u _ _ ih =>
    exact ⟨(ih h).1, fun d hd => List.mem_cons_of_mem c ((ih h).2 d hd)⟩
  | case6 n c u _ _ ih =>
    obtain ⟨⟨inside', w'⟩, hinside, heq⟩ := Option.map_eq_some_iff.1 h
    cases heq
    obtain ⟨hlength, hmem⟩ := ih hinside
    exact ⟨congrArg (· + 1) hlength, List.forall_mem_cons.2
      ⟨List.mem_cons_self, fun d hd => List.mem_cons_of_mem c (hmem d hd)⟩⟩

theorem exactly_append {comment : Bool} {n : Nat} {inside : List Char}
    (h : exactly f comment n (u ++ e) = some (inside, w)) :
    (∃ w', exactly f comment n u = some (inside, w') ∧ w = w' ++ e) ∨ ∃ c ∈ inside, c ∈ e := by
  induction u generalizing comment n inside with
  | nil =>
    cases n with
    | zero =>
      rw [exactly] at h
      cases h
      exact .inl ⟨[], by rw [exactly], rfl⟩
    | succ n =>
      obtain ⟨hlength, hmem⟩ := mem_of_exactly h
      cases inside with
      | nil => cases hlength
      | cons c inside => exact .inr ⟨c, List.mem_cons_self, hmem c List.mem_cons_self⟩
  | cons c u ih =>
    rw [List.cons_append] at h
    cases n with
    | zero =>
      rw [exactly] at h
      cases h
      exact .inl ⟨c :: u, by rw [exactly], rfl⟩
    | succ n =>
      cases comment with
      | true =>
        rw [exactly] at h ⊢
        exact ih h
      | false =>
        rw [exactly] at h ⊢
        split_ifs at h ⊢ with hblank hcomment
        · exact ih h
        · exact ih h
        · obtain ⟨⟨inside', w'⟩, hinside, heq⟩ := Option.map_eq_some_iff.1 h
          cases heq
          rcases ih hinside with ⟨w', hu, rfl⟩ | ⟨d, hd, hde⟩
          · exact .inl ⟨w', by rw [hu]; rfl, rfl⟩
          · exact .inr ⟨d, List.mem_cons_of_mem c hd, hde⟩

theorem codePoint?_eq_none {digits : List Char} (hc : c ∈ digits) (h : hexDigit? c = none) :
    codePoint? digits = none := by
  have hfold (n : Nat) :
      digits.foldlM (fun n c => return 16 * n + (← hexDigit? c)) n = (none : Option Nat) := by
    induction digits generalizing n with
    | nil => cases hc
    | cons d digits ih =>
      rw [List.foldlM_cons]
      rcases List.mem_cons.1 hc with rfl | hc
      · rw [h]
        rfl
      · cases hexDigit? d with
        | none => rfl
        | some k => exact ih hc _
  rw [codePoint?, hfold]
  cases (guard (!digits.isEmpty) : Option Unit) <;> rfl

theorem hexDigit?_ending (he : Ending e) (hc : c ∈ e) : hexDigit? c = none :=
  he.of_mem (p := (hexDigit? · = none)) (by decide) hc

theorem hex_held (he : Ending e) (hv : Held e u v) {n : Nat} (h : hex f (n + 1) v = some (t, w)) :
    ∃ w', hex f (n + 1) u = some (t, w') ∧ Held e w' w := by
  have hskip := hv.skip he f
  unfold hex at h
  split at h
  · next more hmore =>
    obtain ⟨⟨inside, w'⟩, hinside, h⟩ := Option.bind_eq_some_iff.1 h
    obtain ⟨c, hcode, heq⟩ := Option.bind_eq_some_iff.1 h
    cases heq
    rw [hmore] at hskip
    obtain ⟨u', hu', rfl⟩ := hskip.of_cons (he.not_mem (by decide))
    obtain ⟨w', hw', rfl⟩ := braced_append (he.not_mem (by decide)) hinside
    refine ⟨w', ?_, .kept⟩
    simp [hex, hu', hw', hcode]
  · next hne =>
    obtain ⟨⟨inside, w'⟩, hinside, h⟩ := Option.bind_eq_some_iff.1 h
    obtain ⟨c, hcode, heq⟩ := Option.bind_eq_some_iff.1 h
    cases heq
    have hne' : ∀ more, f.skip u ≠ '\x7b' :: more := hskip.ne_cons hne
    obtain ⟨w', hw', hheld⟩ : ∃ w', exactly f false (n + 1) (f.skip u) = some (inside, w') ∧
        Held e w' w := by
      rcases hskip with hskip | ⟨-, hskip⟩
      · rw [hskip] at hinside
        rcases exactly_append hinside with ⟨w', hw', rfl⟩ | ⟨d, hd, hde⟩
        · exact ⟨w', hw', .kept⟩
        · rw [codePoint?_eq_none hd (hexDigit?_ending he hde)] at hcode
          cases hcode
      · rw [hskip, exactly] at hinside
        cases hinside
    refine ⟨w', ?_, hheld⟩
    unfold hex
    split
    · next hu => exact absurd hu (hne' _)
    · simp [hw', hcode]

theorem unicode?_ending (he : Ending e) (hc : c ∈ e) : Named.unicode? [c] = none :=
  he.of_mem (p := (Named.unicode? [·] = none)) (by decide +kernel) hc

theorem property_held (he : Ending e) (hv : Held e u v) {negated : Bool}
    (h : property f negated v = some (t, w)) :
    ∃ w', property f negated u = some (t, w') ∧ Held e w' w := by
  have hskip := hv.skip he f
  unfold property at h
  obtain ⟨⟨⟩, hunicode, h⟩ := Option.bind_eq_some_iff.1 h
  split at h
  · cases h
  · cases h
  · next more hmore =>
    obtain ⟨⟨inside, w'⟩, hinside, h⟩ := Option.bind_eq_some_iff.1 h
    rw [hmore] at hskip
    obtain ⟨u', hu', rfl⟩ := hskip.of_cons (he.not_mem (by decide))
    obtain ⟨w'', hw', rfl⟩ := braced_append (he.not_mem (by decide)) hinside
    refine ⟨w'', ?_⟩
    rcases hname : nameValue? inside with - | ⟨name, value, unequal⟩
    · simp only [hname] at h
      obtain ⟨s, hs, heq⟩ := Option.bind_eq_some_iff.1 h
      cases heq
      simp [property, hunicode, hu', hw', hname, hs, Held.kept]
    · simp only [hname] at h
      obtain ⟨s, hs, heq⟩ := Option.bind_eq_some_iff.1 h
      cases heq
      simp [property, hunicode, hu', hw', hname, hs, Held.kept]
  · next c more hback hbrace hmore =>
    obtain ⟨s, hs, heq⟩ := Option.bind_eq_some_iff.1 h
    cases heq
    rw [hmore] at hskip
    have hc : c ∉ e := fun hc => by simp [unicode?_ending he hc] at hs
    obtain ⟨w', hu', rfl⟩ := hskip.of_cons hc
    exact ⟨w', by simp [property, hunicode, hu', hs], .kept⟩

theorem counts_eq_none (he : Ending e) (hc : c ∈ e) (h : f.skip u = c :: v) :
    Reader.counts f u = none := by
  have hdigit : Text.isBlank c = false ∧ c.isDigit = false :=
    he.of_mem (p := fun c => Text.isBlank c = false ∧ c.isDigit = false) (by decide) hc
  have hcount : Reader.count f (c :: v) = none := by
    simp [Reader.count, Reader.digits, hdigit]
  rw [Reader.counts, h, hcount]
  rfl

def Blocked (f : Flags) (w : List Char) : Prop := ∃ x, w = '\x7b' :: x ∧ Reader.counts f x = none

theorem edge_held (he : Ending e) (hv : Held e u v) (h : edge f v = some (t, w)) :
    (∃ w', edge f u = some (t, w') ∧ Held e w' w) ∨ (∃ l, t = .look l) ∧ Blocked f w := by
  unfold edge at h
  split at h
  · next inside =>
    obtain ⟨u', rfl, rfl⟩ := hv.of_cons (he.not_mem (by decide))
    have hskip := skip_held he f u'
    split at h
    · cases h
    · next c more hmore =>
      rw [hmore] at hskip
      by_cases hc : c ∈ e
      · have hside : (c.isAlpha || c = '-') = false :=
          he.of_mem (p := fun c => (c.isAlpha || c = '-') = false) (by decide) hc
        simp only [hside] at h
        cases h
        exact .inr ⟨⟨_, rfl⟩, _, rfl, counts_eq_none he hc hmore⟩
      · obtain ⟨u'', hu'', rfl⟩ := hskip.of_cons hc
        refine .inl ?_
        split at h
        · next hside =>
          obtain ⟨⟨name, w'⟩, hbraced, h⟩ := Option.bind_eq_some_iff.1 h
          obtain ⟨side, hside', heq⟩ := Option.bind_eq_some_iff.1 h
          cases heq
          obtain ⟨w', hw', rfl⟩ := braced_append (he.not_mem (by decide)) hbraced
          exact ⟨w', by simp [edge, hu'', hside, hw', hside'], .kept⟩
        · next hside =>
          cases h
          exact ⟨'\x7b' :: u', by simp [edge, hu'', hside], .kept⟩
  · next hne =>
    cases h
    refine .inl ⟨u, ?_, hv⟩
    unfold edge
    split
    · next inside => exact absurd rfl (hv.ne_cons hne inside)
    · rfl

theorem escape_held (he : Ending e) (hv : Held e u v) {c : Char}
    (h : escape f (c :: v) = some (t, w)) :
    (∃ w', escape f (c :: u) = some (t, w') ∧ Held e w' w) ∨ (∃ l, t = .look l) ∧ Blocked f w := by
  rcases escape_cons f c with ⟨t', hc⟩ | ⟨n, hc⟩ | ⟨negated, hc⟩ | hc
  · rw [hc] at h ⊢
    obtain ⟨_, ht, heq⟩ := Option.map_eq_some_iff.1 h
    cases heq
    exact .inl ⟨u, by rw [ht]; rfl, hv⟩
  · rw [hc] at h ⊢
    exact .inl (hex_held he hv h)
  · rw [hc] at h ⊢
    exact .inl (property_held he hv h)
  · rw [hc] at h ⊢
    exact edge_held he hv h

end Token

namespace Reader

variable {f : Flags}

theorem lazyMark_held (he : Ending e) (hv : Held e u v) :
    (lazyMark v).1 = (lazyMark u).1 ∧ Held e (lazyMark u).2 (lazyMark v).2 := by
  unfold lazyMark
  split
  · next more =>
    obtain ⟨u', rfl, rfl⟩ := hv.of_cons (he.not_mem (by decide))
    exact ⟨rfl, .kept⟩
  · next hne =>
    split
    · exact absurd rfl (hv.ne_cons hne _)
    · exact ⟨rfl, hv⟩

theorem digits_held (he : Ending e) (hv : Held e u v) {n m : Nat} (hn : v.length ≤ n)
    (hm : u.length ≤ m) :
    (digits f n v).1 = (digits f m u).1 ∧ Held e (digits f m u).2 (digits f n v).2 := by
  -- either side has fuel for each of its characters
  induction n generalizing u v m with
  | zero =>
    obtain rfl : v = [] := List.length_eq_zero_iff.1 (Nat.le_zero.1 hn)
    obtain rfl := hv.eq_nil
    cases m <;> exact ⟨rfl, hv⟩
  | succ n ih =>
    cases v with
    | nil =>
      obtain rfl := hv.eq_nil
      cases m <;> exact ⟨rfl, hv⟩
    | cons c v =>
      have hdigit : c ∈ e → c.isDigit = false := he.of_mem (p := (·.isDigit = false)) (by decide)
      rcases hv.eq_nil_or_cons with rfl | ⟨u, rfl, rfl⟩
      · have hc : c.isDigit = false := hdigit hv.mem_of_nil
        rw [digits, if_neg (by simp [hc])]
        cases m <;> exact ⟨rfl, hv⟩
      · obtain ⟨m, rfl⟩ := Nat.exists_eq_succ_of_ne_zero (Nat.ne_zero_of_lt hm)
        rw [digits, digits]
        split
        · have hskip := skip_held he f u
          obtain ⟨hds, hrest⟩ := ih hskip
            ((f.skip_suffix (u ++ e)).length_le.trans (Nat.le_of_succ_le_succ hn))
            ((f.skip_suffix u).length_le.trans (Nat.le_of_succ_le_succ hm))
          exact ⟨congrArg (c :: ·) hds, hrest⟩
        · exact ⟨rfl, hv⟩

theorem dropWhile_held (he : Ending e) (hv : Held e u v) :
    Held e (u.dropWhile Text.isBlank) (v.dropWhile Text.isBlank) := by
  rcases hv with rfl | ⟨rfl, rfl⟩
  · have hblank (c : Char) (hc : c ∈ e) : Text.isBlank c = false :=
      he.of_mem (p := fun c => Text.isBlank c = false) (by decide) hc
    have hending : e.dropWhile Text.isBlank = e := by
      cases e with
      | nil => rfl
      | cons c e => simp [hblank c List.mem_cons_self]
    induction u with
    | nil => exact .inl hending
    | cons c u ih =>
      rw [List.cons_append, List.dropWhile_cons, List.dropWhile_cons]
      split
      · exact ih
      · exact .kept
  · exact .lost

theorem count_held (he : Ending e) (hv : Held e u v) {n : Nat} (h : count f v = some (n, w)) :
    ∃ w', count f u = some (n, w') ∧ Held e w' w := by
  have hdrop := dropWhile_held he hv
  obtain ⟨hds, hrest⟩ := digits_held (f := f) he hdrop le_rfl le_rfl
  obtain ⟨⟨⟩, hsome, h⟩ := Option.bind_eq_some_iff.1 h
  obtain ⟨⟨⟩, hlimit, heq⟩ := Option.bind_eq_some_iff.1 h
  cases heq
  refine ⟨_, ?_, dropWhile_held he hrest⟩
  unfold count
  simp only [← hds, hsome, hlimit]
  rfl

theorem after?_held (hc : c ∉ e) (h : Text.after? [c] v = some w) (hv : Held e u v) :
    ∃ w', Text.after? [c] u = some w' ∧ w = w' ++ e := by
  obtain ⟨u', rfl, rfl⟩ := (Text.eq_append_of_after? h ▸ hv : Held e u ([c] ++ w)).of_cons hc
  exact ⟨u', Text.after?_append [c] u', rfl⟩

theorem counts_held (he : Ending e) (hv : Held e u v) {min : Nat} {max : Option Nat}
    (h : counts f v = some (min, max, w)) :
    ∃ w', counts f u = some (min, max, w') ∧ Held e w' w := by
  obtain ⟨⟨n, v₁⟩, hcount, h⟩ := Option.bind_eq_some_iff.1 h
  obtain ⟨u₁, hu₁, hv₁⟩ := count_held he (hv.skip he f) hcount
  dsimp only at h
  split at h
  · cases h
    obtain ⟨w', rfl, rfl⟩ := hv₁.of_cons (he.not_mem (by decide))
    exact ⟨w', by simp [counts, hu₁], .kept⟩
  · next v₂ =>
    obtain ⟨u₂, rfl, rfl⟩ := hv₁.of_cons (he.not_mem (by decide))
    have hskip := skip_held he f u₂
    split at h
    · next v₃ hv₃ =>
      cases h
      rw [hv₃] at hskip
      obtain ⟨w', hw', rfl⟩ := hskip.of_cons (he.not_mem (by decide))
      exact ⟨w', by simp [counts, hu₁, hw'], .kept⟩
    · next hne =>
      obtain ⟨⟨m, v₃⟩, hcount', h⟩ := Option.bind_eq_some_iff.1 h
      obtain ⟨v₄, hbrace, h⟩ := Option.bind_eq_some_iff.1 h
      obtain ⟨⟨⟩, hle, heq⟩ := Option.bind_eq_some_iff.1 h
      cases heq
      obtain ⟨u₃, hu₃, hv₃⟩ := count_held he hskip hcount'
      obtain ⟨w', hw', rfl⟩ := after?_held (he.not_mem (by decide)) hbrace hv₃
      refine ⟨w', ?_, .kept⟩
      have hne' := hskip.ne_cons hne
      unfold counts
      simp only [hu₁, Option.bind_eq_bind, Option.bind_some]
      dsimp only at hle
      simp only [hu₃, hw', hle, Option.bind_some]
      rfl
  · cases h

theorem groupName_append (he : Ending e) {name : List Char}
    (h : groupName (u ++ e) = some (name, w)) :
    ∃ w', groupName u = some (name, w') ∧ w = w' ++ e := by
  obtain ⟨rest, hrest, h⟩ := Option.bind_eq_some_iff.1 h
  have hangle : '>' ∉ e := he.not_mem (by decide)
  obtain ⟨htake, hdrop⟩ | ⟨-, hdrop⟩ := span_append hangle u
  swap
  · rw [hdrop] at hrest
    cases hrest
  rw [hdrop] at hrest
  obtain ⟨w', hw', rfl⟩ := after?_held hangle hrest .kept
  rw [htake] at h
  unfold groupName
  simp only [hw']
  split at h
  · cases h
  · next first others hname =>
    obtain ⟨⟨⟩, hfirst, h⟩ := Option.bind_eq_some_iff.1 h
    obtain ⟨⟨⟩, hothers, heq⟩ := Option.bind_eq_some_iff.1 h
    cases heq
    refine ⟨w', ?_, rfl⟩
    simp only [hname, hfirst, hothers]
    rfl

theorem setFlag_ending (he : Ending e) (hc : c ∈ e) (f : Flags) (on : Bool) :
    setFlag f on c = none :=
  he.of_mem (p := (setFlag f on · = none)) (by simp [setFlag]) hc

theorem readFlags_append (he : Ending e) {seen : List Char} {f' : Flags} {any : Bool} {close : Char}
    (h : readFlags f seen (u ++ e) = some (f', any, close, w)) :
    ∃ w', readFlags f seen u = some (f', any, close, w') ∧ w = w' ++ e := by
  induction u generalizing f seen with
  | nil =>
    cases e with
    | nil => cases h
    | cons c e =>
      have hmark : (c = ':' ∨ c = ')') = False ∧ (c = '-') = False :=
        he.of_mem (p := fun c => (c = ':' ∨ c = ')') = False ∧ (c = '-') = False) (by simp)
          List.mem_cons_self
      have hflag (on : Bool) : setFlag f on c = none := setFlag_ending he List.mem_cons_self f on
      simp [readFlags, hmark, hflag] at h
  | cons c u ih =>
    rw [List.cons_append, readFlags] at h
    rw [readFlags]
    split_ifs at h ⊢ with hclose hhyphen hseen hdash
    · cases h
      exact ⟨u, rfl, rfl⟩
    · exact ih h
    · obtain ⟨f₁, hf₁, h⟩ := Option.bind_eq_some_iff.1 h
      obtain ⟨w', hw', rfl⟩ := ih h
      exact ⟨w', by rw [hf₁]; exact hw', rfl⟩

variable {names : List (List Char)} {a : Action}

theorem nameAction_append (he : Ending e) (h : nameAction f names (u ++ e) = some (a, w)) :
    ∃ w', nameAction f names u = some (a, w') ∧ w = w' ++ e := by
  obtain ⟨⟨name, rest⟩, hname, h⟩ := Option.bind_eq_some_iff.1 h
  obtain ⟨⟨⟩, hnew, heq⟩ := Option.bind_eq_some_iff.1 h
  cases heq
  obtain ⟨w', hw', rfl⟩ := groupName_append he hname
  refine ⟨w', ?_, rfl⟩
  simp only [nameAction, hw', Option.bind_eq_bind, Option.bind_some, hnew]
  rfl

theorem flagsAction_append (he : Ending e) (h : flagsAction f names (u ++ e) = some (a, w)) :
    ∃ w', flagsAction f names u = some (a, w') ∧ w = w' ++ e := by
  obtain ⟨⟨inner, any, close, rest⟩, hflags, h⟩ := Option.bind_eq_some_iff.1 h
  obtain ⟨w', hw', rfl⟩ := readFlags_append he hflags
  refine ⟨w', ?_⟩
  simp only [flagsAction, hw', Option.bind_eq_bind, Option.bind_some]
  dsimp only at h
  split at h
  · next hclose =>
    cases h
    simp [hclose]
  · next hclose =>
    obtain ⟨⟨⟩, hany, heq⟩ := Option.bind_eq_some_iff.1 h
    cases heq
    simp [hclose, hany]

theorem groupAction_held (he : Ending e) (h : groupAction f names (u ++ e) = some (a, w)) :
    ∃ w', groupAction f names u = some (a, w') ∧ Held e w' w := by
  have hskip := skip_held he f u
  unfold groupAction at h
  split at h
  · cases h
  · cases h
  · cases h
  · cases h
  · next more hmore =>
    rw [hmore] at hskip
    obtain ⟨u₁, hu₁, heq₁⟩ := hskip.of_cons (he.not_mem (by decide))
    obtain ⟨u₂, rfl, heq₂⟩ := Held.of_cons_eq heq₁ (he.not_mem (by decide))
    obtain ⟨u₃, rfl, rfl⟩ := Held.of_cons_eq heq₂ (he.not_mem (by decide))
    obtain ⟨w', hw', rfl⟩ := nameAction_append he h
    exact ⟨w', by simpa [groupAction, hu₁] using hw', .kept⟩
  · next more hpos hneg hmore =>
    rw [hmore] at hskip
    obtain ⟨u₁, hu₁, heq₁⟩ := hskip.of_cons (he.not_mem (by decide))
    obtain ⟨u₂, rfl, rfl⟩ := Held.of_cons_eq heq₁ (he.not_mem (by decide))
    obtain ⟨w', hw', rfl⟩ := nameAction_append he h
    refine ⟨w', ?_, .kept⟩
    rw [groupAction, hu₁]
    split <;> grind
  · next more h₁ h₂ h₃ h₄ h₅ h₆ hmore =>
    rw [hmore] at hskip
    obtain ⟨u₁, hu₁, rfl⟩ := hskip.of_cons (he.not_mem (by decide))
    obtain ⟨w', hw', rfl⟩ := flagsAction_append he h
    refine ⟨w', ?_, .kept⟩
    rw [groupAction, hu₁]
    split <;> grind
  · next h₁ h₂ h₃ h₄ h₅ h₆ h₇ =>
    cases h
    refine ⟨f.skip u, ?_, hskip⟩
    have hmark : ∀ more, f.skip u ≠ '?' :: more := hskip.ne_cons h₇
    unfold groupAction
    split <;> simp_all

end Reader

end InlineAssert.Pattern
