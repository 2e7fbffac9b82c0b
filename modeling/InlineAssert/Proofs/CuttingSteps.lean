import InlineAssert.Proofs.Cutting

namespace InlineAssert.Pattern

variable {e u v w : List Char} {c : Char}

namespace Bracket

variable {f : Flags} {items more : Items}

theorem caret_append (he : Ending e) (u : List Char) :
    caret (u ++ e) = ((caret u).1, (caret u).2 ++ e) := by
  have hheld : Held e u (u ++ e) := .kept
  generalize hv : u ++ e = v at hheld
  unfold caret
  split
  · next rest =>
    obtain ⟨u', rfl, rfl⟩ := hheld.of_cons (he.not_mem (by decide))
    rfl
  · next hne =>
    split
    · exact absurd rfl (hheld.ne_cons hne _)
    · rw [hv]

theorem caret_held (he : Ending e) (hv : Held e u v) :
    (caret v).1 = (caret u).1 ∧ Held e (caret u).2 (caret v).2 := by
  rcases hv with rfl | ⟨rfl, rfl⟩
  · rw [caret_append he]
    exact ⟨rfl, .kept⟩
  · exact ⟨rfl, .lost⟩

theorem hyphens_held (he : Ending e) (hv : Held e u v) {n m : Nat} (hn : v.length ≤ n)
    (hm : u.length ≤ m) (items : Items) :
    (hyphens f n items v).1 = (hyphens f m items u).1 ∧
      Held e (hyphens f m items u).2 (hyphens f n items v).2 := by
  induction n generalizing u v m items with
  | zero =>
    obtain rfl : v = [] := List.length_eq_zero_iff.1 (Nat.le_zero.1 hn)
    obtain rfl := hv.eq_nil
    cases m <;> exact ⟨rfl, hv⟩
  | succ n ih =>
    by_cases hhyphen : ∃ rest, v = '-' :: rest
    · obtain ⟨rest, rfl⟩ := hhyphen
      obtain ⟨u, rfl, rfl⟩ := hv.of_cons (he.not_mem (by decide))
      obtain ⟨m, rfl⟩ := Nat.exists_eq_succ_of_ne_zero (Nat.ne_zero_of_lt hm)
      exact ih (skip_held he f u)
        ((f.skip_suffix (u ++ e)).length_le.trans (Nat.le_of_succ_le_succ hn))
        ((f.skip_suffix u).length_le.trans (Nat.le_of_succ_le_succ hm)) _
    · have hne : ∀ rest, v ≠ '-' :: rest := fun rest h => hhyphen ⟨rest, h⟩
      have hne' := hv.ne_cons hne
      have hstop (n : Nat) {x : List Char} (hx : ∀ rest, x ≠ '-' :: rest) :
          hyphens f n items x = (items, x) := by
        unfold hyphens
        split
        · exact absurd rfl (hx _)
        · rfl
      rw [hstop _ hne, hstop _ hne']
      exact ⟨rfl, hv⟩

theorem opening_held (he : Ending e) (hv : Held e u v) (h : opening f items v = some (more, w))
    (hw : ']' ∈ w) : ∃ w', opening f items u = some (more, w') ∧ w = w' ++ e := by
  have hclose : ']' ∉ e := he.not_mem (by decide)
  unfold opening at h
  split at h
  · cases h
  · next rest =>
    obtain ⟨u, rfl, rfl⟩ := hv.of_cons hclose
    split at h
    · next hcount =>
      obtain ⟨items', hadd, heq⟩ := Option.map_eq_some_iff.1 h
      cases heq
      obtain ⟨heq, -⟩ := (skip_held he f u).of_mem hclose hw
      exact ⟨f.skip u, by simp [opening, hcount, hadd], heq⟩
    · next hcount =>
      cases h
      exact ⟨']' :: u, by simp [opening, hcount], rfl⟩
  · next hnil hne =>
    cases h
    obtain ⟨rfl, hu⟩ := hv.of_mem hclose hw
    refine ⟨u, ?_, rfl⟩
    unfold opening
    split
    · cases hu
    · exact absurd rfl (hv.ne_cons hne _)
    · rfl

theorem start_held (he : Ending e) {negated : Bool}
    (h : start f (u ++ e) = some (negated, items, w)) (hw : ']' ∈ w) :
    ∃ w', start f u = some (negated, items, w') ∧ w = w' ++ e := by
  simp only [start] at h
  obtain ⟨⟨_, _⟩, hopening, heq⟩ := Option.map_eq_some_iff.1 h
  cases heq
  obtain ⟨hnegated, hinside⟩ := caret_held he (skip_held he f u)
  obtain ⟨hitems, hrest⟩ := hyphens_held (f := f) he (hinside.skip he f) le_rfl le_rfl {}
  rw [hitems] at hopening
  obtain ⟨w', hw', rfl⟩ := opening_held he hrest hopening hw
  refine ⟨w', ?_, rfl⟩
  unfold start
  simp only [hw', hnegated]
  rfl

theorem posix?_append (he : Ending e) (u : List Char) :
    posix? f (u ++ e) = (posix? f u).map fun (s, rest) => (s, rest ++ e) := by
  have hcolon : ':' ∉ e := he.not_mem (by decide)
  unfold posix?
  rw [after?_append_right (by simpa using hcolon)]
  cases Text.after? [':'] u with
  | none => rfl
  | some inside =>
    simp only [Option.map_some, Option.bind_eq_bind, Option.bind_some, caret_append he]
    obtain ⟨htake, hdrop⟩ | ⟨hdrop, hdrop'⟩ := span_append hcolon (caret inside).2
    · have hmarks : ∀ c ∈ [':', ']'], c ∉ e := by simpa using ⟨hcolon, he.not_mem (by decide)⟩
      rw [htake, hdrop, after?_append_right hmarks]
      cases Text.after? [':', ']'] ((caret inside).2.dropWhile (· ≠ ':')) with
      | none => rfl
      | some rest =>
        cases Named.posix? ((caret inside).2.takeWhile (· ≠ ':')) with
        | none => rfl
        | some s => cases f.unicode <;> simp
    · rw [hdrop, hdrop']
      rfl

theorem mem_of_suffix (he : Ending e) (h : w <:+ e) : ']' ∉ w :=
  fun hw => he.not_mem (by decide) (h.mem hw)

theorem item_held (he : Ending e) {t : Token} (h : item f (u ++ e) = some (t, w)) (hw : ']' ∈ w) :
    (∃ w', item f u = some (t, w') ∧ w = w' ++ e) ∨ ∃ l, t = .look l := by
  have hclose : ']' ∉ e := he.not_mem (by decide)
  have hsuffix {d : Char} {rest : List Char} (hd : e = d :: rest) : ¬ w <:+ rest := fun hrest =>
    mem_of_suffix he (hd ▸ hrest.trans (List.suffix_cons d rest)) hw
  cases u with
  | nil =>
    cases he' : e with
    | nil => simp [he', item] at h
    | cons d e' => exact absurd (suffix_of_item (he' ▸ h)) (hsuffix he')
  | cons c u =>
    rw [List.cons_append] at h
    unfold item at h
    split at h
    · next heq => cases heq
    · next heq =>
      cases heq
      cases u with
      | nil =>
        cases he' : e with
        | nil =>
          rw [he'] at h
          cases h
        | cons d e' => exact absurd (Token.suffix_of_escape (he' ▸ h)) (hsuffix he')
      | cons d u =>
        -- only an edge of a word is told by what stands after it
        rcases Token.escape_held he .kept h with ⟨w', hw', hheld⟩ | ⟨hlook, -⟩
        · exact .inl ⟨w', hw', (hheld.of_mem hclose hw).1⟩
        · exact .inr hlook
    · next hne heq =>
      cases heq
      cases h
      refine .inl ⟨u, ?_, rfl⟩
      unfold item
      split
      · next heq => cases heq
      · next heq => cases heq; exact absurd rfl hne
      · next heq => cases heq; rfl

theorem mem_of_item {t : Token} (h : item f u = some (t, w)) (hw : c ∈ w) : c ∈ u := by
  cases u with
  | nil => cases h
  | cons d u => exact List.mem_cons_of_mem d ((suffix_of_item h).mem hw)

theorem peek_go_append (hu : ']' ∈ u) (cs cs' : List Char) (comment : Bool) :
    peek.go cs comment (u ++ e) = peek.go cs' comment u := by
  induction u generalizing comment with
  | nil => cases hu
  | cons c u ih =>
    rw [List.cons_append, peek.go, peek.go]
    split_ifs with hblank hcomment
    · have hne : ']' ≠ c := by
        rintro rfl
        revert hblank
        decide
      exact ih ((List.mem_cons.1 hu).resolve_left hne) comment
    · have hne : ']' ≠ c := by
        rintro rfl
        simp at hcomment
      exact ih ((List.mem_cons.1 hu).resolve_left hne) true
    · rfl

theorem peek_append (hu : ']' ∈ u) : peek f (u ++ e) = peek f u := by
  unfold peek
  split
  · exact peek_go_append hu _ _ false
  · cases u with
    | nil => cases hu
    | cons => rfl

theorem skip_item_held (he : Ending e) {t : Token} (h : item f (u ++ e) = some (t, v))
    (hlook : ∀ l, t ≠ .look l) (hv : ']' ∈ f.skip v) :
    ∃ u', item f u = some (t, u') ∧ Held e (f.skip u') (f.skip v) := by
  rcases item_held he h ((f.skip_suffix v).mem hv) with ⟨u', hu', rfl⟩ | ⟨l, rfl⟩
  · exact ⟨u', hu', skip_held he f u'⟩
  · exact absurd rfl (hlook l)

theorem hyphen_item_held (he : Ending e) {t : Token} (h : item f (u ++ e) = some (t, v))
    (hlook : ∀ l, t ≠ .look l) (hv : f.skip v = '-' :: w) (hw : ']' ∈ w) :
    ∃ u' w', item f u = some (t, u') ∧ f.skip u' = '-' :: w' ∧ w = w' ++ e ∧ ']' ∈ w' := by
  obtain ⟨u', hu', hheld⟩ := skip_item_held he h hlook (hv ▸ List.mem_cons_of_mem _ hw)
  rw [hv] at hheld
  obtain ⟨w', hw', rfl⟩ := hheld.of_cons (he.not_mem (by decide))
  exact ⟨u', w', hu', hw', rfl, (List.mem_append.1 hw).resolve_right (he.not_mem (by decide))⟩

theorem not_look_of_addToken {t : Token} (h : addToken f items t = some more) (l : Look) :
    t ≠ .look l := by
  rintro rfl
  cases h

theorem range_held (he : Ending e) (h : range f items (u ++ e) = some (more, w)) (hw : ']' ∈ w) :
    ∃ w', range f items u = some (more, w') ∧ w = w' ++ e := by
  have hclose : ']' ∉ e := he.not_mem (by decide)
  unfold range at h
  obtain ⟨⟨first, v₁⟩, hfirst, h⟩ := Option.bind_eq_some_iff.1 h
  dsimp only at h
  split at h
  · cases h
  · next v₂ hv₂ =>
    split at h
    -- the hyphen stands for itself
    · next hpeek =>
      obtain ⟨_, hadd, heq⟩ := Option.bind_eq_some_iff.1 h
      cases heq
      have hmem : ']' ∈ v₂ := (List.mem_cons.1 hw).resolve_left (by decide)
      obtain ⟨u₁, u₂, hu₁, hu₂, rfl, hu⟩ :=
        hyphen_item_held he hfirst (not_look_of_addToken hadd) hv₂ hmem
      rw [peek_append hu] at hpeek
      refine ⟨'-' :: u₂, ?_, rfl⟩
      simp only [range, hu₁, hu₂, Option.bind_eq_bind, Option.bind_some, if_pos hpeek, hadd]
      rfl
    · next hpeek =>
      obtain ⟨⟨last, rest⟩, hlast, h⟩ := Option.bind_eq_some_iff.1 h
      dsimp only at h
      split at h
      · next a byte b byte' =>
        obtain ⟨⟨⟩, horder, heq⟩ := Option.bind_eq_some_iff.1 h
        cases heq
        have hmem : ']' ∈ f.skip v₂ := mem_of_item hlast hw
        obtain ⟨u₁, u₂, hu₁, hu₂, rfl, hu⟩ := hyphen_item_held he hfirst
          (fun l heq => by cases heq) hv₂ ((f.skip_suffix v₂).mem hmem)
        obtain ⟨heq, -⟩ := (skip_held he f u₂).of_mem hclose hmem
        rw [heq] at hlast
        rcases item_held he hlast hw with ⟨w', hw', rfl⟩ | ⟨l, hlook⟩
        · rw [peek_append hu] at hpeek
          refine ⟨w', ?_, rfl⟩
          simp only [range, hu₁, hu₂, Option.bind_eq_bind, Option.bind_some, if_neg hpeek, hw',
            horder]
          rfl
        · cases hlook
      · cases h
  · next hnil hne =>
    obtain ⟨_, hadd, heq⟩ := Option.bind_eq_some_iff.1 h
    cases heq
    obtain ⟨u₁, hu₁, hheld⟩ := skip_item_held he hfirst (not_look_of_addToken hadd) hw
    obtain ⟨heq, hu⟩ := hheld.of_mem hclose hw
    refine ⟨f.skip u₁, ?_, heq⟩
    have hne' := hheld.ne_cons hne
    have hnil' : f.skip u₁ ≠ [] := List.ne_nil_of_mem hu
    simp only [range, hu₁, Option.bind_eq_bind, Option.bind_some, hadd]
    rfl

theorem part?_held (he : Ending e) {part : Part} (h : part? f items (u ++ e) = some (part, w))
    (hw : part ≠ .closing → ']' ∈ w) : ∃ w', part? f items u = some (part, w') ∧ w = w' ++ e := by
  have hskip := skip_held he f u
  unfold part? at h
  split at h
  · cases h
  · next more hmore =>
    rw [hmore] at hskip
    obtain ⟨u₁, hu₁, rfl⟩ := hskip.of_cons (he.not_mem (by decide))
    rw [posix?_append he] at h
    rcases hposix : posix? f u₁ with - | ⟨- | s, rest⟩
    · simp only [hposix, Option.map_none] at h
      obtain ⟨⟨negated, inner, _⟩, hstart, heq⟩ := Option.map_eq_some_iff.1 h
      cases heq
      obtain ⟨w', hw', rfl⟩ := start_held he hstart (hw nofun)
      exact ⟨w', by simp [part?, hu₁, hposix, hw'], rfl⟩
    · simp [hposix] at h
    · simp only [hposix, Option.map_some] at h
      cases h
      exact ⟨rest, by simp [part?, hu₁, hposix], rfl⟩
  · next more hmore =>
    cases h
    rw [hmore] at hskip
    obtain ⟨w', hu₁, rfl⟩ := hskip.of_cons (he.not_mem (by decide))
    exact ⟨w', by simp [part?, hu₁], rfl⟩
  all_goals try
    next hmore =>
      cases h
      rw [hmore] at hskip
      obtain ⟨u₁, hu₁, heq⟩ := hskip.of_cons (he.not_mem (by decide))
      obtain ⟨w', rfl, rfl⟩ := Held.of_cons_eq heq (he.not_mem (by decide))
      exact ⟨w', by simp [part?, hu₁], rfl⟩
  next hnil h₁ h₂ h₃ h₄ h₅ =>
    obtain ⟨⟨items', _⟩, hrange, heq⟩ := Option.map_eq_some_iff.1 h
    cases heq
    rcases hskip with hskip | ⟨-, hskip⟩
    · rw [hskip] at hrange
      obtain ⟨w', hw', rfl⟩ := range_held he hrange (hw nofun)
      have hnil' : f.skip u ≠ [] := by
        intro hu
        rw [hu] at hw'
        cases hw'
      refine ⟨w', ?_, rfl⟩
      unfold part?
      split <;> grind
    · exact absurd hskip hnil

theorem skip_of_closing (h : part? f items u = some (.closing, w)) : f.skip u = ']' :: w := by
  unfold part? at h
  split at h
  · cases h
  · split at h
    · cases h
    · cases h
    · obtain ⟨_, -, heq⟩ := Option.map_eq_some_iff.1 h
      cases heq
  · next hskip =>
    cases h
    exact hskip
  · cases h
  · cases h
  · cases h
  · obtain ⟨_, -, heq⟩ := Option.map_eq_some_iff.1 h
    cases heq

theorem mem_of_read {fuel : Nat} {level : Level} {outer : List Level}
    {found : CharSet × Nat × List Char} (h : read f fuel level outer items u = some found) :
    ']' ∈ u := by
  induction fuel generalizing level outer items u with
  | zero => cases h
  | succ fuel ih =>
    obtain ⟨⟨part, rest⟩, hpart, h⟩ := Option.bind_eq_some_iff.1 h
    obtain ⟨c, more, hskip, hrest⟩ := suffix_of_part? hpart
    have hsuffix := hrest.trans (Flags.suffix_of_skip hskip)
    cases part with
    | items | opening | operator => exact hsuffix.mem (ih h)
    | closing => exact (f.skip_suffix u).mem (skip_of_closing hpart ▸ List.mem_cons_self)

theorem read_held (he : Ending e) {n m : Nat} {level : Level} {outer : List Level} {s : CharSet}
    {height : Nat} (h : read f n level outer items (u ++ e) = some (s, height, w))
    (hm : u.length < m) :
    ∃ w', read f m level outer items u = some (s, height, w') ∧ w = w' ++ e := by
  induction n generalizing u m level outer items with
  | zero => cases h
  | succ n ih =>
    obtain ⟨m, rfl⟩ := Nat.exists_eq_succ_of_ne_zero (Nat.ne_zero_of_lt hm)
    obtain ⟨⟨part, v⟩, hpart, h⟩ := Option.bind_eq_some_iff.1 h
    -- a part that does not close the set is followed by the bracket that does
    have hmem : part ≠ .closing → ']' ∈ v := by
      intro hclosing
      cases part with
      | items | opening | operator => exact mem_of_read h
      | closing => exact absurd rfl hclosing
    obtain ⟨u', hu', rfl⟩ := part?_held he hpart hmem
    have hlength : u'.length < m := (lt_of_part? hu').trans_le (Nat.le_of_lt_succ hm)
    simp only [read, hu', Option.bind_eq_bind, Option.bind_some]
    cases part with
    | items | opening | operator => exact ih h hlength
    | closing =>
      obtain ⟨⟨s', height'⟩, hclose, h⟩ := Option.bind_eq_some_iff.1 h
      simp only [hclose, Option.bind_some]
      cases outer with
      | nil =>
        cases h
        exact ⟨u', rfl, rfl⟩
      | cons => exact ih h hlength

theorem set_append (he : Ending e) {s : CharSet} {height : Nat}
    (h : set f (u ++ e) = some (s, height, w)) :
    ∃ w', set f u = some (s, height, w') ∧ w = w' ++ e := by
  obtain ⟨⟨negated, items, v⟩, hstart, h⟩ := Option.bind_eq_some_iff.1 h
  obtain ⟨u', hu', rfl⟩ := start_held he hstart (mem_of_read h)
  obtain ⟨w', hw', rfl⟩ := read_held he h (Nat.lt_succ_self u'.length)
  refine ⟨w', ?_, rfl⟩
  simp only [set, hu', Option.bind_eq_bind, Option.bind_some]
  exact hw'

end Bracket

namespace Reader

variable {f : Flags} {names : List (List Char)} {a : Action}

/-- What a step does with a text that has an ending after it, it does with the text alone, unless it
is a backslash that stands right before the ending. -/
theorem action?_held (he : Ending e) {c : Char} (hc : c = '\\' → u ≠ [])
    (h : action? f names c (u ++ e) = some (a, w)) :
    (∃ w', action? f names c u = some (a, w') ∧ Held e w' w) ∨
      (∃ item, a = .push f item) ∧ Token.Blocked f w := by
  have hquantify {min : Nat} {max : Option Nat} {x y : List Char} (hxy : Held e x y)
      (hy : some (quantifyAction min max y) = some (a, w)) :
      ∃ w', some (quantifyAction min max x) = some (a, w') ∧ Held e w' w := by
    obtain ⟨hlazy, hrest⟩ := lazyMark_held he hxy
    cases hy
    exact ⟨_, by rw [quantifyAction, hlazy], hrest⟩
  unfold action? at h ⊢
  split at h
  · exact .inl (groupAction_held he h)
  · cases h
    exact .inl ⟨u, rfl, .kept⟩
  · cases h
    exact .inl ⟨u, rfl, .kept⟩
  · obtain ⟨⟨s, height, _⟩, hset, heq⟩ := Option.bind_eq_some_iff.1 h
    cases heq
    obtain ⟨w', hw', rfl⟩ := Bracket.set_append he hset
    exact .inl ⟨w', by simp [hw'], .kept⟩
  · exact .inl (hquantify .kept h)
  · exact .inl (hquantify .kept h)
  · exact .inl (hquantify .kept h)
  · obtain ⟨⟨min, max, v⟩, hcounts, h⟩ := Option.bind_eq_some_iff.1 h
    obtain ⟨u', hu', hheld⟩ := counts_held he .kept hcounts
    left
    simpa [hu'] using hquantify (hheld.skip he f) h
  · cases u with
    | nil => exact absurd rfl (hc rfl)
    | cons d u =>
      obtain ⟨⟨t, _⟩, hescape, h⟩ := Option.bind_eq_some_iff.1 h
      obtain ⟨form, hform, heq⟩ := Option.bind_eq_some_iff.1 h
      cases heq
      rcases Token.escape_held he .kept hescape with ⟨w', hw', hheld⟩ | ⟨-, hblocked⟩
      · exact .inl ⟨w', by simp [hw', hform], hheld⟩
      · exact .inr ⟨⟨_, rfl⟩, hblocked⟩
  · obtain ⟨form, hform, heq⟩ := Option.bind_eq_some_iff.1 h
    cases heq
    exact .inl ⟨u, by simp [hform], .kept⟩
  · cases h
    exact .inl ⟨u, rfl, .kept⟩
  · cases h
    exact .inl ⟨u, rfl, .kept⟩
  · obtain ⟨form, hform, heq⟩ := Option.bind_eq_some_iff.1 h
    cases heq
    exact .inl ⟨u, by simp [hform], .kept⟩

end Reader

end InlineAssert.Pattern
