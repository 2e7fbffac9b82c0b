import InlineAssert.Proofs.CuttingSteps
import InlineAssert.Proofs.Nesting
import InlineAssert.Proofs.Template
import InlineAssert.Table

/-! Fragments that are no patterns. What stands around a fragment makes it one in two ways only: a
mark at its start repeats what stands before it, and a backslash at its end escapes what comes
after. -/

namespace InlineAssert.Pattern

variable {e u v rest : List Char} {c : Char}

theorem Flags.skip_brace (f : Flags) (cs : List Char) : f.skip ('\x7b' :: cs) = '\x7b' :: cs := by
  rw [skip]
  split <;> rfl

namespace Reader

variable {f : Flags} {names : List (List Char)} {x : Action} {r r' t a : Reader} {cs : List Char}

theorem action?_ending (he : Ending (c :: cs)) (h : action? f names c cs = some (x, rest)) :
    (∃ item, x = .push f item) ∨ ∃ min max lazy, x = .repeatLast min max lazy := by
  have hc : c ∈ ['$', '.', '*', '\\'] := he c List.mem_cons_self
  cases allows_of_action? h with
  | openGroup | flags | close | branch => simp at hc
  | repeatLast min max lazy => exact .inr ⟨min, max, lazy, rfl⟩
  | push c item => exact .inl ⟨item, rfl⟩

theorem Reads.close_le (h : Reads r e r') (he : Ending e) :
    r'.outer = r.outer ∧ r.frame.close.height ≤ r'.frame.close.height := by
  induction h with
  | done => exact ⟨rfl, le_rfl⟩
  | @next c more r₁ rest r' r cs hskip hstep _ ih =>
    rw [Flags.skip_ending he] at hskip
    subst hskip
    obtain ⟨x, haction, hrun⟩ := exists_run_of_step hstep
    have hrest : Ending rest := he.tail.of_suffix (suffix_of_action? haction)
    obtain ⟨houter, hheight⟩ := ih hrest
    rcases action?_ending he haction with ⟨item, rfl⟩ | ⟨min, max, lazy, rfl⟩
    · cases hrun
      refine ⟨houter, le_trans ?_ hheight⟩
      exact Frame.close_le (.cons_right (Among.refl _)) (Among.refl _)
    · obtain ⟨items, hitems, rfl⟩ : ∃ items, Among r.frame.items items ∧
          r₁ = { r with frame := { r.frame with items } } := by
        simp only [Action.run, repeatLast] at hrun
        split at hrun
        · next item items heq =>
          split at hrun
          · cases hrun
            exact ⟨_, heq ▸ .cons (Nat.le_succ _) (Among.refl _), rfl⟩
          · cases hrun
        · cases hrun
      refine ⟨houter, le_trans ?_ hheight⟩
      exact Frame.close_le hitems (Among.refl _)

theorem Reads.not_blocked (h : Reads r (u ++ e) r') (he : Ending e) :
    ¬ Token.Blocked r.flags u := by
  rintro ⟨x, rfl, hx⟩
  rw [List.cons_append] at h
  cases h with
  | done hskip =>
    rw [Flags.skip_brace] at hskip
    cases hskip
  | next hskip hstep _ =>
    rw [Flags.skip_brace] at hskip
    cases hskip
    obtain ⟨_, haction, -⟩ := exists_run_of_step hstep
    obtain ⟨⟨min, max, _⟩, hcounts, -⟩ := Option.bind_eq_some_iff.1 haction
    obtain ⟨_, hx', -⟩ := counts_held he .kept hcounts
    rw [hx] at hx'
    cases hx'

theorem flags_of_push {item : Item} (hx : x = .push f item) (hrun : x.run r = some r') :
    r'.flags = f := by
  subst hx
  cases hrun
  rfl

theorem exists_action?_of_append (he : Ending e) (hc : c = '\\' → u ≠ [])
    (h : action? r.flags names c (u ++ e) = some (x, rest)) (hrun : x.run r = some t)
    (hmore : Reads t rest r') :
    ∃ w e', action? r.flags names c u = some (x, w) ∧ rest = w ++ e' ∧ Ending e' := by
  rcases action?_held he hc h with ⟨w, hw, rfl | ⟨rfl, rfl⟩⟩ | ⟨⟨item, hx⟩, hblocked⟩
  · exact ⟨w, e, hw, rfl, he⟩
  · exact ⟨[], [], hw, rfl, ending_nil⟩
  · have hmore' : Reads t (rest ++ []) r' := by rwa [List.append_nil]
    exact absurd (flags_of_push hx hrun ▸ hblocked) (hmore'.not_blocked ending_nil)

theorem action?_of_backslash (h : action? f names c (u ++ ['\\']) = some (x, v ++ ['\\']))
    (hblocked : ∀ item, x = .push f item → ¬ Token.Blocked f (v ++ ['\\'])) :
    action? f names c u = some (x, v) := by
  have hc : c = '\\' → u ≠ [] := by
    rintro rfl rfl
    obtain ⟨form, -, heq⟩ := Option.bind_eq_some_iff.1 h
    simp at heq
  rcases action?_held ending_backslash hc h with ⟨w, hw, hheld⟩ | ⟨⟨item, hx⟩, hblocked'⟩
  · rcases hheld with heq | ⟨-, heq⟩
    · rwa [List.append_cancel_right heq]
    · simp at heq
  · exact absurd hblocked' (hblocked item hx)

def ReadsMost (a : Reader) (u : List Char) (a' : Reader) : Prop :=
  Reads a u a' ∨ ∃ cut, u = cut ++ ['\\'] ∧ Reads a cut a'

theorem ReadsMost.next {a₁ a' : Reader} {more : List Char} (hskip : a.flags.skip u = c :: more)
    (haction : action? a.flags a.names c more = some (x, rest)) (hrun : x.run a = some a₁)
    (h : ReadsMost a₁ rest a') (hblocked : ¬ Token.Blocked a₁.flags rest) : ReadsMost a u a' := by
  rcases h with h | ⟨cut, rfl, h⟩
  · exact .inl (.next hskip (step_of_run haction hrun) h)
  · obtain ⟨lead, hlead⟩ := suffix_of_action? haction
    have hmore : more = (lead ++ cut) ++ ['\\'] := by rw [← hlead, List.append_assoc]
    subst hmore
    obtain ⟨u', rfl, hskip'⟩ := Flags.exists_of_skip_backslash (v := c :: (lead ++ cut)) hskip
    have haction' := action?_of_backslash haction fun item hx => flags_of_push hx hrun ▸ hblocked
    exact .inr ⟨u', rfl, .next hskip' (step_of_run haction' hrun) h⟩

theorem Reads.alone (h : Reads t v r') (he : Ending e) (hv : v = u ++ e) (habove : t.Above a)
    (hstart : a.frame.items = [] →
      t.frame.items = [] ∨ ∀ c more, t.flags.skip u = c :: more → c ∉ repetitions) :
    ∃ a' t' e', ReadsMost a u a' ∧ t'.Above a' ∧ Ending e' ∧ Reads t' e' r' := by
  induction h generalizing u e a with
  | @done t v hskip =>
    subst hv
    have hheld := skip_held he t.flags u
    rw [hskip] at hheld
    refine ⟨a, t, [], .inl (.done ?_), habove, ending_nil, .done (Flags.skip_ending ending_nil _)⟩
    rw [habove.flags.skip_eq, hheld.eq_nil]
  | @next c more t₁ rest r' t v hskip hstep hmore ih =>
    subst hv
    have hheld := skip_held he t.flags u
    rw [hskip] at hheld
    rcases hheld.eq_nil_or_cons with hnil | ⟨u₁, hu, rfl⟩
    -- only the ending is left
    · rw [hnil] at hheld
      obtain rfl : c :: more = e := hheld.resolve_right (by simp)
      exact ⟨a, t, c :: more, .inl (.done (by rw [habove.flags.skip_eq, hnil])), habove, he,
        .next (Flags.skip_ending he _) hstep hmore⟩
    -- a backslash that is the last character escapes the ending
    by_cases hcross : c = '\\' ∧ u₁ = []
    · obtain ⟨rfl, rfl⟩ := hcross
      obtain ⟨u', rfl, hnil⟩ := Flags.exists_of_skip_backslash (v := []) hu
      have he' : Ending ('\\' :: e) := List.forall_mem_cons.2 ⟨by simp, he⟩
      exact ⟨a, t, '\\' :: e, .inr ⟨u', rfl, .done (by rw [habove.flags.skip_eq, hnil])⟩, habove,
        he', .next (Flags.skip_ending he' _) hstep hmore⟩
    obtain ⟨x, haction, hrun⟩ := exists_run_of_step hstep
    obtain ⟨w, e₁, hw, rfl, he₁⟩ :=
      exists_action?_of_append he (fun hc hnil => hcross ⟨hc, hnil⟩) haction hrun hmore
    obtain ⟨y, hy, hxy⟩ := action?_alike hw habove.flags
    rw [← habove.names] at hy
    obtain ⟨a₁, hrun₁, habove₁, hitems⟩ := habove.run hxy hrun fun hnil =>
      (hstart hnil).imp_right fun hc min max lazy => by
        rintro rfl
        cases allows_of_action? hw with
        | repeatLast _ _ _ hmark => exact hc c u₁ hu hmark
    obtain ⟨a', t', e', hreads, habove', he', hrest⟩ := ih he₁ rfl habove₁ fun hnil =>
      .inl (hitems hnil)
    refine ⟨a', t', e', ?_, habove', he', hrest⟩
    refine .next (by rw [habove.flags.skip_eq, hu]) hy hrun₁ hreads ?_
    rintro ⟨z, rfl, hz⟩
    exact hmore.not_blocked he₁ ⟨z, rfl, habove₁.flags.counts_eq ▸ hz⟩

theorem isSome_finish_iff : r.finish.isSome ↔ r.outer = [] ∧ r.frame.close.height ≤ nestLimit := by
  unfold finish
  split
  · next houter => simp [houter]
  · next hne => exact ⟨nofun, fun h => absurd h.1 hne⟩

theorem Reads.isSome_read? (h : Reads {} cs r) (hfinish : r.finish.isSome) :
    (Form.read? cs).isSome := by
  rw [Form.read?, read_of_reads h (Nat.lt_succ_self _)]
  exact hfinish

theorem above_onLine (items : List Item) : (onLine items).Above {} where
  flags := ⟨false, rfl⟩
  frame := ⟨.base, .nil⟩
  outer := .nil
  names := rfl

/-- What can be read on top of other items and with an ending is a pattern by itself, if need be
without the backslash that escapes the ending. -/
theorem Reads.isPattern {items : List Item} (h : Reads (onLine items) (u ++ e) r) (he : Ending e)
    (hstart : ∀ c ∈ u.head?, c ∉ repetitions) (hfinish : r.finish.isSome) :
    (Form.read? u).isSome ∨ ∃ cut, u = cut ++ ['\\'] ∧ (Form.read? cut).isSome := by
  obtain ⟨a', t', e', hreads, habove, he', hrest⟩ := h.alone he rfl (above_onLine items)
    fun _ => .inr fun c more hu => hstart c (by simp [show u = c :: more from hu])
  obtain ⟨houter, hheight⟩ := isSome_finish_iff.1 hfinish
  obtain ⟨houter', hheight'⟩ := hrest.close_le he'
  have houter₁ : a'.outer = [] := by
    have hall := habove.outer
    rw [← houter', houter] at hall
    exact List.forall₂_nil_left_iff.1 hall
  have hfinish' : a'.finish.isSome := isSome_finish_iff.2
    ⟨houter₁, (habove.frame.close_le.trans hheight').trans hheight⟩
  rcases hreads with hreads | ⟨cut, rfl, hreads⟩
  · exact .inl (hreads.isSome_read? hfinish')
  · exact .inr ⟨cut, rfl, hreads.isSome_read? hfinish'⟩

end Reader

theorem ofText_eq_malformed_iff {text : String} :
    ofText text = .error .malformed ↔ Form.read? text.toList = none := by
  have hexpr : ofText text = .error .malformed ↔ Expr.ofText text = .error .malformed := by
    rw [ofText]
    split
    · next h => simp [h]
    · next h => simp [h]
  rw [hexpr, Expr.ofText]
  split
  · next h => simp [h]
  · next form h => cases form.fits <;> simp [h]

end InlineAssert.Pattern

namespace InlineAssert.Matcher

open Pattern Pattern.Reader

def closing : Polarity → List Char
  | .present => ['$']
  | .absent => ['.', '*', '$']

theorem tail_eq (polarity : Polarity) (fragment : String) :
    tail polarity fragment = fragment.toList ++ closing polarity := by
  cases polarity <;> rfl

theorem ending_closing (polarity : Polarity) : Ending (closing polarity) := by
  cases polarity <;> simp [Ending, closing]

def leaning (polarity : Polarity) : (fragment : List Char) → List Char
  | [] => []
  | c :: cs => if c ∈ repetitions then joint polarity ++ c :: cs else c :: cs

/-- The pattern around a fragment completes it: it is one after what it repeats, or without the
backslash by which it escapes what comes after. -/
def Completed (polarity : Polarity) (fragment : String) : Prop :=
  let text := leaning polarity fragment.toList
  (text ≠ fragment.toList ∧ (Form.read? text).isSome) ∨
    text.getLast? = some '\\' ∧ (Form.read? text.dropLast).isSome

instance (polarity : Polarity) (fragment : String) : Decidable (Completed polarity fragment) :=
  inferInstanceAs (Decidable (_ ∨ _))

theorem leaning_cases (polarity : Polarity) (fragment : List Char) :
    leaning polarity fragment = joint polarity ++ fragment ∨
      leaning polarity fragment = fragment ∧ ∀ c ∈ fragment.head?, c ∉ repetitions := by
  cases fragment with
  | nil => exact .inr ⟨rfl, by simp⟩
  | cons c cs =>
    by_cases hc : c ∈ repetitions
    · exact .inl (if_pos hc)
    · exact .inr ⟨if_neg hc, by simpa using hc⟩

theorem head?_leaning (polarity : Polarity) (fragment : List Char) :
    ∀ c ∈ (leaning polarity fragment).head?, c ∉ repetitions := by
  rcases leaning_cases polarity fragment with heq | ⟨heq, hc⟩
  · rw [heq]
    cases polarity <;> simp [joint, repetitions]
  · rwa [heq]

theorem reads_leaning {polarity : Polarity} {fileName fragment : String} {line : Nat} {r : Reader}
    (h : Reads {} (patternText polarity fileName line fragment).toList r) :
    ∃ items, Reads (onLine items) (leaning polarity fragment.toList ++ closing polarity) r := by
  rw [toList_patternText] at h
  have h := h.place
  rw [tail_eq] at h
  rcases leaning_cases polarity fragment.toList with heq | ⟨heq, hc⟩
  · rw [heq, List.append_assoc]
    exact ⟨_, h⟩
  · rw [heq]
    cases polarity with
    | present => exact ⟨_, h.literal (by decide)⟩
    | absent =>
      refine ⟨_, h.anything ?_⟩
      cases hfragment : fragment.toList with
      | nil => simp [closing]
      | cons c cs =>
        rintro heq
        obtain rfl : c = '?' := by simpa using heq
        exact hc '?' (by simp [hfragment]) (by decide)

theorem isSome_or_completed {polarity : Polarity} {fileName fragment : String} {line : Nat}
    (h : (Form.read? (patternText polarity fileName line fragment).toList).isSome) :
    (Form.read? fragment.toList).isSome ∨ Completed polarity fragment := by
  obtain ⟨form, h⟩ := Option.isSome_iff_exists.1 h
  obtain ⟨r, hread, hfinish⟩ := Option.bind_eq_some_iff.1 h
  obtain ⟨items, hreads⟩ := reads_leaning (reads_of_read hread)
  rcases hreads.isPattern (ending_closing polarity) (head?_leaning polarity _) (by simp [hfinish])
    with hwhole | ⟨cut, hcut, hwhole⟩
  · by_cases heq : leaning polarity fragment.toList = fragment.toList
    · exact .inl (heq ▸ hwhole)
    · exact .inr (.inl ⟨heq, hwhole⟩)
  · exact .inr (.inr (by simp [hcut, hwhole]))

theorem forPlace_malformed {polarity : Polarity} {fragment : String}
    (h : Pattern.ofText fragment = .error .malformed) (hc : ¬ Completed polarity fragment)
    (fileName : String) (line : Nat) (source : String) :
    forPlace polarity fileName line fragment source = .error .malformed := by
  have hpattern :
      Pattern.ofText (patternText polarity fileName line fragment) = .error .malformed := by
    rw [ofText_eq_malformed_iff] at h ⊢
    by_contra hne
    rcases isSome_or_completed (Option.isSome_iff_ne_none.2 hne) with hsome | hcompleted
    · simp [h] at hsome
    · exact hc hcompleted
  rw [forPlace, hpattern]
  rfl

end InlineAssert.Matcher

namespace InlineAssert.Table

open Pattern

/-- A fragment that is no pattern, and that the pattern around it does not complete, makes no
matcher: its directive fails and leaves the table as it was. -/
theorem apply_malformed {polarity : Polarity} {fragment : String}
    (h : Pattern.ofText fragment = .error .malformed) (hc : ¬ Matcher.Completed polarity fragment) :
    (∀ fileName line source,
      Matcher.forPlace polarity fileName line fragment source = .error .malformed) ∧
    ∀ (t : Table) (d : Directive) (site : Site), d.key = .diagnostic polarity → d.value = fragment →
      t.apply d site = .error (.invalidPattern d site.path site.line .malformed) ∧
      ∀ rest, t.applyAll ((d, site) :: rest) =
        (t, .error (.invalidPattern d site.path site.line .malformed)) := by
  refine ⟨Matcher.forPlace_malformed h hc, fun t d site hkey hvalue => ?_⟩
  have happly : t.apply d site = .error (.invalidPattern d site.path site.line .malformed) := by
    simp only [apply, TestCase.extend, hkey, hvalue, Matcher.forPlace_malformed h hc]
    rfl
  refine ⟨happly, fun rest => ?_⟩
  rw [applyAll, happly]

theorem apply_malformed_open_group :
    Pattern.ofText "(a" = .error .malformed ∧ ¬ Matcher.Completed .absent "(a" ∧
      Matcher.forPlace .absent "f.go" 1 "(a" "" = .error .malformed ∧
      ∀ (t : Table) (site : Site) (d : Directive), d = ⟨"t", .diagnostic .absent, "(a"⟩ →
        t.applyAll [(d, site)] =
          (t, .error (.invalidPattern d site.path site.line .malformed)) := by
  have hfragment : Pattern.ofText "(a" = .error .malformed := by decide +kernel
  have hcompleted : ¬ Matcher.Completed .absent "(a" := by decide +kernel
  obtain ⟨hmatcher, hdirective⟩ := apply_malformed hfragment hcompleted
  refine ⟨hfragment, hcompleted, hmatcher "f.go" 1 "", ?_⟩
  rintro t site d rfl
  exact (hdirective t _ site rfl rfl).2 []

theorem forPlace_star :
    Pattern.ofText "*" = .error .malformed ∧
      ∃ m, Matcher.forPlace .present "f.go" 1 "*" "" = .ok m ∧
        m.find? "f.go:1:2:" = some "f.go:1:2:" := by
  have hfinds : (Matcher.forPlace .present "f.go" 1 "*" "").toOption.bind (·.find? "f.go:1:2:") =
      some "f.go:1:2:" := by decide +kernel
  obtain ⟨m, hm, hfound⟩ := Option.bind_eq_some_iff.1 hfinds
  rw [Except.toOption_eq_some_iff] at hm
  exact ⟨by decide +kernel, m, hm, hfound⟩

-- and a backslash escapes the end of the line
example : Pattern.ofText "a\\" = .error .malformed ∧
    (Matcher.forPlace .present "f.go" 1 "a\\" "").toOption.isSome := by decide +kernel

end InlineAssert.Table
