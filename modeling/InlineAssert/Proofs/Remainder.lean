import InlineAssert.Proofs.Reading
import Mathlib.Data.List.Infix

namespace InlineAssert.Pattern

def Flags.withLines (f : Flags) (multiLine : Bool) : Flags := { f with multiLine }

theorem skipSpace_suffix (comment : Bool) (cs : List Char) : skipSpace comment cs <:+ cs := by
  fun_induction skipSpace comment cs with
  | case1 => exact List.suffix_rfl
  | case2 c cs ih | case3 c cs _ ih => exact ih.trans (List.suffix_cons c cs)
  | case4 cs _ ih => exact ih.trans (List.suffix_cons _ cs)
  | case5 => exact List.suffix_rfl

theorem Flags.skip_suffix (f : Flags) (cs : List Char) : f.skip cs <:+ cs := by
  rw [skip]
  split
  · exact skipSpace_suffix false cs
  · exact List.suffix_rfl

theorem Flags.suffix_of_skip {f : Flags} {cs rest : List Char} {c : Char}
    (h : f.skip cs = c :: rest) : rest <:+ cs :=
  (List.suffix_cons c rest).trans (h ▸ f.skip_suffix cs)

theorem Flags.lt_of_skip {f : Flags} {cs rest : List Char} {c : Char} (h : f.skip cs = c :: rest) :
    rest.length < cs.length :=
  Nat.lt_of_succ_le (h ▸ f.skip_suffix cs).length_le

theorem suffix_of_after? {lead cs rest : List Char} (h : Text.after? lead cs = some rest) :
    rest <:+ cs :=
  ⟨lead, (Text.eq_append_of_after? h).symm⟩

namespace Token

section

variable (f : Flags) (b : Bool)

theorem braced_withLines : braced (f.withLines b) = braced f := by
  delta braced
  rfl

theorem exactly_withLines : exactly (f.withLines b) = exactly f := by
  delta exactly
  rfl

theorem hex_withLines : hex (f.withLines b) = hex f := by
  delta hex
  rw [braced_withLines, exactly_withLines]
  rfl

theorem property_withLines : property (f.withLines b) = property f := by
  delta property
  rw [braced_withLines]
  rfl

theorem edge_withLines : edge (f.withLines b) = edge f := by
  delta edge
  rw [braced_withLines]
  rfl

theorem escape_withLines : escape (f.withLines b) = escape f := by
  delta escape
  rw [edge_withLines, hex_withLines, property_withLines]
  rfl

end

variable {f : Flags} {cs rest : List Char} {t : Token}

theorem suffix_of_braced {comment : Bool} {inside : List Char}
    (h : braced f comment cs = some (inside, rest)) : rest <:+ cs := by
  fun_induction braced f comment cs generalizing inside with
  | case1 => cases h
  | case2 c cs ih | case3 c cs _ ih | case4 c cs _ _ ih =>
    exact (ih h).trans (List.suffix_cons c cs)
  | case5 cs =>
    cases h
    exact List.suffix_cons _ _
  | case6 c cs _ _ _ ih =>
    obtain ⟨⟨inside, rest⟩, hrest, heq⟩ := Option.map_eq_some_iff.1 h
    cases heq
    exact (ih hrest).trans (List.suffix_cons c cs)

theorem suffix_of_exactly {comment : Bool} {n : Nat} {inside : List Char}
    (h : exactly f comment n cs = some (inside, rest)) : rest <:+ cs := by
  fun_induction exactly f comment n cs generalizing inside with
  | case1 =>
    cases h
    exact List.suffix_rfl
  | case2 => cases h
  | case3 n c cs ih | case4 n c cs _ ih | case5 n c cs _ _ ih =>
    exact (ih h).trans (List.suffix_cons c cs)
  | case6 n c cs _ _ ih =>
    obtain ⟨⟨inside, rest⟩, hrest, heq⟩ := Option.map_eq_some_iff.1 h
    cases heq
    exact (ih hrest).trans (List.suffix_cons c cs)

theorem suffix_of_hex {digits : Nat} (h : hex f digits cs = some (t, rest)) : rest <:+ cs := by
  rw [hex] at h
  split at h
  · next more hskip =>
    obtain ⟨⟨inside, rest'⟩, hbraced, h⟩ := Option.bind_eq_some_iff.1 h
    obtain ⟨c, -, heq⟩ := Option.bind_eq_some_iff.1 h
    cases heq
    exact (suffix_of_braced hbraced).trans (Flags.suffix_of_skip hskip)
  · obtain ⟨⟨inside, rest'⟩, hexactly, h⟩ := Option.bind_eq_some_iff.1 h
    obtain ⟨c, -, heq⟩ := Option.bind_eq_some_iff.1 h
    cases heq
    exact (suffix_of_exactly hexactly).trans (f.skip_suffix cs)

theorem suffix_of_property {negated : Bool} (h : property f negated cs = some (t, rest)) :
    rest <:+ cs := by
  rw [property] at h
  obtain ⟨-, -, h⟩ := Option.bind_eq_some_iff.1 h
  split at h
  · cases h
  · cases h
  · next more hskip =>
    obtain ⟨⟨inside, rest'⟩, hbraced, h⟩ := Option.bind_eq_some_iff.1 h
    have hrest : rest' = rest := by
      dsimp only at h
      split at h <;>
        (obtain ⟨s, -, heq⟩ := Option.bind_eq_some_iff.1 h
         cases heq
         rfl)
    rw [← hrest]
    exact (suffix_of_braced hbraced).trans (Flags.suffix_of_skip hskip)
  · next c more _ _ hskip =>
    obtain ⟨s, -, heq⟩ := Option.bind_eq_some_iff.1 h
    cases heq
    exact Flags.suffix_of_skip hskip

theorem suffix_of_edge (h : edge f cs = some (t, rest)) : rest <:+ cs := by
  unfold edge at h
  split at h
  · next inside =>
    split at h
    · cases h
    · split at h
      · obtain ⟨⟨name, rest'⟩, hbraced, h⟩ := Option.bind_eq_some_iff.1 h
        obtain ⟨side, -, heq⟩ := Option.bind_eq_some_iff.1 h
        cases heq
        exact (suffix_of_braced hbraced).trans (List.suffix_cons _ inside)
      · cases h
        exact List.suffix_rfl
  · cases h
    exact List.suffix_rfl

theorem escape_cons (f : Flags) (c : Char) :
    (∃ t : Option Token, ∀ cs, escape f (c :: cs) = t.map (·, cs)) ∨
      (∃ n, ∀ cs, escape f (c :: cs) = hex f (n + 1) cs) ∨
      (∃ negated, ∀ cs, escape f (c :: cs) = property f negated cs) ∨
      ∀ cs, escape f (c :: cs) = edge f cs := by
  by_cases hc : isEscapable c
  · refine .inl ⟨some (.char c false), fun cs => ?_⟩
    unfold escape
    exact if_pos hc
  · unfold escape
    simp only [if_neg hc]
    split
    · exact .inr (.inl ⟨1, fun _ => rfl⟩)
    · exact .inr (.inl ⟨3, fun _ => rfl⟩)
    · exact .inr (.inl ⟨7, fun _ => rfl⟩)
    · exact .inr (.inr (.inl ⟨false, fun _ => rfl⟩))
    · exact .inr (.inr (.inl ⟨true, fun _ => rfl⟩))
    all_goals first
      | exact .inl ⟨some _, fun _ => rfl⟩
      | exact .inl ⟨none, fun _ => rfl⟩
      | exact .inl ⟨_, fun cs => (Option.map_map (·, cs) Token.set _).symm⟩
      | exact .inr (.inr (.inr fun _ => rfl))

theorem suffix_of_escape {c : Char} (h : escape f (c :: cs) = some (t, rest)) : rest <:+ cs := by
  rcases escape_cons f c with ⟨t', hc⟩ | ⟨n, hc⟩ | ⟨negated, hc⟩ | hc
  · rw [hc] at h
    obtain ⟨_, -, heq⟩ := Option.map_eq_some_iff.1 h
    cases heq
    exact List.suffix_rfl
  · exact suffix_of_hex (hc cs ▸ h)
  · exact suffix_of_property (hc cs ▸ h)
  · exact suffix_of_edge (hc cs ▸ h)

end Token

namespace Bracket

section

variable (f : Flags) (b : Bool)

theorem hyphens_withLines : hyphens (f.withLines b) = hyphens f := by
  delta hyphens
  rfl

theorem start_withLines : start (f.withLines b) = start f := by
  delta start
  rw [hyphens_withLines]
  rfl

theorem item_withLines : item (f.withLines b) = item f := by
  delta item
  rw [Token.escape_withLines]

theorem range_withLines : range (f.withLines b) = range f := by
  delta range
  rw [item_withLines]
  rfl

theorem part?_withLines : part? (f.withLines b) = part? f := by
  delta part?
  rw [start_withLines, range_withLines]
  rfl

theorem read_withLines : read (f.withLines b) = read f := by
  funext fuel
  induction fuel with
  | zero => rfl
  | succ fuel ih =>
    funext level outer items cs
    rw [read, read, ih, part?_withLines]
    rfl

theorem set_withLines : set (f.withLines b) = set f := by
  delta set
  rw [start_withLines, read_withLines]

end

variable {f : Flags} {cs rest : List Char} {items more : Items}

theorem hyphens_suffix (f : Flags) (fuel : Nat) (items : Items) (cs : List Char) :
    (hyphens f fuel items cs).2 <:+ cs := by
  fun_induction hyphens f fuel items cs with
  | case1 fuel items cs ih => exact ih.trans ((f.skip_suffix cs).trans (List.suffix_cons _ cs))
  | case2 => exact List.suffix_rfl

theorem caret_suffix (cs : List Char) : (caret cs).2 <:+ cs := by
  unfold caret
  split
  · exact List.suffix_cons _ _
  · exact List.suffix_rfl

theorem suffix_of_opening (h : opening f items cs = some (more, rest)) :
    rest <:+ cs := by
  unfold opening at h
  split at h
  · cases h
  · next rest' =>
    split at h
    · obtain ⟨_, -, heq⟩ := Option.map_eq_some_iff.1 h
      cases heq
      exact (f.skip_suffix rest').trans (List.suffix_cons _ rest')
    · cases h
      exact List.suffix_rfl
  · cases h
    exact List.suffix_rfl

theorem suffix_of_start {negated : Bool} (h : start f cs = some (negated, items, rest)) :
    rest <:+ cs := by
  obtain ⟨⟨_, _⟩, hopening, heq⟩ := Option.map_eq_some_iff.1 h
  cases heq
  exact (suffix_of_opening hopening).trans ((hyphens_suffix ..).trans ((f.skip_suffix _).trans
    ((caret_suffix _).trans (f.skip_suffix cs))))

theorem suffix_of_posix? {s : Option CharSet} (h : posix? f cs = some (s, rest)) : rest <:+ cs := by
  obtain ⟨inside, hinside, h⟩ := Option.bind_eq_some_iff.1 h
  obtain ⟨rest', hrest, h⟩ := Option.bind_eq_some_iff.1 h
  obtain ⟨_, -, h⟩ := Option.bind_eq_some_iff.1 h
  have heq : rest' = rest := by
    split at h <;> (cases h; rfl)
  rw [← heq]
  exact (suffix_of_after? hrest).trans ((List.dropWhile_suffix _).trans
    ((caret_suffix inside).trans (suffix_of_after? hinside)))

theorem suffix_of_item {c : Char} {t : Token} (h : item f (c :: cs) = some (t, rest)) :
    rest <:+ cs := by
  unfold item at h
  split at h
  · next heq => cases heq
  · next heq =>
    cases heq
    cases cs with
    | nil => cases h
    | cons c cs => exact (Token.suffix_of_escape h).trans (List.suffix_cons c cs)
  · next heq =>
    cases heq
    cases h
    exact List.suffix_rfl

theorem suffix_of_range {c : Char} (h : range f items (c :: cs) = some (more, rest)) :
    rest <:+ cs := by
  rw [range] at h
  obtain ⟨⟨first, cs'⟩, hfirst, h⟩ := Option.bind_eq_some_iff.1 h
  refine List.IsSuffix.trans ?_ (suffix_of_item hfirst)
  dsimp only at h
  split at h
  · cases h
  · next more hskip =>
    split at h
    · obtain ⟨_, -, heq⟩ := Option.bind_eq_some_iff.1 h
      cases heq
      exact hskip ▸ f.skip_suffix cs'
    · obtain ⟨⟨last, rest'⟩, hlast, h⟩ := Option.bind_eq_some_iff.1 h
      have hrest : rest' = rest := by
        dsimp only at h
        split at h
        · obtain ⟨-, -, heq⟩ := Option.bind_eq_some_iff.1 h
          cases heq
          rfl
        · cases h
      cases hnext : f.skip more with
      | nil => simp [hnext, item] at hlast
      | cons c others =>
        rw [hnext] at hlast
        rw [← hrest]
        exact (suffix_of_item hlast).trans ((Flags.suffix_of_skip hnext).trans
          (Flags.suffix_of_skip hskip))
  · obtain ⟨_, -, heq⟩ := Option.bind_eq_some_iff.1 h
    cases heq
    exact f.skip_suffix cs'

theorem suffix_of_part? {part : Part} (h : part? f items cs = some (part, rest)) :
    ∃ c more, f.skip cs = c :: more ∧ rest <:+ more := by
  unfold part? at h
  split at h
  · cases h
  · next more hskip =>
    refine ⟨_, _, hskip, ?_⟩
    split at h
    · next hposix =>
      cases h
      exact suffix_of_posix? hposix
    · cases h
    · obtain ⟨_, hstart, heq⟩ := Option.map_eq_some_iff.1 h
      cases heq
      exact suffix_of_start hstart
  · next more hskip =>
    cases h
    exact ⟨_, _, hskip, List.suffix_rfl⟩
  · next more hskip =>
    cases h
    exact ⟨_, _, hskip, List.suffix_cons _ _⟩
  · next more hskip =>
    cases h
    exact ⟨_, _, hskip, List.suffix_cons _ _⟩
  · next more hskip =>
    cases h
    exact ⟨_, _, hskip, List.suffix_cons _ _⟩
  · obtain ⟨_, hrange, heq⟩ := Option.map_eq_some_iff.1 h
    cases heq
    cases hskip : f.skip cs with
    | nil => simp [hskip, range, item] at hrange
    | cons c more =>
      rw [hskip] at hrange
      exact ⟨c, more, rfl, suffix_of_range hrange⟩

theorem lt_of_part? {part : Part} (h : part? f items cs = some (part, rest)) :
    rest.length < cs.length := by
  obtain ⟨c, more, hskip, hrest⟩ := suffix_of_part? h
  exact hrest.length_le.trans_lt (Flags.lt_of_skip hskip)

theorem suffix_of_read {fuel : Nat} {level : Level} {outer : List Level} {s : CharSet}
    {height : Nat} (h : read f fuel level outer items cs = some (s, height, rest)) :
    rest <:+ cs := by
  induction fuel generalizing level outer items cs with
  | zero => cases h
  | succ fuel ih =>
    obtain ⟨⟨part, rest'⟩, hpart, h⟩ := Option.bind_eq_some_iff.1 h
    obtain ⟨c, more, hskip, hrest'⟩ := suffix_of_part? hpart
    refine List.IsSuffix.trans ?_ (hrest'.trans (Flags.suffix_of_skip hskip))
    cases part with
    | items | opening | operator => exact ih h
    | closing =>
      obtain ⟨_, -, h⟩ := Option.bind_eq_some_iff.1 h
      cases outer with
      | nil =>
        cases h
        exact List.suffix_rfl
      | cons => exact ih h

theorem suffix_of_set {s : CharSet} {height : Nat} (h : set f cs = some (s, height, rest)) :
    rest <:+ cs := by
  obtain ⟨⟨negated, items, inside⟩, hstart, h⟩ := Option.bind_eq_some_iff.1 h
  exact (suffix_of_read h).trans (suffix_of_start hstart)

end Bracket

namespace Reader

section

variable (f : Flags) (b : Bool)

theorem digits_withLines : digits (f.withLines b) = digits f := by
  delta digits
  rfl

theorem count_withLines : count (f.withLines b) = count f := by
  delta count
  rw [digits_withLines]

theorem counts_withLines : counts (f.withLines b) = counts f := by
  delta counts
  rw [count_withLines]
  rfl

end

variable {f : Flags} {cs rest : List Char}

theorem lazyMark_suffix (cs : List Char) : (lazyMark cs).2 <:+ cs := by
  unfold lazyMark
  split
  · exact List.suffix_cons _ _
  · exact List.suffix_rfl

theorem digits_suffix (f : Flags) (fuel : Nat) (cs : List Char) : (digits f fuel cs).2 <:+ cs := by
  fun_induction digits f fuel cs with
  | case1 fuel c cs _ ds rest hmore ih =>
    rw [hmore] at ih
    exact ih.trans ((f.skip_suffix cs).trans (List.suffix_cons c cs))
  | case2 => exact List.suffix_rfl
  | case3 => exact List.suffix_rfl

theorem suffix_of_count {n : Nat} (h : count f cs = some (n, rest)) : rest <:+ cs := by
  obtain ⟨-, -, h⟩ := Option.bind_eq_some_iff.1 h
  obtain ⟨-, -, heq⟩ := Option.bind_eq_some_iff.1 h
  cases heq
  exact (List.dropWhile_suffix _).trans ((digits_suffix ..).trans (List.dropWhile_suffix _))

theorem suffix_of_counts {min : Nat} {max : Option Nat} (h : counts f cs = some (min, max, rest)) :
    rest <:+ cs := by
  obtain ⟨⟨n, after⟩, hcount, h⟩ := Option.bind_eq_some_iff.1 h
  refine List.IsSuffix.trans ?_ ((suffix_of_count hcount).trans (f.skip_suffix cs))
  dsimp only at h
  split at h
  · cases h
    exact List.suffix_cons _ _
  · next more =>
    refine List.IsSuffix.trans ?_ (List.suffix_cons _ more)
    split at h
    · next hskip =>
      cases h
      exact Flags.suffix_of_skip hskip
    · obtain ⟨⟨m, after'⟩, hcount', h⟩ := Option.bind_eq_some_iff.1 h
      obtain ⟨after'', hbrace, h⟩ := Option.bind_eq_some_iff.1 h
      obtain ⟨-, -, heq⟩ := Option.bind_eq_some_iff.1 h
      cases heq
      exact (suffix_of_after? hbrace).trans ((suffix_of_count hcount').trans (f.skip_suffix more))
  · cases h

theorem suffix_of_groupName {name : List Char} (h : groupName cs = some (name, rest)) :
    rest <:+ cs := by
  obtain ⟨after, hafter, h⟩ := Option.bind_eq_some_iff.1 h
  have heq : after = rest := by
    split at h
    · cases h
    · obtain ⟨-, -, h⟩ := Option.bind_eq_some_iff.1 h
      obtain ⟨-, -, heq⟩ := Option.bind_eq_some_iff.1 h
      cases heq
      rfl
  rw [← heq]
  exact (suffix_of_after? hafter).trans (List.dropWhile_suffix _)

theorem suffix_of_readFlags {seen : List Char} {f' : Flags} {any : Bool} {close : Char}
    (h : readFlags f seen cs = some (f', any, close, rest)) : rest <:+ cs := by
  fun_induction readFlags f seen cs with
  | case1 => cases h
  | case2 => cases h
  | case3 f seen c cs _ _ =>
    cases h
    exact List.suffix_cons _ _
  | case4 => cases h
  | case5 _ _ _ _ _ ih => exact (ih h).trans (List.suffix_cons _ _)
  | case6 f seen c cs _ _ _ ih =>
    obtain ⟨f₁, -, h⟩ := Option.bind_eq_some_iff.1 h
    exact (ih f₁ h).trans (List.suffix_cons _ _)

theorem suffix_of_groupAction {names : List (List Char)} {a : Action}
    (h : groupAction f names cs = some (a, rest)) : rest <:+ cs := by
  unfold groupAction at h
  split at h
  · cases h
  · cases h
  · cases h
  · cases h
  · next more hskip =>
    obtain ⟨⟨name, rest'⟩, hname, h⟩ := Option.bind_eq_some_iff.1 h
    obtain ⟨-, -, heq⟩ := Option.bind_eq_some_iff.1 h
    cases heq
    exact (suffix_of_groupName hname).trans ((List.suffix_cons _ _).trans
      ((List.suffix_cons _ _).trans (Flags.suffix_of_skip hskip)))
  · next more _ _ hskip =>
    obtain ⟨⟨name, rest'⟩, hname, h⟩ := Option.bind_eq_some_iff.1 h
    obtain ⟨-, -, heq⟩ := Option.bind_eq_some_iff.1 h
    cases heq
    exact (suffix_of_groupName hname).trans ((List.suffix_cons _ _).trans
      (Flags.suffix_of_skip hskip))
  · next more _ _ _ _ _ _ hskip =>
    obtain ⟨⟨inner, any, close, rest'⟩, hflags, h⟩ := Option.bind_eq_some_iff.1 h
    have heq : rest' = rest := by
      dsimp only at h
      split at h
      · cases h
        rfl
      · obtain ⟨-, -, heq⟩ := Option.bind_eq_some_iff.1 h
        cases heq
        rfl
    rw [← heq]
    exact (suffix_of_readFlags hflags).trans (Flags.suffix_of_skip hskip)
  · cases h
    exact f.skip_suffix cs

theorem suffix_of_action? {names : List (List Char)} {c : Char} {a : Action}
    (h : action? f names c cs = some (a, rest)) : rest <:+ cs := by
  unfold action? at h
  split at h
  · exact suffix_of_groupAction h
  · cases h
    exact List.suffix_rfl
  · cases h
    exact List.suffix_rfl
  · obtain ⟨⟨s, height, rest'⟩, hset, heq⟩ := Option.bind_eq_some_iff.1 h
    cases heq
    exact Bracket.suffix_of_set hset
  · cases h
    exact lazyMark_suffix cs
  · cases h
    exact lazyMark_suffix cs
  · cases h
    exact lazyMark_suffix cs
  · obtain ⟨⟨min, max, rest'⟩, hcounts, heq⟩ := Option.bind_eq_some_iff.1 h
    cases heq
    exact (lazyMark_suffix _).trans ((f.skip_suffix rest').trans (suffix_of_counts hcounts))
  · obtain ⟨⟨t, rest'⟩, hescape, h⟩ := Option.bind_eq_some_iff.1 h
    obtain ⟨_, -, heq⟩ := Option.bind_eq_some_iff.1 h
    cases heq
    cases cs with
    | nil => cases hescape
    | cons c cs => exact (Token.suffix_of_escape hescape).trans (List.suffix_cons c cs)
  · obtain ⟨_, -, heq⟩ := Option.bind_eq_some_iff.1 h
    cases heq
    exact List.suffix_rfl
  · cases h
    exact List.suffix_rfl
  · cases h
    exact List.suffix_rfl
  · obtain ⟨_, -, heq⟩ := Option.bind_eq_some_iff.1 h
    cases heq
    exact List.suffix_rfl

theorem read_of_reads {r r' : Reader} {cs : List Char} (h : Reads r cs r') {fuel : Nat}
    (hfuel : cs.length < fuel) : read fuel r cs = some r' := by
  induction h generalizing fuel with
  | done hskip =>
    obtain ⟨fuel, rfl⟩ := Nat.exists_eq_succ_of_ne_zero (Nat.ne_zero_of_lt hfuel)
    rw [read, hskip]
  | next hskip hstep _ ih =>
    obtain ⟨fuel, rfl⟩ := Nat.exists_eq_succ_of_ne_zero (Nat.ne_zero_of_lt hfuel)
    obtain ⟨a, haction, -⟩ := exists_run_of_step hstep
    -- a step takes a character at least, so the fuel outlasts the text
    have hlength := (suffix_of_action? haction).length_le.trans_lt (Flags.lt_of_skip hskip)
    rw [read, hskip]
    simp only [hstep, Option.bind_eq_bind, Option.bind_some]
    exact ih (by omega)

end Reader

end InlineAssert.Pattern
