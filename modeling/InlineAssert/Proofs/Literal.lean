import InlineAssert.Comment
import Mathlib.Data.List.Infix

namespace InlineAssert

/-- The bytes end with `mark` and have it nowhere before. -/
def RunsThrough (mark bs : Bytes) : Prop :=
  mark <:+ bs ∧ ∀ u v, bs = u ++ mark ++ v → v = []

def through? (mark : Bytes) : Bytes → Option Nat
  | [] => none
  | b :: bs => if mark <+: b :: bs then some mark.length else (through? mark bs).map (· + 1)

section Through

variable {mark : Bytes}

theorem not_runsThrough_nil (hmark : mark ≠ []) : ¬ RunsThrough mark [] :=
  fun h => hmark (List.suffix_nil.1 h.1)

theorem runsThrough_self (mark : Bytes) : RunsThrough mark mark := by
  refine ⟨List.suffix_rfl, fun u v h => ?_⟩
  have := congrArg List.length h
  simp only [List.length_append] at this
  exact List.length_eq_zero_iff.1 (by omega)

theorem RunsThrough.eq_of_prefix {bs : Bytes} (h : RunsThrough mark bs) (hstart : mark <+: bs) :
    bs = mark := by
  obtain ⟨v, hv⟩ := hstart
  have : v = [] := h.2 [] v (by simpa using hv.symm)
  simpa [this] using hv.symm

theorem runsThrough_cons {b : UInt8} {bs : Bytes} (h : ¬ mark <+: b :: bs) :
    RunsThrough mark (b :: bs) ↔ RunsThrough mark bs := by
  constructor
  · rintro ⟨hend, hfirst⟩
    refine ⟨?_, fun u v hu => hfirst (b :: u) v (by simp [hu])⟩
    rcases List.suffix_cons_iff.1 hend with he | he
    · exact absurd (he ▸ List.prefix_rfl) h
    · exact he
  · rintro ⟨hend, hfirst⟩
    refine ⟨hend.trans (List.suffix_cons ..), fun u v hu => ?_⟩
    cases u with
    | nil => exact absurd ⟨v, by simpa using hu.symm⟩ h
    | cons c u =>
      simp only [List.cons_append, List.cons.injEq] at hu
      exact hfirst u v hu.2

theorem through?_eq_some_iff (hmark : mark ≠ []) {bs : Bytes} {n : Nat} :
    through? mark bs = some n ↔ n ≤ bs.length ∧ RunsThrough mark (bs.take n) := by
  induction bs generalizing n with
  | nil => simp [through?, not_runsThrough_nil hmark]
  | cons b bs ih =>
    by_cases hstart : mark <+: b :: bs
    · have htake : (b :: bs).take mark.length = mark :=
        (List.prefix_iff_eq_take.1 hstart).symm
      rw [through?, if_pos hstart, Option.some.injEq]
      constructor
      · rintro rfl
        refine ⟨hstart.length_le, ?_⟩
        rw [htake]
        exact runsThrough_self mark
      · rintro ⟨hn, h⟩
        have hlength := h.1.length_le
        rw [List.length_take] at hlength
        have heq := h.eq_of_prefix (List.prefix_take_iff.2 ⟨hstart, by omega⟩)
        have := congrArg List.length heq
        rw [List.length_take] at this
        omega
    · rw [through?, if_neg hstart]
      cases n with
      | zero => simp [not_runsThrough_nil hmark]
      | succ n =>
        have hnot : ¬ mark <+: b :: bs.take n := fun h =>
          hstart (h.trans (List.take_prefix (n + 1) (b :: bs)))
        simp [ih, runsThrough_cons hnot]

theorem through?_append (hmark : mark ≠ []) {body : Bytes} (h : RunsThrough mark body)
    (after : Bytes) : through? mark (body ++ after) = some body.length :=
  (through?_eq_some_iff hmark).2 ⟨by simp, by simpa using h⟩

theorem through?_eq_none_iff (hmark : mark ≠ []) {bs : Bytes} :
    through? mark bs = none ↔ ¬ mark <:+: bs := by
  induction bs with
  | nil => simpa [through?] using hmark
  | cons b bs ih =>
    by_cases hstart : mark <+: b :: bs
    · simp [through?, hstart, hstart.isInfix]
    · simp [through?, hstart, ih, List.infix_cons_iff]

end Through

namespace PieceKind

theorem blockEnd?_eq (bs : Bytes) : blockEnd? bs = through? [42, 47] bs := by
  fun_induction blockEnd? bs with
  | case1 => simp [through?]
  | case2 b bs h ih =>
    rw [through?, if_neg, ih]
    rintro ⟨v, hv⟩
    simp only [List.cons_append, List.nil_append, List.cons.injEq] at hv
    exact h v hv.1.symm hv.2.symm
  | case3 => rfl

theorem rawEnd?_eq (hashes : Nat) (bs : Bytes) :
    rawEnd? hashes bs = through? (34 :: List.replicate hashes 35) bs := by
  induction bs with
  | nil => rfl
  | cons b bs ih =>
    have hstart : 34 :: List.replicate hashes 35 <+: b :: bs ↔
        b = 34 ∧ bs.take hashes = List.replicate hashes 35 := by
      rw [List.cons_prefix_cons, List.prefix_iff_eq_take, List.length_replicate, eq_comm,
        eq_comm (a := bs.take hashes)]
    simp only [rawEnd?, through?, hstart, ih, List.length_cons, List.length_replicate,
      Nat.add_comm 1]

theorem markEnd?_eq (mark : UInt8) (bs : Bytes) : markEnd? mark bs = through? [mark] bs := by
  induction bs with
  | nil => rfl
  | cons b bs ih =>
    simp only [markEnd?, through?, List.idxOf?_cons, List.cons_prefix_cons, List.nil_prefix,
      and_true] at ih ⊢
    by_cases h : mark = b
    · simp [h]
    · have hb : (b == mark) = false := beq_false_of_ne fun e => h e.symm
      simp [if_neg h, ← ih, hb]

inductive StringBody : Bytes → Prop
  | close : StringBody [34]
  | plain : b ≠ 34 → b ≠ 92 → StringBody bs → StringBody (b :: bs)
  | escape : StringBody bs → StringBody (92 :: b :: bs)

theorem not_stringBody_nil : ¬ StringBody [] := nofun

theorem not_stringBody_backslash : ¬ StringBody [92] := by
  intro h
  cases h with
  | plain _ h => exact h rfl

theorem stringBody_cons_quote {bs : Bytes} : StringBody (34 :: bs) ↔ bs = [] := by
  constructor
  · intro h
    cases h with
    | close => rfl
    | plain h => exact absurd rfl h
  · rintro rfl
    exact .close

theorem stringBody_cons_plain {b : UInt8} {bs : Bytes} (hquote : b ≠ 34) (hslash : b ≠ 92) :
    StringBody (b :: bs) ↔ StringBody bs := by
  constructor
  · intro h
    cases h with
    | close => exact absurd rfl hquote
    | plain _ _ h => exact h
    | escape => exact absurd rfl hslash
  · exact .plain hquote hslash

theorem stringBody_cons_escape {b : UInt8} {bs : Bytes} :
    StringBody (92 :: b :: bs) ↔ StringBody bs := by
  constructor
  · intro h
    cases h with
    | plain _ h => exact absurd rfl h
    | escape h => exact h
  · exact .escape

theorem stringEnd?_eq_some_iff {bs : Bytes} {n : Nat} :
    stringEnd? bs = some n ↔ n ≤ bs.length ∧ StringBody (bs.take n) := by
  fun_induction stringEnd? bs generalizing n with
  | case1 bs =>
    cases n with
    | zero => simp [not_stringBody_nil]
    | succ n => cases bs <;> simp [stringBody_cons_quote]; omega
  | case2 b bs ih =>
    cases n with
    | zero => simp [not_stringBody_nil]
    | succ n =>
      cases n with
      | zero => simp [not_stringBody_backslash]
      | succ n => simp [ih, stringBody_cons_escape]
  | case3 b bs hquote hslash ih =>
    cases n with
    | zero => simp [not_stringBody_nil]
    | succ n =>
      by_cases h : b = 92
      · subst h
        cases bs with
        | nil => simp [stringEnd?, not_stringBody_backslash]
        | cons c bs => exact absurd rfl (hslash c bs rfl)
      · simp [ih, stringBody_cons_plain hquote h]
  | case4 => simp [not_stringBody_nil]

theorem stringEnd?_append {body : Bytes} (h : StringBody body) (after : Bytes) :
    stringEnd? (body ++ after) = some body.length :=
  stringEnd?_eq_some_iff.2 ⟨by simp, by simpa using h⟩

theorem stringEnd?_eq_none_iff {bs : Bytes} :
    stringEnd? bs = none ↔ ∀ body, StringBody body → ¬ body <+: bs := by
  constructor
  · rintro h body hbody ⟨after, rfl⟩
    rw [stringEnd?_append hbody] at h
    cases h
  · intro h
    by_contra hsome
    obtain ⟨n, hn⟩ := Option.ne_none_iff_exists'.1 hsome
    exact h _ (stringEnd?_eq_some_iff.1 hn).2 (List.take_prefix ..)

def OpensRaw (before : Bytes) (hashes : Nat) : Prop :=
  ∃ front, before = front ++ 114 :: List.replicate hashes 35 ∧
    ∀ b ∈ front.getLast?, b ≠ 95 ∧ (isAlnum b → b = 98)

theorem rawHashes?_cons_of_ne {b : UInt8} (hhash : b ≠ 35) (hr : b ≠ 114) (bs : Bytes) :
    rawHashes? (b :: bs) = none := by
  rw [rawHashes?]
  · exact fun bs' h => hhash (List.cons.inj h).1
  · exact fun h => hr (List.cons.inj h).1
  · exact fun b' bs' h => hr (List.cons.inj h).1

theorem rawHashes?_eq_some {bs : Bytes} {hashes : Nat} :
    rawHashes? bs = some hashes ↔
      ∃ front, bs = List.replicate hashes 35 ++ 114 :: front ∧
        ∀ b ∈ front.head?, b ≠ 95 ∧ (isAlnum b → b = 98) := by
  fun_induction rawHashes? bs generalizing hashes with
  | case1 bs ih => cases hashes <;> simp [ih, List.replicate_succ]
  | case2 => cases hashes <;> simp [List.replicate_succ]
  | case3 b bs h =>
    have : ¬ (b ≠ 95 ∧ (isAlnum b → b = 98)) := by
      rintro ⟨hword, halnum⟩
      have h : isAlnum b ∧ b ≠ 98 := by simpa [hword] using h
      exact h.2 (halnum h.1)
    cases hashes with
    | zero => simpa using this
    | succ k => simp [List.replicate_succ]
  | case4 b bs h =>
    have : b ≠ 95 ∧ (isAlnum b → b = 98) := by simpa using h
    cases hashes with
    | zero => simpa using this
    | succ k => simp [List.replicate_succ]
  | case5 bs hhash hend hword =>
    simp only [reduceCtorEq, false_iff]
    rintro ⟨front, rfl, -⟩
    cases hashes with
    | zero =>
      cases front with
      | nil => exact hend rfl
      | cons b front => exact hword b front rfl
    | succ k => exact hhash _ rfl

theorem rawHashes?_reverse_eq_some_iff {before : Bytes} {hashes : Nat} :
    rawHashes? before.reverse = some hashes ↔ OpensRaw before hashes := by
  rw [rawHashes?_eq_some, OpensRaw]
  constructor
  · rintro ⟨front, hbefore, hfront⟩
    refine ⟨front.reverse, ?_, by simpa using hfront⟩
    simpa using congrArg List.reverse hbefore
  · rintro ⟨front, rfl, hfront⟩
    exact ⟨front.reverse, by simp, by simpa using hfront⟩

end PieceKind

end InlineAssert
