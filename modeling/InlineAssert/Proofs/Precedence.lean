import InlineAssert.Proofs.Lines
import InlineAssert.Proofs.Merge
import Mathlib.Data.Option.Basic

namespace InlineAssert

namespace Mention

def of? (path : String) (source : Bytes) (c : Comment) : Option Mention := do
  guard (c.kind = .line)
  let directive ← Directive.read? c.text
  let line := (LineTable.ofBytes source).lineOf c.offset
  let text := (((LineTable.ofBytes source).line? source line).map Bytes.text).getD c.text
  return (directive, ⟨path, baseName path, line, text⟩)

inductive Recognized (path : String) (source : Bytes) : List Comment → List Mention → Prop
  | nil : Recognized path source [] []
  | block : c.kind = .block → Recognized path source cs as → Recognized path source (c :: cs) as
  | other : c.kind = .line → Directive.read? c.text = none → Recognized path source cs as →
      Recognized path source (c :: cs) as
  | directive : c.kind = .line → Directive.read? c.text = some d →
      (LineTable.ofBytes source).lineOf c.offset = line →
      (LineTable.ofBytes source).line? source line = some (Bytes.ofString text) →
      Recognized path source cs as →
      Recognized path source (c :: cs) ((d, ⟨path, baseName path, line, text⟩) :: as)

theorem exists_text_lineOf (source : String) (offset : Nat) :
    ∃ text, (LineTable.ofBytes (Bytes.ofString source)).line? (Bytes.ofString source)
      ((LineTable.ofBytes (Bytes.ofString source)).lineOf offset) =
        some (Bytes.ofString text) := by
  rw [Bytes.ofString_eq source]
  obtain ⟨line, hline⟩ := LineTable.exists_line?_lineOf source.toList offset
  exact ⟨String.ofList line, by rw [hline, Bytes.ofString_ofList]⟩

variable {path : String}

section Of

variable {source : Bytes} {c : Comment}

theorem of?_block (hkind : c.kind = .block) : of? path source c = none := by
  rw [of?, hkind]
  rfl

theorem of?_other (hread : Directive.read? c.text = none) : of? path source c = none := by
  cases hkind : c.kind with
  | block => exact of?_block hkind
  | line =>
    rw [of?, hread]
    simp [hkind]

theorem of?_directive {d : Directive} {text : String} (hkind : c.kind = .line)
    (hread : Directive.read? c.text = some d)
    (htext : (LineTable.ofBytes source).line? source ((LineTable.ofBytes source).lineOf c.offset) =
      some (Bytes.ofString text)) :
    of? path source c =
      some (d, ⟨path, baseName path, (LineTable.ofBytes source).lineOf c.offset, text⟩) := by
  simp [of?, hkind, hread, htext]

end Of

theorem recognized_iff {source : String} {cs : List Comment} {as : List Mention} :
    Recognized path (Bytes.ofString source) cs as ↔
      cs.filterMap (of? path (Bytes.ofString source)) = as := by
  constructor
  · intro h
    induction h with
    | nil => rfl
    | block hkind _ ih => rw [List.filterMap_cons_none (of?_block hkind), ih]
    | other _ hread _ ih => rw [List.filterMap_cons_none (of?_other hread), ih]
    | directive hkind hread hline htext _ ih =>
      subst hline
      rw [List.filterMap_cons_some (of?_directive hkind hread htext), ih]
  · rintro rfl
    induction cs with
    | nil => exact .nil
    | cons c cs ih =>
      cases hkind : c.kind with
      | block =>
        rw [List.filterMap_cons_none (of?_block hkind)]
        exact .block hkind ih
      | line =>
        cases hread : Directive.read? c.text with
        | none =>
          rw [List.filterMap_cons_none (of?_other hread)]
          exact .other hkind hread ih
        | some d =>
          obtain ⟨text, htext⟩ := exists_text_lineOf source c.offset
          rw [List.filterMap_cons_some (of?_directive hkind hread htext)]
          exact .directive hkind hread rfl htext ih

end Mention

namespace Table

inductive Applies : Table → List Mention → Table → Prop
  | nil : Applies t [] t
  | cons : t.apply a.1 a.2 = .ok (t', i) → Applies t' as t'' → Applies t (a :: as) t''

inductive Outcome (path : String) (t : Table) (as : List Mention) (failure : Option ScanError) :
    Table → Except ParseError Nat → Prop
  | refused : as = done ++ a :: later → Applies t done t' → t'.apply a.1 a.2 = .error error →
      Outcome path t as failure t' (.error error)
  | unended : Applies t as t' → failure = some error →
      Outcome path t as failure t' (.error (.scan path error))
  | ok : Applies t as t' → failure = none → Outcome path t as failure t' (.ok as.length)

/-- A loop over the pieces of `rest` that applies each directive when its comment has been read,
before it looks for the next piece. -/
def mergeFrom (path : String) (source : Bytes) (t : Table) (before : Bytes) (offset : Nat) :
    (skip : Nat) → (rest : Bytes) → (applied : Nat) → Table × Except ParseError Nat
  | _, [], applied => (t, .ok applied)
  | skip + 1, b :: bs, applied =>
    mergeFrom path source t (b :: before) (offset + 1) skip bs applied
  | 0, b :: bs, applied =>
    let kind := PieceKind.start before (b :: bs)
    match kind.tail? (b :: bs) with
    | none => (t, .error (.scan path (kind.failure (min (before.count newline + 1) lineLimit))))
    | some n =>
      match (Piece.comment? ⟨kind, offset, b :: bs.take n⟩).bind (Mention.of? path source) with
      | none => mergeFrom path source t (b :: before) (offset + 1) n bs applied
      | some a =>
        match t.apply a.1 a.2 with
        | .error error => (t, .error error)
        | .ok (t, _) => mergeFrom path source t (b :: before) (offset + 1) n bs (applied + 1)

def mergeAll (path : String) (t : Table) (as : List Mention) (failure : Option ScanError)
    (applied : Nat) : Table × Except ParseError Nat :=
  ((t.applyAll as).1, do
    let n ← (t.applyAll as).2
    match failure with
    | some error => .error (.scan path error)
    | none => return applied + n)

variable {path : String} {t t' : Table} {a : Mention} {as : List Mention}
  {failure : Option ScanError}

theorem mergeAll_of_error {e : ParseError} (h : t.apply a.1 a.2 = .error e) (applied : Nat) :
    mergeAll path t (a :: as) failure applied = (t, .error e) := by
  simp only [mergeAll, applyAll, h]
  rfl

theorem mergeAll_of_ok {i : Nat} (h : t.apply a.1 a.2 = .ok (t', i)) (applied : Nat) :
    mergeAll path t (a :: as) failure applied = mergeAll path t' as failure (applied + 1) := by
  simp only [mergeAll, applyAll, h]
  cases (t'.applyAll as).2 with
  | error e => rfl
  | ok n =>
    have hcount : applied + (n + 1) = applied + 1 + n := by omega
    cases failure with
    | some error => rfl
    | none => exact congrArg (fun m => (_, Except.ok m)) hcount

theorem mergeFrom_eq (path : String) (source : Bytes) (t : Table) (before : Bytes)
    (offset skip : Nat) (rest : Bytes) (applied : Nat) :
    mergeFrom path source t before offset skip rest applied =
      let s := Scan.after before offset skip rest
      mergeAll path t (s.comments.filterMap (Mention.of? path source)) s.failure applied := by
  -- both skip, take a piece or stop at the same bytes
  induction rest generalizing t before offset skip applied with
  | nil => cases skip <;> rfl
  | cons b rest ih =>
    cases skip with
    | succ skip => exact ih t (b :: before) (offset + 1) skip applied
    | zero =>
      rw [mergeFrom, Scan.after]
      cases htail : (PieceKind.start before (b :: rest)).tail? (b :: rest) with
      | none => rfl
      | some n =>
        have hlater := fun t => ih t (b :: before) (offset + 1) n
        simp only [Scan.comments, List.filterMap_cons, hlater]
        cases Piece.comment? ⟨PieceKind.start before (b :: rest), offset, b :: rest.take n⟩ with
        | none => rfl
        | some c =>
          simp only [Option.bind_some, List.filterMap_cons]
          cases Mention.of? path source c with
          | none => rfl
          | some a =>
            cases happly : t.apply a.1 a.2 with
            | error e => simp only [happly, mergeAll_of_error happly]
            | ok r => simp only [happly, mergeAll_of_ok happly]

theorem readSource_eq_mergeFrom (t : Table) (path source : String) :
    t.readSource path source =
      mergeFrom path (Bytes.ofString source) t [] 0 0 (Bytes.ofString source) 0 := by
  rw [mergeFrom_eq]
  simp only [mergeAll, Nat.zero_add]
  rfl

theorem applyAll_eq_ok_iff {n : Nat} :
    t.applyAll as = (t', .ok n) ↔ Applies t as t' ∧ as.length = n := by
  induction as generalizing t n with
  | nil =>
    constructor
    · intro h
      cases h
      exact ⟨.nil, rfl⟩
    · rintro ⟨⟨⟩, rfl⟩
      rfl
  | cons a as ih =>
    constructor
    · intro h
      cases happly : t.apply a.1 a.2 with
      | error e => simp [applyAll, happly] at h
      | ok r =>
        simp only [applyAll, happly, Prod.mk.injEq, Except.map_eq_ok_iff] at h
        obtain ⟨ht, m, hm, rfl⟩ := h
        obtain ⟨happlies, rfl⟩ := ih.1 (Prod.ext ht hm)
        exact ⟨.cons happly happlies, rfl⟩
    · rintro ⟨happlies, rfl⟩
      cases happlies with
      | cons happly happlies =>
        simp only [applyAll, happly, ih.2 ⟨happlies, rfl⟩]
        rfl

theorem applyAll_eq_error_iff {error : ParseError} :
    t.applyAll as = (t', .error error) ↔ ∃ done a later, as = done ++ a :: later ∧
      Applies t done t' ∧ t'.apply a.1 a.2 = .error error := by
  induction as generalizing t with
  | nil => simp [applyAll]
  | cons a as ih =>
    constructor
    · intro h
      cases happly : t.apply a.1 a.2 with
      | error e =>
        simp only [applyAll, happly, Prod.mk.injEq] at h
        obtain ⟨rfl, rfl⟩ : t = t' ∧ e = error := by simpa using h
        exact ⟨[], a, as, rfl, .nil, happly⟩
      | ok r =>
        simp only [applyAll, happly, Prod.mk.injEq, Except.map_eq_error_iff] at h
        obtain ⟨done, b, later, rfl, happlies, hfails⟩ := ih.1 (Prod.ext h.1 h.2)
        exact ⟨a :: done, b, later, rfl, .cons happly happlies, hfails⟩
    · rintro ⟨done, b, later, has, happlies, hfails⟩
      cases happlies with
      | nil =>
        obtain ⟨rfl, rfl⟩ := List.cons.inj has
        simp only [applyAll, hfails]
      | cons happly happlies =>
        obtain ⟨rfl, rfl⟩ := List.cons.inj has
        simp only [applyAll, happly, ih.2 ⟨_, b, later, rfl, happlies, hfails⟩]
        rfl

theorem outcome_iff {r : Except ParseError Nat} :
    mergeAll path t as failure 0 = (t', r) ↔ Outcome path t as failure t' r := by
  constructor
  · intro h
    obtain ⟨rfl, rfl⟩ := Prod.mk.inj h
    cases hresult : (t.applyAll as).2 with
    | error e =>
      obtain ⟨done, a, later, has, happlies, hfails⟩ :=
        applyAll_eq_error_iff.1 (Prod.ext rfl hresult)
      exact .refused has happlies hfails
    | ok n =>
      obtain ⟨happlies, rfl⟩ := applyAll_eq_ok_iff.1 (Prod.ext rfl hresult)
      cases failure with
      | some error => exact .unended happlies rfl
      | none =>
        change Outcome path t as none _ (.ok (0 + as.length))
        rw [Nat.zero_add]
        exact .ok happlies rfl
  · intro h
    cases h with
    | refused has happlies hfails =>
      rw [mergeAll, applyAll_eq_error_iff.2 ⟨_, _, _, has, happlies, hfails⟩]
      rfl
    | unended happlies hfailure =>
      rw [mergeAll, applyAll_eq_ok_iff.2 ⟨happlies, rfl⟩, hfailure]
      rfl
    | ok happlies hfailure =>
      simp only [mergeAll, applyAll_eq_ok_iff.2 ⟨happlies, rfl⟩, hfailure, Nat.zero_add]
      rfl

/-- Directives take effect one by one while the source is scanned. The first that fails is reported,
else the piece that does not end, else the number of directives; and the table is the one that the
directives before that have made. -/
theorem readSource_iff_outcome (t : Table) (path source : String) :
    let bytes := Bytes.ofString source
    let scan := Scan.ofBytes bytes
    t.readSource path source = mergeFrom path bytes t [] 0 0 bytes 0 ∧
      ∃ as, (∀ bs, Mention.Recognized path bytes scan.comments bs ↔ bs = as) ∧
        ∀ t' r, t.readSource path source = (t', r) ↔ Outcome path t as scan.failure t' r := by
  intro bytes scan
  have hloop := readSource_eq_mergeFrom t path source
  refine ⟨hloop, scan.comments.filterMap (Mention.of? path bytes), fun bs => ?_, fun t' r => ?_⟩
  · rw [Mention.recognized_iff, eq_comm]
  · rw [hloop, mergeFrom_eq]
    exact outcome_iff

end Table

end InlineAssert
