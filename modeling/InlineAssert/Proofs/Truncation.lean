import InlineAssert.Proofs.Encoding
import InlineAssert.Proofs.Reporting

namespace InlineAssert

namespace Bytes

def ofStrings (texts : List String) : Bytes := texts.flatMap ofString

@[simp] theorem ofStrings_nil : ofStrings [] = [] := rfl

@[simp] theorem ofStrings_cons (text : String) (texts : List String) :
    ofStrings (text :: texts) = ofString text ++ ofStrings texts := rfl

end Bytes

open Bytes

namespace Writer

variable {ε : Type}

theorem writeAll_unlimited (out : Bytes) (texts : List String) :
    (unlimited : Writer Bytes ε).writeAll out texts = (none, out ++ ofStrings texts) := by
  induction texts generalizing out with
  | nil => simp [writeAll]
  | cons text texts ih =>
    rw [writeAll_cons rfl, ih, ofStrings_cons, List.append_assoc]

variable (limit : Nat) (full : ε)

def overflow (bytes : Bytes) : Option ε := if bytes.length ≤ limit then none else some full

theorem overflow_append_of_overflow {u : Bytes} (h : ¬ u.length ≤ limit) (v : Bytes) :
    overflow limit full (u ++ v) = some full := by
  rw [overflow, if_neg]
  rw [List.length_append]
  omega

/-- Where a sink holds what fits of `out`, it holds what fits of `out` and a text once the text is
written, and it has failed by then exactly if something does not fit. -/
theorem write_limited (out : Bytes) (text : String) :
    (overflow limit full out).or ((limited limit full).write (out.take limit) text).1 =
        overflow limit full (out ++ ofString text) ∧
      ((limited limit full).write (out.take limit) text).2 =
        (out ++ ofString text).take limit := by
  -- what the sink holds has the room that the whole would have
  have hroom : limit - (out.take limit).length = limit - out.length := by
    rw [List.length_take]
    omega
  simp only [limited, hroom, List.take_append, and_true]
  by_cases hout : out.length ≤ limit
  · have hfits : (ofString text).length ≤ limit - out.length ↔
        (out ++ ofString text).length ≤ limit := by
      rw [List.length_append]
      omega
    simp only [overflow, if_pos hout, Option.none_or, hfits]
  · rw [overflow_append_of_overflow limit full hout, overflow, if_neg hout, Option.some_or]

theorem writeAll_limited (out : Bytes) (texts : List String) :
    (overflow limit full out).or ((limited limit full).writeAll (out.take limit) texts).1 =
        overflow limit full (out ++ ofStrings texts) ∧
      ((limited limit full).writeAll (out.take limit) texts).2 =
        (out ++ ofStrings texts).take limit := by
  induction texts generalizing out with
  | nil => simp [writeAll]
  | cons text texts ih =>
    obtain ⟨herror, hout⟩ := write_limited limit full out text
    have hlater := ih (out ++ ofString text)
    rw [ofStrings_cons, ← List.append_assoc]
    -- A full sink still takes an empty text, so the cases are those of the write, not of the room.
    rcases hwrite : (limited limit full).write (out.take limit) text with ⟨_ | error, out'⟩
    · rw [hwrite] at herror hout
      obtain rfl : out' = (out ++ ofString text).take limit := hout
      rw [writeAll_cons hwrite, ← Option.or_none (o := overflow limit full out), herror]
      exact hlater
    · rw [hwrite] at herror hout
      obtain rfl : out' = (out ++ ofString text).take limit := hout
      have hfull : ¬ (out ++ ofString text).length ≤ limit := by
        intro hfits
        have hnone : overflow limit full (out ++ ofString text) = none := if_pos hfits
        simp [hnone] at herror
      rw [writeAll_cons_of_error hwrite, herror, overflow_append_of_overflow limit full hfull,
        overflow, if_neg hfull]
      exact ⟨rfl, (List.take_append_of_le_length (Nat.le_of_not_le hfull)).symm⟩

end Writer

namespace Console

open Writer (limited unlimited overflow)

variable {ε : Type} (limit : Nat) (full : ε)

def cut (c : Console Bytes ε) : Console Bytes ε :=
  { c with out := c.out.take limit, error := overflow limit full c.out }

theorem add_cut (c : Console Bytes ε) (e : Event) :
    (c.cut limit full).add (limited limit full) e = (c.add unlimited e).cut limit full := by
  obtain ⟨herror, hout⟩ := Writer.writeAll_limited limit full c.out
    (eventTexts c.verbose c.depth e)
  simp only [add, cut, Writer.writeAll_unlimited, herror, hout]

theorem addAll_cut (c : Console Bytes ε) (events : List Event) :
    (c.cut limit full).addAll (limited limit full) events =
      (c.addAll unlimited events).cut limit full :=
  List.foldl_hom (cut limit full) (add_cut limit full)

theorem error_addAll_unlimited {c : Console Bytes ε} (h : c.error = none) (events : List Event) :
    (c.addAll unlimited events).error = none := by
  induction events generalizing c with
  | nil => exact h
  | cons e events ih =>
    refine ih (c := c.add unlimited e) ?_
    rw [add, Writer.writeAll_unlimited, h]
    rfl

theorem finish_unlimited {c : Console Bytes ε} (h : c.error = none) :
    c.finish unlimited =
      (.ok c.report, c.out ++ ofStrings (summaryTexts c.report.summary)) := by
  simp only [finish, h, Writer.writeAll_unlimited]

theorem finish_cut {c : Console Bytes ε} (h : c.error = none) :
    let written := (c.finish unlimited).2
    (c.cut limit full).finish (limited limit full) =
      (if written.length ≤ limit then .ok c.report else .error full, written.take limit) := by
  intro written
  have hwritten : written = c.out ++ ofStrings (summaryTexts c.report.summary) :=
    congrArg Prod.snd (finish_unlimited h)
  obtain ⟨herror, hout⟩ := Writer.writeAll_limited limit full c.out
    (summaryTexts c.report.summary)
  rw [← hwritten] at herror hout
  by_cases hhooks : c.out.length ≤ limit
  · rw [overflow, if_pos hhooks, Option.none_or, overflow] at herror
    simp only [finish, cut, overflow, if_pos hhooks]
    rw [← Prod.mk.eta (p := (limited limit full).writeAll _ _), herror, hout]
    split_ifs <;> rfl
  · have hfull : ¬ written.length ≤ limit := by
      rw [hwritten, List.length_append]
      omega
    simp only [finish, cut, overflow, if_neg hhooks, if_neg hfull]
    rw [hwritten, List.take_append_of_le_length (Nat.le_of_not_le hhooks)]

/-- On a sink of `limit` bytes a console writes the first `limit` bytes of what it writes on one
that takes everything, and hands back the same report exactly if that is all of it. -/
theorem finish_limited (verbose : Bool) (events : List Event) :
    let report := RunReport.ofEvents events
    let whole :=
      finish (unlimited : Writer Bytes ε) (addAll unlimited { verbose, out := [] } events)
    whole.1 = .ok report ∧
      finish (limited limit full) (addAll (limited limit full) { verbose, out := [] } events) =
        (if whole.2.length ≤ limit then .ok report else .error full, whole.2.take limit) := by
  intro report whole
  have herror := error_addAll_unlimited (ε := ε) (c := { verbose, out := [] }) rfl events
  have hreport : (addAll (unlimited : Writer Bytes ε) { verbose, out := [] } events).report =
      report := report_addAll _ _ events
  refine ⟨?_, ?_⟩
  · rw [← hreport]
    exact congrArg Prod.fst (finish_unlimited herror)
  · have hcut := addAll_cut limit full { verbose, out := [] } events
    have hstart : cut limit full { verbose, out := [] } = { verbose, out := [] } := by
      simp [cut, overflow]
    rw [hstart] at hcut
    rw [hcut, finish_cut limit full herror, hreport]

end Console

end InlineAssert
