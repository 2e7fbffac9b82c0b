import InlineAssert.Proofs.Listing

namespace InlineAssert

namespace CaseReport

def failureBlock (lead : String) (r : CaseReport) : String :=
  lead ++ r.displayPath ++ " (" ++ r.id ++ ")\n" ++
    String.join (r.failures.flatMap fun f => f.lines.map fun line => "    " ++ line ++ "\n")

def failureBlocks (lead : String) (failed : List CaseReport) : String :=
  String.join (failed.map (failureBlock lead))

variable (lead : String) (r : CaseReport)

theorem failureBlock_eq :
    r.failureBlock lead =
      lead ++ r.displayPath ++ " (" ++ r.id ++ ")\n" ++
        String.join (r.detail.map fun line => "    " ++ line ++ "\n") := by
  rw [failureBlock, detail, List.map_flatMap]

theorem failureBlock_ne : r.failureBlock lead ≠ "" := by
  intro h
  have hlength := congrArg String.length h
  simp [failureBlock, String.length_append] at hlength

theorem failureBlocks_eq_empty_iff {failed : List CaseReport} :
    failureBlocks lead failed = "" ↔ failed = [] := by
  cases failed with
  | nil => simp [failureBlocks]
  | cons r rs => simp [failureBlocks, r.failureBlock_ne]

end CaseReport

open CaseReport (failureBlock failureBlocks)

def Event.failed? : Event → Option CaseReport
  | .case r => if r.failures = [] then none else some { r with notes := [] }
  | .enter _ | .exit _ | .filtered _ => none

theorem Event.failures_ne_of_failed? {e : Event} {r : CaseReport} (h : e.failed? = some r) :
    r.failures ≠ [] := by
  cases e with
  | enter | exit | filtered => cases h
  | case report =>
    by_cases hr : report.failures = []
    · simp [failed?, hr] at h
    · rw [failed?, if_neg hr] at h
      cases h
      exact hr

namespace Writer

variable {σ ε : Type} {w : Writer σ ε}

def NeverFails (w : Writer σ ε) : Prop := ∀ out text, (w.write out text).1 = none

def fed (w : Writer σ ε) (out : σ) (texts : List String) : σ :=
  texts.foldl (fun out text => (w.write out text).2) out

theorem fed_append (w : Writer σ ε) (out : σ) (texts texts' : List String) :
    w.fed out (texts ++ texts') = w.fed (w.fed out texts) texts' := List.foldl_append

theorem NeverFails.writeAll_eq (h : w.NeverFails) (out : σ) (texts : List String) :
    w.writeAll out texts = (none, w.fed out texts) := by
  induction texts generalizing out with
  | nil => rfl
  | cons text texts ih =>
    have hwrite : w.write out text = (none, (w.write out text).2) := Prod.ext (h out text) rfl
    rw [writeAll_cons hwrite, ih]
    rfl

theorem neverFails_unlimited : (unlimited : Writer Bytes ε).NeverFails := fun _ _ => rfl

theorem fed_unlimited (out : Bytes) (texts : List String) :
    (unlimited : Writer Bytes ε).fed out texts = out ++ Bytes.ofString (String.join texts) := by
  have h := neverFails_unlimited.writeAll_eq (ε := ε) out texts
  rw [writeAll_unlimited, Bytes.ofStrings_eq] at h
  exact (Prod.mk.inj h).2.symm

end Writer

namespace Console

variable {σ ε : Type} {w : Writer σ ε}

theorem eventTexts_quiet (depth : Nat) (e : Event) :
    eventTexts false depth e = e.failed?.toList.flatMap (caseTexts false 0) := by
  cases e with
  | enter | exit | filtered => rfl
  | case r =>
    by_cases hr : r.failures = []
    · simp [eventTexts, caseTexts, Event.failed?, CaseReport.passed, hr]
    · rw [Event.failed?, if_neg hr, Option.toList_some, List.flatMap_singleton]
      rfl

theorem out_addAll_quiet (hw : w.NeverFails) {c : Console σ ε} (hc : c.verbose = false)
    (events : List Event) :
    (c.addAll w events).out =
      w.fed c.out ((events.filterMap Event.failed?).flatMap (caseTexts false 0)) := by
  induction events generalizing c with
  | nil => rfl
  | cons e events ih =>
    have hadd : (c.add w e).out = w.fed c.out (e.failed?.toList.flatMap (caseTexts false 0)) := by
      rw [add, hw.writeAll_eq, hc, eventTexts_quiet]
    refine (ih (c := c.add w e) hc).trans ?_
    rw [hadd, ← Writer.fed_append, ← List.flatMap_append]
    cases h : e.failed? <;> simp [h]

theorem join_caseTexts_quiet {r : CaseReport} (h : r.failures ≠ []) :
    String.join (caseTexts false 0 r) = failureBlock "FAILED " r := by
  have hfailed : r.passed = false := by simpa [CaseReport.passed] using h
  rw [caseTexts, if_neg Bool.false_ne_true, hfailed, if_neg Bool.false_ne_true, String.join_append,
    detail, Row.join_flatMap, CaseReport.failureBlock_eq]
  simp [header, String.append_assoc]

theorem join_texts_quiet (events : List Event) :
    String.join ((events.filterMap Event.failed?).flatMap (caseTexts false 0)) =
      failureBlocks "FAILED " (events.filterMap Event.failed?) := by
  rw [Row.join_flatMap, failureBlocks]
  congr 1
  apply List.map_congr_left
  intro r hr
  obtain ⟨e, -, he⟩ := List.mem_filterMap.1 hr
  exact join_caseTexts_quiet (Event.failures_ne_of_failed? he)

end Console

namespace RunReport

theorem failed?_events (events : List Event) :
    events.filterMap Event.failed? =
      (ofEvents events).failedCases.map fun r => { r with notes := [] } := by
  rw [failedCases, cases_ofEvents, ← List.filterMap_eq_filter, List.filterMap_filterMap,
    List.map_filterMap]
  apply List.filterMap_congr
  intro e _
  cases e with
  | enter | exit | filtered => rfl
  | case r =>
    by_cases hr : r.failures = [] <;>
      simp [Event.failed?, Event.report?, CaseReport.passed, Option.guard, hr]

theorem failureText_ofEvents (events : List Event) :
    (ofEvents events).failureText =
      failureBlocks "--- FAIL: " (events.filterMap Event.failed?) := by
  rw [failureText, failureBlocks, failed?_events, Row.join_flatMap, List.map_map]
  congr 1
  apply List.map_congr_left
  intro r _
  rw [Function.comp_apply, String.join_cons, ← CaseReport.failureBlock_eq]
  rfl

theorem passed_ofEvents_iff (events : List Event) :
    (ofEvents events).passed ↔ events.filterMap Event.failed? = [] := by
  rw [(counted_ofEvents events).passed_iff, failed?_events, List.map_eq_nil_iff, failedCases,
    List.filter_eq_nil_iff]
  simp [CaseReport.passed]

theorem passed_iff_verdict (r : RunReport) : r.passed ↔ r.verdict = none := by
  rw [verdict]
  split_ifs with h <;> simp [h]

end RunReport

end InlineAssert
