import InlineAssert.Bytes
import InlineAssert.Report

namespace InlineAssert

structure Writer (σ ε : Type) where
  write : σ → String → Option ε × σ

namespace Writer

variable {σ ε : Type}

def writeAll (w : Writer σ ε) (out : σ) : List String → Option ε × σ
  | [] => (none, out)
  | text :: texts =>
    match w.write out text with
    | (some error, out) => (some error, out)
    | (none, out) => writeAll w out texts

def unlimited : Writer Bytes ε where
  write out text := (none, out ++ Bytes.ofString text)

def limited (limit : Nat) (full : ε) : Writer Bytes ε where
  write out text :=
    let bytes := Bytes.ofString text
    let room := limit - out.length
    (if bytes.length ≤ room then none else some full, out ++ bytes.take room)

end Writer

structure Console (σ ε : Type) where
  verbose : Bool
  out : σ
  depth : Nat := 0
  report : RunReport := {}
  error : Option ε := none

namespace Console

variable {σ ε : Type}

def header (verbose : Bool) (depth : Nat) (r : CaseReport) : List String :=
  let name := r.path.getLast?.getD r.id
  match verbose, r.passed with
  | true, true => [Text.indent depth, "ok     ", name, "\n"]
  | true, false => [Text.indent depth, "FAILED ", name, " (", r.id, ")\n"]
  | false, _ => ["FAILED ", r.displayPath, " (", r.id, ")\n"]

def detail (indent : String) (r : CaseReport) : List String :=
  r.detail.flatMap fun line => [indent, line, "\n"]

def caseTexts (verbose : Bool) (depth : Nat) (r : CaseReport) : List String :=
  if verbose then
    let indent := Text.indent depth ++ "    "
    header true depth r ++ detail indent r ++
      r.notes.flatMap fun note => [indent, "note: ", note, "\n"]
  else if r.passed then []
  else header false depth r ++ detail "    " r

def eventTexts (verbose : Bool) (depth : Nat) : Event → List String
  -- each part of a line is a write of its own
  | .enter segment => if verbose then [Text.indent depth, segment, "/\n"] else []
  | .case r => caseTexts verbose depth r
  | .exit _ | .filtered _ => []

def depthAfter (depth : Nat) : Event → Nat
  | .enter _ => depth + 1
  | .exit _ => depth - 1
  | .case _ | .filtered _ => depth

def add (w : Writer σ ε) (c : Console σ ε) (e : Event) : Console σ ε :=
  let (error, out) := w.writeAll c.out (eventTexts c.verbose c.depth e)
  { c with
    out
    depth := depthAfter c.depth e
    report := c.report.add e
    error := c.error.or error }

def addAll (w : Writer σ ε) (c : Console σ ε) (events : List Event) : Console σ ε :=
  events.foldl (add w) c

def summaryTexts (s : Summary) : List String :=
  ["\n", "Test Summary:\n",
    "  ", toString s.passed, " passed, ", toString s.failed, " failed, ",
    toString s.filtered, " filtered (", toString s.total, " total)\n",
    "\n",
    if s.hasFailures then "FAILED\n" else if s.total = 0 then "NO TEST CASES\n" else "OK\n"]

def finish (w : Writer σ ε) (c : Console σ ε) : Except ε RunReport × σ :=
  match c.error with
  | some error => (.error error, c.out)
  | none =>
    match w.writeAll c.out (summaryTexts c.report.summary) with
    | (some error, out) => (.error error, out)
    | (none, out) => (.ok c.report, out)

end Console

end InlineAssert
