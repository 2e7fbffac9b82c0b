import InlineAssert.Outline
import InlineAssert.Proofs.Tour
import InlineAssert.Proofs.Truncation

namespace InlineAssert

open Bytes

inductive Row : Type
  | group : (depth : Nat) → (segment : String) → Row
  | leaf : (depth : Nat) → Place → Row

structure Block where
  text : String
  report? : Option CaseReport := none

namespace Row

def line : Row → String
  | .group depth segment => Text.indent depth ++ segment ++ "/\n"
  | .leaf depth place =>
    Text.indent depth ++ place.2.name ++ " (" ++ place.2.id ++ ")" ++ place.2.assertions ++ "\n"

def isSelected (context : Context) : Row → Bool
  | .group .. => true
  | .leaf _ place => context.config.selects place.path

def firstLine (depth : Nat) (place : Place) (passed : Bool) : String :=
  Text.indent depth ++ (if passed then "ok     " ++ place.2.name
    else "FAILED " ++ place.2.name ++ " (" ++ place.2.id ++ ")") ++ "\n"

def details (depth : Nat) (r : CaseReport) : String :=
  String.join (r.detail.map fun line => Text.indent depth ++ "    " ++ line ++ "\n") ++
    String.join (r.notes.map fun note => Text.indent depth ++ "    " ++ "note: " ++ note ++ "\n")

def caseBlock (depth : Nat) (place : Place) (r : CaseReport) : Block where
  text := firstLine depth place r.passed ++ details depth r
  report? := some r

/-- A group is shown by its line in the outline, a selected case by a block of lines. -/
inductive ShownAs (context : Context) : Row → Block → Prop
  | group {depth : Nat} {segment : String} :
      ShownAs context (.group depth segment) { text := (Row.group depth segment).line }
  | leaf (answer : Option (Option Measurement)) :
      ShownAs context (.leaf depth place)
        (caseBlock depth place (Place.check context (place, answer)))

theorem join_flatMap {α : Type} (f : α → List String) (as : List α) :
    String.join (as.flatMap f) = String.join (as.map fun a => String.join (f a)) := by
  induction as with
  | nil => rfl
  | cons a as ih =>
    rw [List.flatMap_cons, String.join_append, ih, List.map_cons, String.join_cons]

theorem join_caseTexts (depth : Nat) (context : Context) (place : Place)
    (answer : Option (Option Measurement)) :
    let report := Place.check context (place, answer)
    String.join (Console.caseTexts true depth report) =
      firstLine depth place report.passed ++ details depth report := by
  intro report
  obtain ⟨hid, hpath⟩ : report.id = place.2.id ∧ report.path = place.path :=
    place.2.check_about context answer place.path
  have hname : report.path.getLast? = some place.2.name := by simp [hpath, Place.path]
  have hheader : String.join (Console.header true depth report) =
      firstLine depth place report.passed := by
    rw [firstLine]
    cases hpassed : report.passed <;>
      simp [Console.header, hpassed, hname, hid, String.append_assoc]
  rw [Console.caseTexts, if_pos rfl, String.join_append, String.join_append, hheader, details,
    String.append_assoc, Console.detail, join_flatMap, join_flatMap]
  simp only [String.join_cons, String.join_nil, String.append_empty, String.append_assoc]

end Row

namespace Node

mutual

def rows (path : List String) : Node → List Row
  | .mk ⟨es⟩ ls => rowsAll path es ++ ls.map fun c => .leaf path.length (path, c)

def rowsAll (path : List String) : List (String × Node) → List Row
  | [] => []
  | (segment, n) :: es =>
    .group path.length segment :: rows (path ++ [segment]) n ++ rowsAll path es

end

mutual

theorem outline_eq_rows (path : List String) : (n : Node) →
    n.outline path.length = (n.rows path).map Row.line
  | .mk ⟨es⟩ ls => by
    rw [outline, rows, List.map_append, outlineAll_eq_rowsAll path es, List.map_map]
    rfl

theorem outlineAll_eq_rowsAll (path : List String) : (es : List (String × Node)) →
    outlineAll path.length es = (rowsAll path es).map Row.line
  | [] => by simp [outlineAll, rowsAll]
  | (segment, n) :: es => by
    have hinside := outline_eq_rows (path ++ [segment]) n
    rw [List.length_append] at hinside
    rw [outlineAll, rowsAll, List.map_append, List.map_cons, ← outlineAll_eq_rowsAll path es,
      ← hinside]
    rfl

end

end Node

theorem Bytes.ofStrings_eq (texts : List String) :
    ofStrings texts = ofString (String.join texts) := by
  induction texts with
  | nil => rfl
  | cons text texts ih => rw [ofStrings_cons, ih, String.join_cons, ofString_append]

namespace Console

variable {ε : Type}

def shown (depth : Nat) : List Event → String
  | [] => ""
  | e :: events => String.join (eventTexts true depth e) ++ shown (depthAfter depth e) events

theorem shown_append (depth : Nat) (as bs : List Event) :
    shown depth (as ++ bs) = shown depth as ++ shown (as.foldl depthAfter depth) bs := by
  induction as generalizing depth with
  | nil => simp [shown]
  | cons e as ih => simp only [List.cons_append, shown, ih, List.foldl_cons, String.append_assoc]

theorem addAll_unlimited {c : Console Bytes ε} (h : c.verbose = true) (events : List Event) :
    (c.addAll .unlimited events).out = c.out ++ ofString (shown c.depth events) ∧
      (c.addAll .unlimited events).depth = events.foldl depthAfter c.depth := by
  induction events generalizing c with
  | nil => exact ⟨(List.append_nil _).symm, rfl⟩
  | cons e events ih =>
    obtain ⟨hout, hdepth⟩ := ih (c := c.add .unlimited e) h
    refine ⟨hout.trans ?_, hdepth⟩
    rw [shown, ofString_append, ← ofStrings_eq, ← List.append_assoc, add, Writer.writeAll_unlimited,
      h]

end Console

structure Event.Show (context : Context) (depth : Nat) (rows : List Row) (events : List Event) :
    Prop where
  blocks : ∃ blocks : List Block,
    List.Forall₂ (Row.ShownAs context) (rows.filter (Row.isSelected context)) blocks ∧
      Console.shown depth events = String.join (blocks.map Block.text) ∧
      events.filterMap Event.report? = blocks.filterMap Block.report?
  depth_eq : events.foldl Console.depthAfter depth = depth

namespace Event.Show

variable {context : Context} {depth : Nat}

theorem nil : Show context depth [] [] := ⟨⟨[], .nil, rfl, rfl⟩, rfl⟩

theorem append {rows rows' : List Row} {events events' : List Event}
    (h : Show context depth rows events) (h' : Show context depth rows' events') :
    Show context depth (rows ++ rows') (events ++ events') := by
  obtain ⟨⟨blocks, hshown, htext, hreports⟩, hdepth⟩ := h
  obtain ⟨⟨blocks', hshown', htext', hreports'⟩, hdepth'⟩ := h'
  refine ⟨⟨blocks ++ blocks', ?_, ?_, ?_⟩, ?_⟩
  · rw [List.filter_append]
    exact List.rel_append hshown hshown'
  · rw [Console.shown_append, hdepth, htext, htext', List.map_append, String.join_append]
  · rw [List.filterMap_append, List.filterMap_append, hreports, hreports']
  · rw [List.foldl_append, hdepth, hdepth']

theorem group {rows : List Row} {events : List Event} (segment : String)
    (h : Show context (depth + 1) rows events) :
    Show context depth (.group depth segment :: rows)
      (.enter segment :: events ++ [.exit segment]) := by
  obtain ⟨⟨blocks, hshown, htext, hreports⟩, hdepth⟩ := h
  refine ⟨⟨{ text := (Row.group depth segment).line } :: blocks, .cons .group hshown, ?_, ?_⟩, ?_⟩
  · have hexit : Console.shown (depth + 1) [.exit segment] = "" := rfl
    rw [List.cons_append, Console.shown, Console.depthAfter, Console.shown_append, hdepth, hexit,
      htext]
    simp [Console.eventTexts, Row.line, String.append_assoc]
  · rw [List.filterMap_append, List.filterMap_cons_none rfl, hreports]
    exact List.append_nil _
  · rw [List.foldl_append]
    show [Event.exit segment].foldl _ (events.foldl Console.depthAfter (depth + 1)) = _
    rw [hdepth]
    rfl

theorem checked (place : Place) (h : context.config.selects place.path = true)
    (answer : Option (Option Measurement)) :
    Show context depth [.leaf depth place] [.case (Place.check context (place, answer))] := by
  refine ⟨⟨[Row.caseBlock depth place (Place.check context (place, answer))], ?_, ?_, rfl⟩, rfl⟩
  · rw [List.filter_singleton, Row.isSelected, h]
    exact .cons (.leaf answer) .nil
  · rw [Console.shown, Console.shown, Console.eventTexts, Row.join_caseTexts]
    simp [Row.caseBlock]

theorem skipped (place : Place) (h : context.config.selects place.path = false) :
    Show context depth [.leaf depth place] [.filtered place.path] := by
  refine ⟨⟨[], ?_, rfl, rfl⟩, rfl⟩
  rw [List.filter_singleton, Row.isSelected, h]
  exact .nil

end Event.Show

namespace Node

open Event (Show)

variable {σ : Type} (context : Context) (provider : Option (Provider σ))

theorem show_walkLeaves (path : List String) (ls : List TestCase) (state : σ) :
    Show context path.length (ls.map fun c => .leaf path.length (path, c))
      (walkLeaves context provider path ls state).1 := by
  induction ls generalizing state with
  | nil => exact .nil
  | cons c cs ih =>
    simp only [List.map_cons, walkLeaves]
    cases h : context.config.selects (path ++ [c.name]) with
    | true =>
      rw [if_pos rfl, TestCase.ask_eq]
      exact (Show.checked (path, c) h _).append (ih _)
    | false =>
      rw [if_neg Bool.false_ne_true]
      exact (Show.skipped (path, c) h).append (ih state)

mutual

theorem show_walk (path : List String) : (n : Node) → (state : σ) →
    Show context path.length (n.rows path) (n.walk context provider path state).1
  | .mk ⟨es⟩ ls, state => by
    rw [rows, walk]
    exact (show_walkAll path es state).append (show_walkLeaves context provider path ls _)

theorem show_walkAll (path : List String) : (es : List (String × Node)) → (state : σ) →
    Show context path.length (rowsAll path es) (walkAll context provider path es state).1
  | [], _ => by
    rw [rowsAll, walkAll]
    exact .nil
  | (segment, n) :: es, state => by
    have hinside := show_walk (path ++ [segment]) n state
    rw [List.length_append] at hinside
    have hafter := show_walkAll path es (n.walk context provider (path ++ [segment]) state).2
    rw [rowsAll, walkAll]
    simpa using (hinside.group segment).append hafter

end

end Node

def Tree.rows (t : Tree) : List Row := t.root.rows []

end InlineAssert
