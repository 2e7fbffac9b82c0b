import InlineAssert.Pattern.Reader
import Mathlib.Data.Option.Basic

namespace InlineAssert.Pattern.Reader

inductive Reads : Reader → List Char → Reader → Prop
  | done : r.flags.skip cs = [] → Reads r cs r
  | next : r.flags.skip cs = c :: more → r.step c more = some (r', rest) → Reads r' rest r'' →
      Reads r cs r''

theorem reads_of_read {fuel : Nat} {r r' : Reader} {cs : List Char} (h : read fuel r cs = some r') :
    Reads r cs r' := by
  induction fuel generalizing r cs with
  | zero => cases h
  | succ fuel ih =>
    rw [read] at h
    split at h
    · next hskip =>
      cases h
      exact .done hskip
    · next c more hskip =>
      obtain ⟨⟨r₁, rest⟩, hstep, hread⟩ := Option.bind_eq_some_iff.1 h
      exact .next hskip hstep (ih hread)

theorem Reads.unique {r r₁ r₂ : Reader} {cs : List Char} (h₁ : Reads r cs r₁)
    (h₂ : Reads r cs r₂) : r₁ = r₂ := by
  induction h₁ with
  | done hskip =>
    cases h₂ with
    | done => rfl
    | next hskip' => simp [hskip] at hskip'
  | next hskip hstep _ ih =>
    cases h₂ with
    | done hskip' => simp [hskip] at hskip'
    | next hskip' hstep' h =>
      obtain ⟨rfl, rfl⟩ := List.cons.inj (hskip.symm.trans hskip')
      obtain ⟨rfl, rfl⟩ := Prod.mk.inj (Option.some.inj (hstep.symm.trans hstep'))
      exact ih h

theorem Reads.of_step {r r₁ r' : Reader} {c : Char} {cs rest : List Char}
    (h : Reads r (c :: cs) r') (hskip : r.flags.ignoreSpace = false)
    (hstep : r.step c cs = some (r₁, rest)) : Reads r₁ rest r' := by
  cases h with
  | done hdone => simp [Flags.skip, hskip] at hdone
  | next hnext hstep' h =>
    obtain ⟨rfl, rfl⟩ : c = _ ∧ cs = _ := by simpa [Flags.skip, hskip] using hnext
    obtain ⟨rfl, rfl⟩ := Prod.mk.inj (Option.some.inj (hstep.symm.trans hstep'))
    exact h

inductive Action : Type
  | push : Flags → Item → Action
  | openGroup : (captures : Bool) → Flags → (names : List (List Char)) → Action
  | close
  | branch
  | repeatLast : (min : Nat) → (max : Option Nat) → (lazy : Bool) → Action

def Action.run (r : Reader) : Action → Option Reader
  | .push flags item => some ({ r with flags }.push item)
  | .openGroup captures flags names => some { r.openGroup captures flags with names }
  | .close => r.closeGroup
  | .branch => some { r with frame := r.frame.branch }
  | .repeatLast min max lazy => r.repeatLast min max lazy

def act (r : Reader) (found : Option (Action × List Char)) : Option (Reader × List Char) :=
  found.bind fun (action, rest) => (action.run r).map (·, rest)

def nameAction (f : Flags) (names : List (List Char)) (cs : List Char) :
    Option (Action × List Char) := do
  let (name, rest) ← groupName cs
  guard (!names.contains name)
  return (.openGroup true f (name :: names), rest)

theorem openNamed_eq (r : Reader) (cs : List Char) :
    r.openNamed cs = r.act (nameAction r.flags r.names cs) := by
  rw [openNamed, nameAction]
  rcases groupName cs with - | ⟨name, rest⟩
  · rfl
  · simp only [Option.bind_eq_bind, Option.bind_some]
    cases (guard (!r.names.contains name) : Option Unit) <;> rfl

def flagsAction (f : Flags) (names : List (List Char)) (cs : List Char) :
    Option (Action × List Char) := do
  let (inner, any, close, rest) ← readFlags f [] cs
  if close = ':' then return (.openGroup false inner names, rest)
  else
    guard any
    return (.push inner { form := .empty, repeatable := false }, rest)

def groupAction (f : Flags) (names : List (List Char)) (cs : List Char) :
    Option (Action × List Char) :=
  match f.skip cs with
  | '?' :: '=' :: _ | '?' :: '!' :: _ | '?' :: '<' :: '=' :: _ | '?' :: '<' :: '!' :: _ => none
  | '?' :: 'P' :: '<' :: cs | '?' :: '<' :: cs => nameAction f names cs
  | '?' :: cs => flagsAction f names cs
  | cs => some (.openGroup true f names, cs)

def quantifyAction (min : Nat) (max : Option Nat) (cs : List Char) : Action × List Char :=
  (.repeatLast min max (lazyMark cs).1, (lazyMark cs).2)

def action? (f : Flags) (names : List (List Char)) (c : Char) (cs : List Char) :
    Option (Action × List Char) :=
  match c with
  | '(' => groupAction f names cs
  | ')' => some (.close, cs)
  | '|' => some (.branch, cs)
  | '[' => do
    let (s, height, rest) ← Bracket.set f cs
    return (.push f { form := .ofSet s, height }, rest)
  | '?' => some (quantifyAction 0 (some 1) cs)
  | '*' => some (quantifyAction 0 none cs)
  | '+' => some (quantifyAction 1 none cs)
  | '\x7b' => do
    let (min, max, rest) ← counts f cs
    return quantifyAction min max (f.skip rest)
  | '\\' => do
    let (t, rest) ← Token.escape f cs
    return (.push f { form := ← token f t }, rest)
  | '.' => do return (.push f { form := ← dot f }, cs)
  | '^' => some (.push f { form := .look (caret f) }, cs)
  | '$' => some (.push f { form := .look (dollar f) }, cs)
  | c => do return (.push f { form := ← literal f c false }, cs)

def repetitions : List Char := ['?', '*', '+', '\x7b']

inductive Allows (f : Flags) : Char → Action → Prop
  | openGroup (captures g names) : Allows f '(' (.openGroup captures g names)
  | flags (g item) : Allows f '(' (.push g item)
  | close : Allows f ')' .close
  | branch : Allows f '|' .branch
  | repeatLast (min max lazy) : c ∈ repetitions → Allows f c (.repeatLast min max lazy)
  | push (c item) : Allows f c (.push f item)

section

variable {f : Flags} {names : List (List Char)} {c : Char} {cs rest : List Char} {a : Action}

theorem allows_of_groupAction (h : groupAction f names cs = some (a, rest)) : Allows f '(' a := by
  have hname {more : List Char} (h : nameAction f names more = some (a, rest)) :
      Allows f '(' a := by
    obtain ⟨_, -, h⟩ := Option.bind_eq_some_iff.1 h
    obtain ⟨_, -, heq⟩ := Option.bind_eq_some_iff.1 h
    cases heq
    exact .openGroup ..
  unfold groupAction at h
  split at h
  · cases h
  · cases h
  · cases h
  · cases h
  · exact hname h
  · exact hname h
  · obtain ⟨_, -, h⟩ := Option.bind_eq_some_iff.1 h
    dsimp only at h
    split at h
    · cases h
      exact .openGroup ..
    · obtain ⟨_, -, heq⟩ := Option.bind_eq_some_iff.1 h
      cases heq
      exact .flags ..
  · cases h
    exact .openGroup ..

theorem allows_of_action? (h : action? f names c cs = some (a, rest)) : Allows f c a := by
  unfold action? at h
  split at h
  · exact allows_of_groupAction h
  · cases h
    exact .close
  · cases h
    exact .branch
  · obtain ⟨_, -, heq⟩ := Option.bind_eq_some_iff.1 h
    cases heq
    exact .push ..
  · cases h
    exact .repeatLast _ _ _ (by decide)
  · cases h
    exact .repeatLast _ _ _ (by decide)
  · cases h
    exact .repeatLast _ _ _ (by decide)
  · obtain ⟨_, -, heq⟩ := Option.bind_eq_some_iff.1 h
    cases heq
    exact .repeatLast _ _ _ (by decide)
  · obtain ⟨_, -, h⟩ := Option.bind_eq_some_iff.1 h
    obtain ⟨_, -, heq⟩ := Option.bind_eq_some_iff.1 h
    cases heq
    exact .push ..
  · obtain ⟨_, -, heq⟩ := Option.bind_eq_some_iff.1 h
    cases heq
    exact .push ..
  · cases h
    exact .push ..
  · cases h
    exact .push ..
  · obtain ⟨_, -, heq⟩ := Option.bind_eq_some_iff.1 h
    cases heq
    exact .push ..

end

theorem group_eq (r : Reader) (cs : List Char) :
    r.group cs = r.act (groupAction r.flags r.names cs) := by
  fun_cases group r cs with
  | case1 more h | case2 more h | case3 more h | case4 more h =>
    rw [groupAction, h]
    rfl
  | case5 more h | case6 more _ _ h =>
    simp only [groupAction, h]
    exact openNamed_eq r more
  | case7 more h₁ h₂ h₃ h₄ h₅ h₆ h =>
    simp only [groupAction, flagsAction, h]
    rcases readFlags r.flags [] more with - | ⟨flags, any, close, rest⟩
    · rfl
    · simp only [Option.bind_eq_bind, Option.bind_some]
      by_cases hclose : close = ':'
      · simp [act, Action.run, hclose, openGroup]
      · simp only [if_neg hclose]
        cases (guard any : Option Unit) <;> rfl
  | case8 h₁ h₂ h₃ h₄ h₅ h₆ h₇ =>
    simp only [groupAction]
    simp [act, Action.run, openGroup]

theorem quantify_eq (r : Reader) (min : Nat) (max : Option Nat) (cs : List Char) :
    r.quantify min max cs = r.act (some (quantifyAction min max cs)) := by
  simp only [quantify, quantifyAction, act, Action.run, Option.bind_some]
  cases r.repeatLast min max (lazyMark cs).1 <;> rfl

theorem step_eq (r : Reader) (c : Char) (cs : List Char) :
    r.step c cs = r.act (action? r.flags r.names c cs) := by
  fun_cases step r c cs with
  | case1 => exact group_eq r cs
  | case2 =>
    simp only [action?, act, Action.run, Option.bind_some]
    cases r.closeGroup <;> rfl
  | case3 => rfl
  | case4 =>
    rw [action?]
    cases Bracket.set r.flags cs <;> rfl
  | case5 | case6 | case7 => exact quantify_eq ..
  | case8 =>
    rw [action?]
    rcases counts r.flags cs with - | ⟨min, max, rest⟩
    · rfl
    · exact quantify_eq ..
  | case9 =>
    rw [action?]
    rcases Token.escape r.flags cs with - | ⟨t, rest⟩
    · rfl
    · cases h : token r.flags t <;> simp [act, Action.run, h]
  | case10 =>
    rw [action?]
    cases dot r.flags <;> rfl
  | case11 => rfl
  | case12 => rfl
  | case13 c =>
    rw [action?] <;> try assumption
    cases literal r.flags c false <;> rfl

def groupsOnto (lead : List Item) : List OpenGroup → List OpenGroup
  | [] => []
  | [g] => [{ g with frame := { g.frame with items := g.frame.items ++ lead } }]
  | g :: outer => g :: groupsOnto lead outer

def onto (lead : List Item) (r : Reader) : Reader :=
  match r.outer with
  | [] => { r with frame := { r.frame with items := r.frame.items ++ lead } }
  | _ => { r with outer := groupsOnto lead r.outer }

section

variable (lead : List Item) (r : Reader)

@[simp] theorem flags_onto : (r.onto lead).flags = r.flags := by
  unfold onto
  split <;> rfl

@[simp] theorem names_onto : (r.onto lead).names = r.names := by
  unfold onto
  split <;> rfl

theorem push_onto (flags : Flags) (item : Item) :
    { r.onto lead with flags }.push item = ({ r with flags }.push item).onto lead := by
  obtain ⟨_, frame, outer, names⟩ := r
  cases outer <;> rfl

theorem openGroup_onto (captures : Bool) (flags : Flags) (names : List (List Char)) :
    { (r.onto lead).openGroup captures flags with names } =
      { r.openGroup captures flags with names }.onto lead := by
  obtain ⟨_, frame, outer, _⟩ := r
  cases outer <;> rfl

variable {lead r}

theorem closeGroup_onto {r' : Reader} (h : r.closeGroup = some r') :
    (r.onto lead).closeGroup = some (r'.onto lead) := by
  obtain ⟨flags, frame, outer, names⟩ := r
  match outer with
  | [] => cases h
  | [g] =>
    cases h
    rfl
  | g :: g' :: outer =>
    cases h
    rfl

theorem repeatLast_onto {r' : Reader} {min : Nat} {max : Option Nat} {lazy : Bool}
    (h : r.repeatLast min max lazy = some r') :
    (r.onto lead).repeatLast min max lazy = some (r'.onto lead) := by
  obtain ⟨flags, ⟨branches, items⟩, outer, names⟩ := r
  cases items with
  | nil => cases h
  | cons item items =>
    cases hitem : item.repeatable with
    | false => simp [repeatLast, hitem] at h
    | true =>
      simp only [repeatLast, hitem, if_true, Option.some.injEq] at h
      subst h
      cases outer <;> simp [repeatLast, onto, hitem]

end

def bottomFrame (frame : Frame) : List OpenGroup → Frame
  | [] => frame
  | g :: outer => bottomFrame g.frame outer

def bottom (r : Reader) : Frame := bottomFrame r.frame r.outer

section

variable {lead : List Item} {r r' : Reader}

theorem exists_of_repeatLast {min : Nat} {max : Option Nat} {lazy : Bool}
    (h : r.repeatLast min max lazy = some r') :
    ∃ items, r' = { r with frame := { r.frame with items } } := by
  rw [repeatLast] at h
  split at h
  · split at h
    · exact ⟨_, (Option.some.inj h).symm⟩
    · cases h
  · cases h

theorem Action.bottom_of_run {a : Action} (h : a.run r = some r') (hb : r'.bottom.branches = []) :
    r.bottom.branches = [] := by
  obtain ⟨flags, frame, outer, names⟩ := r
  cases a with
  | push =>
    cases h
    cases outer <;> exact hb
  | openGroup =>
    cases h
    exact hb
  | close =>
    match outer with
    | [] => cases h
    | g :: outer =>
      cases h
      cases outer <;> exact hb
  | branch =>
    cases h
    cases outer with
    | nil => cases hb
    | cons => exact hb
  | repeatLast =>
    obtain ⟨items, rfl⟩ := exists_of_repeatLast h
    cases outer <;> exact hb

theorem Action.run_onto {a : Action} (h : a.run r = some r') (hb : r'.bottom.branches = []) :
    a.run (r.onto lead) = some (r'.onto lead) := by
  cases a with
  | push flags item =>
    cases h
    exact congrArg some (push_onto ..)
  | openGroup captures flags names =>
    cases h
    exact congrArg some (openGroup_onto ..)
  | close => exact closeGroup_onto h
  | branch =>
    cases h
    obtain ⟨flags, frame, outer, names⟩ := r
    cases outer with
    | nil => cases hb
    | cons => rfl
  | repeatLast => exact repeatLast_onto h

variable {c : Char} {cs rest : List Char}

theorem exists_run_of_step (h : r.step c cs = some (r', rest)) :
    ∃ a : Action, action? r.flags r.names c cs = some (a, rest) ∧ a.run r = some r' := by
  rw [step_eq, act, Option.bind_eq_some_iff] at h
  obtain ⟨⟨a, rest'⟩, haction, h⟩ := h
  obtain ⟨r₁, hrun, heq⟩ := Option.map_eq_some_iff.1 h
  obtain ⟨rfl, rfl⟩ := Prod.mk.inj heq
  exact ⟨a, haction, hrun⟩

theorem step_of_run {a : Action} (haction : action? r.flags r.names c cs = some (a, rest))
    (hrun : a.run r = some r') : r.step c cs = some (r', rest) := by
  simp [step_eq, haction, act, hrun]

theorem Reads.bottom (h : Reads r cs r') (hb : r'.bottom.branches = []) :
    r.bottom.branches = [] := by
  induction h with
  | done => exact hb
  | next _ hstep _ ih =>
    obtain ⟨a, -, hrun⟩ := exists_run_of_step hstep
    exact a.bottom_of_run hrun (ih hb)

/-- What stands below does not matter for how a text is read. -/
theorem Reads.onto (h : Reads r cs r') (hb : r'.bottom.branches = []) :
    Reads (r.onto lead) cs (r'.onto lead) := by
  induction h with
  | done hskip => exact .done (by rwa [flags_onto])
  | next hskip hstep hmore ih =>
    obtain ⟨a, haction, hrun⟩ := exists_run_of_step hstep
    refine .next (by rwa [flags_onto]) (step_of_run ?_ (a.run_onto hrun (hmore.bottom hb))) (ih hb)
    rwa [flags_onto, names_onto]

end

end InlineAssert.Pattern.Reader
