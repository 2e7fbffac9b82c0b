import InlineAssert.Command
import InlineAssert.Proofs.Outcome
import Mathlib.Data.List.Infix

namespace InlineAssert

namespace MissingPolicy

theorem read?_print (policy : MissingPolicy) : read? policy.print = some policy := by
  cases policy <;> rfl

theorem print_of_read? {text : String} {policy : MissingPolicy} (h : read? text = some policy) :
    policy.print = text := by
  unfold read? at h
  split at h
  all_goals cases h
  all_goals rfl

end MissingPolicy

namespace CheckArgs

inductive Setting : Type
  | diagnostics
  | measurements
  | missing
  | filter
  deriving DecidableEq

namespace Setting

def mark : Setting → String
  | .diagnostics => "--diagnostics="
  | .measurements => "--measurements="
  | .missing => "--missing-measurement="
  | .filter => "--filter="

def all : List Setting := [.diagnostics, .measurements, .missing, .filter]

def values (s : Setting) (args : List String) : List String := args.filterMap (optionValue? s.mark)

end Setting

inductive Class : Type
  | setting : Setting → Class
  | verbose
  | operand

def Class.Has : Class → String → Prop
  | .setting s, arg => s.mark.toList <+: arg.toList
  | .verbose, arg => arg = "--verbose" ∨ arg = "-v"
  | .operand, arg => (∀ s ∈ Setting.all, ¬ s.mark.toList <+: arg.toList) ∧
      ¬ (arg = "--verbose" ∨ arg = "-v")

instance : (k : Class) → (arg : String) → Decidable (k.Has arg)
  | .setting _, _ => inferInstanceAs (Decidable (_ <+: _))
  | .verbose, _ => inferInstanceAs (Decidable (_ ∨ _))
  | .operand, _ => inferInstanceAs (Decidable (_ ∧ _))

def operandsOf (args : List String) : List String := args.filter Class.operand.Has

def IsPolicy (text : String) : Prop := ∃ policy : MissingPolicy, policy.print = text

theorem isPolicy_iff (text : String) : IsPolicy text ↔ (MissingPolicy.read? text).isSome := by
  constructor
  · rintro ⟨policy, rfl⟩
    rw [MissingPolicy.read?_print]
    rfl
  · intro h
    obtain ⟨policy, hpolicy⟩ := Option.isSome_iff_exists.1 h
    exact ⟨policy, MissingPolicy.print_of_read? hpolicy⟩

instance : DecidablePred IsPolicy := fun text => decidable_of_iff _ (isPolicy_iff text).symm

def LooksLikeOption (arg : String) : Prop := arg.toList.head? = some '-'

instance : DecidablePred LooksLikeOption := fun _ => inferInstanceAs (Decidable (_ = _))

structure Accepts (args : List String) (parsed : CheckArgs) : Prop where
  policies : ∀ policy ∈ Setting.missing.values args, IsPolicy policy
  plain : ∀ file ∈ operandsOf args, ¬ LooksLikeOption file
  nonempty : operandsOf args ≠ []
  files : parsed.files = operandsOf args
  diagnostics : ∃ path, (Setting.diagnostics.values args).getLast? = some path ∧
    parsed.diagnostics = .ofArg path
  measurements : parsed.measurements = (Setting.measurements.values args).getLast?
  missing : parsed.config.missing.print =
    (Setting.missing.values args).getLast?.getD MissingPolicy.default.print
  filter : parsed.config.filter = (Setting.filter.values args).getLast?
  verbose : parsed.config.verbose ↔ ∃ arg ∈ args, Class.verbose.Has arg

/-- What is wrong with arguments. Of two mistakes the one that comes first here is told of. -/
inductive Refused (args : List String) : String → Prop
  | policy : Setting.missing.values args = known ++ text :: later →
      (∀ policy ∈ known, IsPolicy policy) → ¬ IsPolicy text →
      Refused args (MissingPolicy.unknownMessage text)
  | option : (∀ policy ∈ Setting.missing.values args, IsPolicy policy) →
      operandsOf args = before ++ arg :: later → (∀ file ∈ before, ¬ LooksLikeOption file) →
      LooksLikeOption arg → Refused args ("unknown option '" ++ arg ++ "'")
  | files : (∀ policy ∈ Setting.missing.values args, IsPolicy policy) → operandsOf args = [] →
      Refused args "missing source files"
  | diagnostics : (∀ policy ∈ Setting.missing.values args, IsPolicy policy) →
      operandsOf args ≠ [] → (∀ file ∈ operandsOf args, ¬ LooksLikeOption file) →
      Setting.diagnostics.values args = [] → Refused args "missing --diagnostics=<path|->"

theorem optionValue?_isSome_iff (option arg : String) :
    (optionValue? option arg).isSome ↔ option.toList <+: arg.toList := by
  rw [optionValue?, Option.isSome_map]
  constructor
  · intro h
    obtain ⟨rest, hrest⟩ := Option.isSome_iff_exists.1 h
    exact ⟨rest, (Text.eq_append_of_after? hrest).symm⟩
  · rintro ⟨rest, hrest⟩
    rw [← hrest, Text.after?_append]
    rfl

namespace Setting

theorem eq_of_has {s s' : Setting} {arg : String} (h : (Class.setting s).Has arg)
    (h' : (Class.setting s').Has arg) : s = s' := by
  have hmarks : s.mark.toList <+: s'.mark.toList ∨ s'.mark.toList <+: s.mark.toList :=
    List.prefix_or_prefix_of_prefix h h'
  revert hmarks
  cases s <;> cases s' <;> decide

theorem values_filter (s : Setting) (args : List String) :
    s.values (args.filter (Class.setting s).Has) = s.values args := by
  rw [values, values, List.filterMap_filter]
  apply List.filterMap_congr
  intro arg _
  by_cases h : (Class.setting s).Has arg
  · rw [if_pos (decide_eq_true h)]
  · rw [if_neg (by simpa only [decide_eq_true_eq] using h), eq_comm,
      ← Option.not_isSome_iff_eq_none, optionValue?_isSome_iff]
    exact h

end Setting

namespace Arg

def ofSetting : Setting → String → Arg
  | .diagnostics, path => .diagnostics path
  | .measurements, path => .measurements path
  | .missing, policy => .missing policy
  | .filter, text => .filter text

theorem ofText_of_value {s : Setting} {arg value : String}
    (h : optionValue? s.mark arg = some value) : ofText arg = ofSetting s value := by
  have hunique (s' : Setting) {value' : String} (h' : optionValue? s'.mark arg = some value') :
      ofSetting s' value' = ofSetting s value := by
    obtain rfl : s' = s := Setting.eq_of_has
      ((optionValue?_isSome_iff ..).1 (Option.isSome_of_eq_some h'))
      ((optionValue?_isSome_iff ..).1 (Option.isSome_of_eq_some h))
    rw [Option.some.inj (h'.symm.trans h)]
  fun_cases ofText arg with
  | case1 path hpath => exact hunique .diagnostics hpath
  | case2 _ path hpath => exact hunique .measurements hpath
  | case3 _ _ policy hpolicy => exact hunique .missing hpolicy
  | case4 _ _ _ text htext => exact hunique .filter htext
  | case5 h₁ h₂ h₃ h₄ | case6 h₁ h₂ h₃ h₄ =>
    have hnone : optionValue? s.mark arg = none := by cases s <;> assumption
    rw [hnone] at h
    cases h

theorem ofText_of_none {arg : String} (h : ∀ s : Setting, optionValue? s.mark arg = none) :
    ofText arg = if Class.verbose.Has arg then .verbose else .operand arg := by
  have h₁ : optionValue? "--diagnostics=" arg = none := h .diagnostics
  have h₂ : optionValue? "--measurements=" arg = none := h .measurements
  have h₃ : optionValue? "--missing-measurement=" arg = none := h .missing
  have h₄ : optionValue? "--filter=" arg = none := h .filter
  simp only [ofText, h₁, h₂, h₃, h₄, Bool.or_eq_true, decide_eq_true_eq]
  rfl

end Arg

theorem Setting.values_append_singleton (s : Setting) (args : List String) (arg : String) :
    s.values (args ++ [arg]) = s.values args ++ (optionValue? s.mark arg).toList := by
  rw [values, List.filterMap_append, values, List.filterMap_cons]
  cases optionValue? s.mark arg <;> rfl

theorem operandsOf_append_singleton (args : List String) (arg : String) :
    operandsOf (args ++ [arg]) =
      operandsOf args ++ if Class.operand.Has arg then [arg] else [] := by
  rw [operandsOf, List.filter_append, operandsOf, List.filter_singleton]
  by_cases h : Class.operand.Has arg <;> simp [h]

def Draft.ofArgs (args : List String) : Draft where
  diagnostics := (Setting.diagnostics.values args).getLast?.map .ofArg
  measurements := (Setting.measurements.values args).getLast?
  config :=
    { missing := ((Setting.missing.values args).getLast?.bind MissingPolicy.read?).getD .default
      filter := (Setting.filter.values args).getLast?
      verbose := args.any (Class.verbose.Has ·) }
  operands := operandsOf args

section

variable {s : Setting} {arg value : String} (h : optionValue? s.mark arg = some value)

include h

theorem not_operand_of_value : ¬ Class.operand.Has arg := by
  rintro ⟨hnone, -⟩
  refine hnone s ?_ ((optionValue?_isSome_iff ..).1 (Option.isSome_of_eq_some h))
  cases s <;> decide

theorem not_verbose_of_value : ¬ Class.verbose.Has arg := by
  have hmark := (optionValue?_isSome_iff ..).1 (Option.isSome_of_eq_some h)
  rintro (rfl | rfl) <;> revert hmark <;> cases s <;> decide

theorem optionValue?_of_value (s' : Setting) :
    optionValue? s'.mark arg = if s' = s then some value else none := by
  split
  · next hs => rw [hs, h]
  · next hs =>
    rw [← Option.not_isSome_iff_eq_none, optionValue?_isSome_iff]
    exact fun h' => hs (Setting.eq_of_has h'
      ((optionValue?_isSome_iff ..).1 (Option.isSome_of_eq_some h)))

end

theorem operand_of_none {arg : String} (h : ∀ s : Setting, optionValue? s.mark arg = none)
    (hverbose : ¬ Class.verbose.Has arg) : Class.operand.Has arg := by
  refine ⟨fun s _ hmark => ?_, hverbose⟩
  have := (optionValue?_isSome_iff ..).2 hmark
  rw [h s] at this
  cases this

theorem add_ofArgs (args : List String) (arg : String)
    (hknown : ∀ policy ∈ optionValue? Setting.missing.mark arg, IsPolicy policy) :
    (Draft.ofArgs args).add (.ofText arg) = .ok (Draft.ofArgs (args ++ [arg])) := by
  by_cases h : ∃ s : Setting, ∃ value, optionValue? s.mark arg = some value
  · obtain ⟨s, value, h⟩ := h
    rw [Arg.ofText_of_value h]
    simp only [Draft.ofArgs, Setting.values_append_singleton, optionValue?_of_value h,
      operandsOf_append_singleton, if_neg (not_operand_of_value h), List.any_append, List.any_cons,
      decide_eq_false (not_verbose_of_value h)]
    cases s with
    | diagnostics | measurements | filter => simp [Arg.ofSetting, Draft.add]
    | missing =>
      obtain ⟨policy, hpolicy⟩ :=
        Option.isSome_iff_exists.1 ((isPolicy_iff value).1 (hknown value h))
      simp [Arg.ofSetting, Draft.add, hpolicy]
  · have hnone : ∀ s : Setting, optionValue? s.mark arg = none := by
      simpa [Option.eq_none_iff_forall_ne_some] using h
    rw [Arg.ofText_of_none hnone]
    simp only [Draft.ofArgs, Setting.values_append_singleton, hnone, operandsOf_append_singleton,
      List.any_append, List.any_cons]
    by_cases hverbose : Class.verbose.Has arg
    · have hoperand : ¬ Class.operand.Has arg := fun hoperand => hoperand.2 hverbose
      simp [Draft.add, hverbose, hoperand]
    · simp [Draft.add, hverbose, operand_of_none hnone hverbose]

def unknown? (args : List String) : Option String :=
  (Setting.missing.values args).find? (¬ IsPolicy ·)

theorem foldlM_add (args : List String) :
    args.foldlM (fun d arg => d.add (.ofText arg)) ({} : Draft) =
      match unknown? args with
      | some policy => .error (.usage (MissingPolicy.unknownMessage policy))
      | none => .ok (Draft.ofArgs args) := by
  induction args using List.reverseRecOn with
  | nil => rfl
  | append_singleton args arg ih =>
    have hlater : unknown? (args ++ [arg]) = (unknown? args).or
        ((optionValue? Setting.missing.mark arg).toList.find? (¬ IsPolicy ·)) := by
      rw [unknown?, Setting.values_append_singleton, List.find?_append]
      rfl
    rw [List.foldlM_append, ih, hlater]
    cases unknown? args with
    | some policy => rfl
    | none =>
      show ((Draft.ofArgs args).add (.ofText arg) >>= fun d => [].foldlM _ d) = _
      rw [Option.none_or]
      -- the last argument counts only if no policy before it stops the fold
      cases hlast : (optionValue? Setting.missing.mark arg).toList.find? (¬ IsPolicy ·) with
      | none =>
        rw [add_ofArgs args arg fun policy hpolicy => by
          simpa using List.find?_eq_none.1 hlast policy (Option.mem_toList.2 hpolicy)]
        rfl
      | some policy =>
        have hvalue : optionValue? Setting.missing.mark arg = some policy :=
          Option.mem_toList.1 (List.mem_of_find?_eq_some hlast)
        have hunknown : MissingPolicy.read? policy = none := by
          simpa [isPolicy_iff] using List.find?_some hlast
        rw [Arg.ofText_of_value hvalue]
        simp only [Arg.ofSetting, Draft.add, hunknown]
        rfl

end CheckArgs

theorem fileOperands_eq (args : List String) :
    fileOperands args =
      match args.find? (CheckArgs.LooksLikeOption ·) with
      | some arg => .error (.usage ("unknown option '" ++ arg ++ "'"))
      | none => if args = [] then .error (.usage "missing source files") else .ok args := by
  simp only [fileOperands, List.isEmpty_iff]
  rfl

namespace CheckArgs

theorem read_eq (args : List String) :
    read args =
      match unknown? args with
      | some policy => .error (.usage (MissingPolicy.unknownMessage policy))
      | none =>
      match (operandsOf args).find? (LooksLikeOption ·) with
      | some arg => .error (.usage ("unknown option '" ++ arg ++ "'"))
      | none =>
      if operandsOf args = [] then .error (.usage "missing source files")
      else
      match (Setting.diagnostics.values args).getLast? with
      | none => .error (.usage "missing --diagnostics=<path|->")
      | some path => .ok
        { files := operandsOf args
          diagnostics := .ofArg path
          measurements := (Setting.measurements.values args).getLast?
          config := (Draft.ofArgs args).config } := by
  rw [read, foldlM_add]
  cases unknown? args with
  | some policy => rfl
  | none =>
    show (fileOperands (operandsOf args) >>= _) = _
    rw [fileOperands_eq]
    cases (operandsOf args).find? (LooksLikeOption ·) with
    | some arg => rfl
    | none =>
      by_cases h : operandsOf args = []
      · simp only [if_pos h]
        rfl
      · simp only [if_neg h]
        cases hpath : (Setting.diagnostics.values args).getLast? with
        | none =>
          simp only [Draft.ofArgs, hpath]
          rfl
        | some path =>
          simp only [Draft.ofArgs, hpath]
          rfl

theorem read_eq_of_classes {args others : List String}
    (h : ∀ k : Class, others.filter k.Has = args.filter k.Has) : read others = read args := by
  have hvalues (s : Setting) : s.values others = s.values args := by
    rw [← s.values_filter others, h, s.values_filter]
  have hoperands : operandsOf others = operandsOf args := h .operand
  have hverbose : others.any (Class.verbose.Has ·) = args.any (Class.verbose.Has ·) := by
    have := congrArg (List.any · (Class.verbose.Has ·)) (h .verbose)
    simpa [List.any_filter] using this
  simp only [read_eq, unknown?, Draft.ofArgs, hvalues, hoperands, hverbose]

theorem unknown?_eq_none_iff {args : List String} :
    unknown? args = none ↔ ∀ policy ∈ Setting.missing.values args, IsPolicy policy := by
  simp [unknown?]

theorem find?_looksLikeOption_eq_none_iff {args : List String} :
    args.find? (LooksLikeOption ·) = none ↔ ∀ file ∈ args, ¬ LooksLikeOption file := by
  simp

theorem print_missing_ofArgs {args : List String}
    (h : ∀ policy ∈ Setting.missing.values args, IsPolicy policy) :
    (Draft.ofArgs args).config.missing.print =
      (Setting.missing.values args).getLast?.getD MissingPolicy.default.print := by
  cases hlast : (Setting.missing.values args).getLast? with
  | none => simp [Draft.ofArgs, hlast]
  | some text =>
    obtain ⟨policy, rfl⟩ := h text (List.mem_of_getLast? hlast)
    simp [Draft.ofArgs, hlast, MissingPolicy.read?_print]

theorem read_eq_ok_iff (args : List String) (parsed : CheckArgs) :
    read args = .ok parsed ↔ Accepts args parsed := by
  rw [read_eq]
  constructor
  · intro h
    cases hunknown : unknown? args with
    | some policy => simp [hunknown] at h
    | none =>
    cases hoption : (operandsOf args).find? (LooksLikeOption ·) with
    | some arg => simp [hunknown, hoption] at h
    | none =>
    by_cases hnonempty : operandsOf args = []
    · simp [hunknown, hnonempty] at h
    cases hpath : (Setting.diagnostics.values args).getLast? with
    | none => simp [hunknown, hoption, hnonempty, hpath] at h
    | some path =>
      simp only [hunknown, hoption, if_neg hnonempty, hpath, Except.ok.injEq] at h
      subst h
      have hpolicies := unknown?_eq_none_iff.1 hunknown
      exact
        { policies := hpolicies
          plain := find?_looksLikeOption_eq_none_iff.1 hoption
          nonempty := hnonempty
          files := rfl
          diagnostics := ⟨path, hpath, rfl⟩
          measurements := rfl
          missing := print_missing_ofArgs hpolicies
          filter := rfl
          verbose := by simp [Draft.ofArgs] }
  · rintro ⟨hpolicies, hplain, hnonempty, hfiles, ⟨path, hpath, hdiagnostics⟩, hmeasurements,
      hmissing, hfilter, hverbose⟩
    obtain ⟨files, diagnostics, measurements, ⟨missing, filter, verbose⟩⟩ := parsed
    simp only at hfiles hdiagnostics hmeasurements hmissing hfilter hverbose
    rw [unknown?_eq_none_iff.2 hpolicies, find?_looksLikeOption_eq_none_iff.2 hplain, hpath]
    have hprint : (Draft.ofArgs args).config.missing = missing := by
      rw [← Option.some_inj, ← MissingPolicy.read?_print, print_missing_ofArgs hpolicies,
        ← hmissing, MissingPolicy.read?_print]
    have hflag : (Draft.ofArgs args).config.verbose = verbose := by
      rw [Bool.eq_iff_iff, hverbose]
      simp [Draft.ofArgs]
    subst hfiles hdiagnostics hmeasurements hfilter hprint hflag
    simp only [if_neg hnonempty]
    rfl

theorem read_eq_error_iff (args : List String) (error : CommandError) :
    read args = .error error ↔ ∃ text, error = .usage text ∧ Refused args text := by
  rw [read_eq]
  constructor
  · intro h
    cases hunknown : unknown? args with
    | some policy =>
      simp only [hunknown, Except.error.injEq] at h
      obtain ⟨hpolicy, known, later, hvalues, hknown⟩ := List.find?_eq_some_iff_append.1 hunknown
      exact ⟨_, h.symm, .policy hvalues (by simpa using hknown) (by simpa using hpolicy)⟩
    | none =>
    have hpolicies := unknown?_eq_none_iff.1 hunknown
    cases hoption : (operandsOf args).find? (LooksLikeOption ·) with
    | some arg =>
      simp only [hunknown, hoption, Except.error.injEq] at h
      obtain ⟨harg, before, later, hoperands, hbefore⟩ := List.find?_eq_some_iff_append.1 hoption
      exact ⟨_, h.symm, .option hpolicies hoperands (by simpa using hbefore) (by simpa using harg)⟩
    | none =>
    by_cases hnonempty : operandsOf args = []
    · simp only [hunknown, hoption, if_pos hnonempty, Except.error.injEq] at h
      exact ⟨_, h.symm, .files hpolicies hnonempty⟩
    cases hpath : (Setting.diagnostics.values args).getLast? with
    | none =>
      simp only [hunknown, hoption, if_neg hnonempty, hpath, Except.error.injEq] at h
      exact ⟨_, h.symm, .diagnostics hpolicies hnonempty
        (find?_looksLikeOption_eq_none_iff.1 hoption) (List.getLast?_eq_none_iff.1 hpath)⟩
    | some path => simp [hunknown, hoption, hnonempty, hpath] at h
  · rintro ⟨text, rfl, h⟩
    cases h with
    | @policy known policy later hvalues hknown hpolicy =>
      have hunknown : unknown? args = some policy :=
        List.find?_eq_some_iff_append.2
          ⟨by simpa using hpolicy, known, later, hvalues, by simpa using hknown⟩
      rw [hunknown]
    | @option before arg later hpolicies hoperands hbefore harg =>
      have hoption : (operandsOf args).find? (LooksLikeOption ·) = some arg :=
        List.find?_eq_some_iff_append.2
          ⟨by simpa using harg, before, later, hoperands, by simpa using hbefore⟩
      rw [unknown?_eq_none_iff.2 hpolicies, hoption]
    | files hpolicies hempty =>
      rw [unknown?_eq_none_iff.2 hpolicies, hempty]
      rfl
    | diagnostics hpolicies hnonempty hplain hnone =>
      rw [unknown?_eq_none_iff.2 hpolicies, find?_looksLikeOption_eq_none_iff.2 hplain, hnone]
      exact if_neg hnonempty

/-- Only what there is of each class counts, not how the classes are mixed: the last value of an
option, the operands in their order, and of several mistakes the one of the first class. -/
theorem read_by_classes (args : List String) :
    (∀ others : List String, (∀ k : Class, others.filter k.Has = args.filter k.Has) →
      read others = read args) ∧
    (∀ parsed : CheckArgs, read args = .ok parsed ↔ Accepts args parsed) ∧
    ∀ error : CommandError,
      read args = .error error ↔ ∃ text, error = .usage text ∧ Refused args text :=
  ⟨fun _ => read_eq_of_classes, read_eq_ok_iff args, read_eq_error_iff args⟩

theorem read_by_classes_mixed :
    let args := ["--filter=a", "x.go", "-v", "--diagnostics=d", "y.go", "--filter=b"]
    let others := ["x.go", "--diagnostics=d", "--filter=a", "--filter=b", "y.go", "-v"]
    (∀ k : Class, others.filter k.Has = args.filter k.Has) ∧ read others = read args ∧
      Accepts args
        { files := ["x.go", "y.go"]
          diagnostics := .file "d"
          measurements := none
          config := { filter := some "b", verbose := true } } := by
  intro args others
  have hclasses : ∀ k : Class, others.filter k.Has = args.filter k.Has := by
    rintro (s | _ | _)
    · cases s <;> decide
    all_goals decide
  obtain ⟨hsame, haccepts, -⟩ := read_by_classes args
  exact ⟨hclasses, hsame others hclasses, (haccepts _).1 rfl⟩

example : read ["-x", "--missing-measurement=w", "--missing-measurement=v"] =
    .error (.usage (MissingPolicy.unknownMessage "w")) := rfl

end CheckArgs

end InlineAssert
