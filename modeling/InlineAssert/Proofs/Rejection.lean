import InlineAssert.Proofs.Handles

namespace InlineAssert.Arena

inductive Refuses (a : Arena) (d : Directive) (site : Site) : ParseError → Prop
  | name : ∀ c, d.key = .name → a.get? d.id = some c → c.name ≠ "" →
      Refuses a d site (.duplicateName d.id site.path site.line)
  | range : ∀ error, d.key = .alloc ∨ d.key = .bytes → Range.read d.value = .error error →
      Refuses a d site (.invalidRange d site.path site.line error)
  | pattern : ∀ polarity error, d.key = .diagnostic polarity →
      Pattern.ofText (Matcher.patternText polarity site.fileName site.line d.value) =
        .error error →
      Refuses a d site (.invalidPattern d site.path site.line error)

variable {a : Arena} {d : Directive} {site : Site} {error : ParseError}

theorem Refuses.extend_eq (h : Refuses a d site error) :
    ((a.get? d.id).getD { id := d.id }).extend d site = .error error := by
  cases h with
  | name c hkey hget hname =>
    simp only [TestCase.extend, hkey, hget, Option.getD_some, if_neg hname]
  | range error hkey hread =>
    obtain hkey | hkey := hkey <;> simp only [TestCase.extend, hkey, hread] <;> rfl
  | pattern polarity error hkey hpattern =>
    simp only [TestCase.extend, hkey, Matcher.forPlace, hpattern]
    rfl

theorem refuses_of_extend_range (hkey : d.key = .alloc ∨ d.key = .bytes) {c : TestCase}
    (h : c.extend d site = .error error) : Refuses a d site error := by
  cases hread : Range.read d.value with
  | error e =>
    have herror : .invalidRange d site.path site.line e = error := by
      obtain hkey | hkey := hkey <;> simp only [TestCase.extend, hkey, hread] at h <;>
        exact Except.error.inj h
    exact herror ▸ .range e hkey hread
  | ok r => obtain hkey | hkey := hkey <;> simp only [TestCase.extend, hkey, hread] at h <;> cases h

theorem refuses_of_extend_pattern {polarity : Polarity} (hkey : d.key = .diagnostic polarity)
    {c : TestCase} (h : c.extend d site = .error error) : Refuses a d site error := by
  simp only [TestCase.extend, hkey, Matcher.forPlace] at h
  let text := Matcher.patternText polarity site.fileName site.line d.value
  cases hpattern : Pattern.ofText text with
  | error e =>
    rw [hpattern] at h
    obtain rfl : .invalidPattern d site.path site.line e = error := Except.error.inj h
    exact .pattern polarity e hkey hpattern
  | ok p =>
    rw [hpattern] at h
    cases polarity <;> cases h

theorem refuses_of_extend_name (hkey : d.key = .name)
    (h : ((a.get? d.id).getD { id := d.id }).extend d site = .error error) :
    Refuses a d site error := by
  simp only [TestCase.extend, hkey] at h
  cases hget : a.get? d.id with
  | none => simp [hget] at h
  | some c =>
    rw [hget, Option.getD_some] at h
    by_cases hname : c.name = ""
    · simp [hname] at h
    · rw [if_neg hname] at h
      obtain rfl : .duplicateName d.id site.path site.line = error := Except.error.inj h
      exact .name c hkey hget hname

theorem refuses_iff :
    Refuses a d site error ↔
      ((a.get? d.id).getD { id := d.id }).extend d site = .error error := by
  refine ⟨Refuses.extend_eq, fun h => ?_⟩
  cases hkey : d.key with
  | name => exact refuses_of_extend_name hkey h
  | alloc => exact refuses_of_extend_range (.inl hkey) h
  | bytes => exact refuses_of_extend_range (.inr hkey) h
  | diagnostic polarity => exact refuses_of_extend_pattern hkey h

/-- A directive that fails has no effect at all. -/
theorem apply_refused (calls : List Call) (d : Directive) (site : Site) :
    let a := Call.runAll calls {}
    (∀ error, (a.apply d site).2 = .error error → (a.apply d site).1 = a) ∧
      ∀ error, (a.apply d site).2 = .error error ↔ Refuses a d site error := by
  have h := Call.intact_runAll calls
  obtain ⟨error, hextend, hresult⟩ | ⟨c, hextend, -, -, hok⟩ := h.apply_cases d site
  · refine ⟨fun _ _ => by rw [hresult], fun error' => ?_⟩
    rw [refuses_iff, hextend, hresult]
    constructor <;> intro herror <;> exact congrArg Except.error (Except.error.inj herror)
  · refine ⟨fun error herror => ?_, fun error => ?_⟩
    · cases hok.symm.trans herror
    · rw [refuses_iff, hextend, hok]
      constructor <;> intro hne <;> cases hne

end InlineAssert.Arena
