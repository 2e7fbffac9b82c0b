import InlineAssert.Proofs.Earliest
import InlineAssert.Proofs.OrderedMap
import InlineAssert.Proofs.Outcome
import InlineAssert.Table
import Mathlib.Data.List.Induction

namespace InlineAssert

abbrev Mention := Directive × Site

namespace Mention

def range? (a : Mention) : Option Range := (Range.read a.1.value).toOption

def matcher? (polarity : Polarity) (a : Mention) : Option Matcher :=
  (Matcher.forPlace polarity a.2.fileName a.2.line a.1.value a.2.text).toOption

def IsValid (a : Mention) : Prop :=
  match a.1.key with
  | .name => True
  | .alloc | .bytes => ∃ r, Range.read a.1.value = .ok r
  | .diagnostic polarity =>
    ∃ m, Matcher.forPlace polarity a.2.fileName a.2.line a.1.value a.2.text = .ok m

def about (id : String) (key : Directive.Key) (as : List Mention) : List Mention :=
  as.filter fun a => a.1.id = id && a.1.key = key

def ids (as : List Mention) : List String := (as.map (·.1.id)).eraseDups

def record (as : List Mention) (id : String) : TestCase where
  id := id
  name := ((about id .name as).head?.map (·.1.value)).getD ""
  alloc := (about id .alloc as).getLast?.bind range?
  bytes := (about id .bytes as).getLast?.bind range?
  present := (about id (.diagnostic .present) as).filterMap (matcher? .present)
  absent := (about id (.diagnostic .absent) as).filterMap (matcher? .absent)

structure Consistent (as : List Mention) : Prop where
  valid : ∀ a ∈ as, a.IsValid
  named_once : ∀ id, (about id .name as).length ≤ 1

theorem about_append (id : String) (key : Directive.Key) (as bs : List Mention) :
    about id key (as ++ bs) = about id key as ++ about id key bs := by
  simp [about]

theorem about_singleton (id : String) (key : Directive.Key) (a : Mention) :
    about id key [a] = if a.1.id = id ∧ a.1.key = key then [a] else [] := by
  by_cases h : a.1.id = id ∧ a.1.key = key <;> simp [about, h]

theorem mem_about {id : String} {key : Directive.Key} {as : List Mention} {a : Mention} :
    a ∈ about id key as ↔ a ∈ as ∧ a.1.id = id ∧ a.1.key = key := by
  simp [about]

@[simp] theorem mem_ids {id : String} {as : List Mention} :
    id ∈ ids as ↔ ∃ a ∈ as, a.1.id = id := by
  simp [ids, List.mem_eraseDups]

theorem ids_append_singleton (as : List Mention) (a : Mention) :
    ids (as ++ [a]) = if a.1.id ∈ ids as then ids as else ids as ++ [a.1.id] := by
  simp only [ids, List.map_append, List.map_cons, List.map_nil, eraseDups_append_singleton,
    List.mem_eraseDups]

theorem nodup_ids (as : List Mention) : (ids as).Nodup := nodup_eraseDups _

theorem record_of_not_mem {as : List Mention} {id : String} (h : id ∉ ids as) :
    record as id = { id } := by
  have hnone : ∀ key, about id key as = [] := by
    intro key
    rw [List.eq_nil_iff_forall_not_mem]
    intro a ha
    obtain ⟨ha, hid, -⟩ := mem_about.1 ha
    exact h (mem_ids.2 ⟨a, ha, hid⟩)
  simp [record, hnone]

theorem record_append_of_ne {as : List Mention} {a : Mention} {id : String}
    (h : a.1.id ≠ id) : record (as ++ [a]) id = record as id := by
  simp [record, about_append, about_singleton, h]

section Extend

variable {as : List Mention} {a : Mention}

theorem extend_record_eq_ok_iff (hvalues : ∀ b ∈ as, b.1.value ≠ "") {c : TestCase} :
    (record as a.1.id).extend a.1 a.2 = .ok c ↔
      (a.IsValid ∧ (a.1.key = .name → about a.1.id .name as = [])) ∧
        c = record (as ++ [a]) a.1.id := by
  obtain ⟨⟨id, key, value⟩, site⟩ := a
  have hrange {k : Directive.Key} {r : Range} (hr : Range.read value = .ok r) :
      range? ⟨⟨id, k, value⟩, site⟩ = some r := Except.toOption_eq_some_iff.2 hr
  cases key with
  | name =>
    cases hn : about id .name as with
    | nil =>
      simp [TestCase.extend, record, about_append, about_singleton, hn, IsValid, eq_comm]
    | cons b bs =>
      have hb : b ∈ about id .name as := by simp [hn]
      have hvalue : b.1.value ≠ "" := hvalues b (mem_about.1 hb).1
      simp [TestCase.extend, record, hn, hvalue]
  | alloc | bytes =>
    constructor
    · intro h
      obtain ⟨r, hr, rfl⟩ : ∃ r, Range.read value = .ok r ∧ _ = c := by
        simpa [TestCase.extend] using h
      simp [IsValid, record, about_append, about_singleton, hr, hrange hr]
    · rintro ⟨⟨⟨r, hr⟩, -⟩, rfl⟩
      simp only at hr
      simp [TestCase.extend, record, about_append, about_singleton, hr, hrange hr]
  | diagnostic polarity =>
    constructor
    · intro h
      obtain ⟨m, hm, h⟩ : ∃ m, Matcher.forPlace polarity site.fileName site.line value site.text =
          .ok m ∧ _ = Except.ok c := by
        simpa [TestCase.extend] using h
      cases polarity <;> cases h <;>
        simp [IsValid, record, about_append, about_singleton, matcher?, hm]
    · rintro ⟨⟨⟨m, hm⟩, -⟩, rfl⟩
      simp only at hm
      cases polarity <;>
        simp [TestCase.extend, record, about_append, about_singleton, matcher?, hm]

theorem consistent_nil : Consistent [] := ⟨by simp, by simp [about]⟩

theorem Consistent.of_append {bs : List Mention} (h : Consistent (as ++ bs)) : Consistent as where
  valid b hb := h.valid b (by simp [hb])
  named_once id := by
    have := h.named_once id
    simp only [about_append, List.length_append] at this
    omega

theorem consistent_append_singleton :
    Consistent (as ++ [a]) ↔
      Consistent as ∧ a.IsValid ∧ (a.1.key = .name → about a.1.id .name as = []) := by
  constructor
  · intro h
    refine ⟨h.of_append, h.valid a (by simp), fun hkey => ?_⟩
    have := h.named_once a.1.id
    simp only [about_append, about_singleton, hkey, and_self, if_true, List.length_append,
      List.length_singleton] at this
    exact List.length_eq_zero_iff.1 (by omega)
  · rintro ⟨h, hvalid, hname⟩
    refine ⟨fun b hb => ?_, fun id => ?_⟩
    · rcases List.mem_append.1 hb with hb | hb
      · exact h.valid b hb
      · rw [List.mem_singleton.1 hb]
        exact hvalid
    · rw [about_append, about_singleton]
      split
      · next hid => simp [← hid.1, hname hid.2]
      · simpa using h.named_once id

end Extend

end Mention

namespace Table

open Mention (record)

def Means (t : Table) (as : List Mention) : Prop :=
  t.cases.entries = (Mention.ids as).map fun id => (id, record as id)

namespace Means

variable {t : Table} {as : List Mention}

theorem empty : Means {} [] := by simp [Means, Mention.ids, OrderedMap.empty]

theorem records_eq (h : t.Means as) : t.records = (Mention.ids as).map (record as) := by
  simp only [records, OrderedMap.values, show t.cases.entries = _ from h, List.map_map]
  rfl

theorem get?_eq (h : t.Means as) (id : String) :
    t.get? id = if id ∈ Mention.ids as then some (record as id) else none := by
  simp only [get?, OrderedMap.get?, show t.cases.entries = _ from h, OrderedMap.lookup_map_pair]

theorem getD_eq (h : t.Means as) (id : String) : (t.get? id).getD { id } = record as id := by
  rw [h.get?_eq]
  split
  · rfl
  · next hid => exact (Mention.record_of_not_mem hid).symm

theorem insert (h : t.Means as) (a : Mention) :
    Means ⟨t.cases.insert a.1.id (record (as ++ [a]) a.1.id)⟩ (as ++ [a]) := by
  simp only [Means, OrderedMap.insert, show t.cases.entries = _ from h]
  rw [OrderedMap.put_map_pair _ (Mention.nodup_ids as), Mention.ids_append_singleton]
  apply List.map_congr_left
  intro id _
  by_cases hid : id = a.1.id
  · rw [if_pos hid, hid]
  · rw [if_neg hid, Mention.record_append_of_ne (fun e => hid e.symm)]

theorem apply_eq_ok_iff (h : t.Means as) (hc : Mention.Consistent as)
    (hvalues : ∀ b ∈ as, b.1.value ≠ "") (a : Mention) {t' : Table} {i : Nat} :
    t.apply a.1 a.2 = .ok (t', i) ↔
      Mention.Consistent (as ++ [a]) ∧ i = t.cases.position a.1.id ∧
        t' = ⟨t.cases.insert a.1.id (record (as ++ [a]) a.1.id)⟩ := by
  rw [Mention.consistent_append_singleton]
  simp only [apply, h.getD_eq, Except.bind_eq_ok_iff, Except.pure_eq_ok_iff, Prod.mk.injEq,
    Mention.extend_record_eq_ok_iff hvalues]
  constructor
  · rintro ⟨c, ⟨hok, rfl⟩, ht, hi⟩
    exact ⟨⟨hc, hok⟩, hi.symm, ht.symm⟩
  · rintro ⟨⟨-, hok⟩, rfl, rfl⟩
    exact ⟨_, ⟨hok, rfl⟩, rfl, rfl⟩

end Means

theorem means_applyAll {t : Table} {as : List Mention} (h : t.Means as)
    (hc : Mention.Consistent as) (bs : List Mention)
    (hvalues : ∀ b ∈ as ++ bs, b.1.value ≠ "") :
    ((∃ n, (t.applyAll bs).2 = .ok n) ↔ Mention.Consistent (as ++ bs)) ∧
      ∀ n, (t.applyAll bs).2 = .ok n → n = bs.length ∧ (t.applyAll bs).1.Means (as ++ bs) := by
  induction bs generalizing t as with
  | nil => simpa [applyAll] using ⟨hc, h⟩
  | cons a bs ih =>
    have hbefore : ∀ b ∈ as, b.1.value ≠ "" := fun b hb => hvalues b (by simp [hb])
    have hsplit : as ++ a :: bs = (as ++ [a]) ++ bs := by simp
    cases happly : t.apply a.1 a.2 with
    | error e =>
      -- a mention that is refused would make every longer list inconsistent
      have hnot : ¬ Mention.Consistent (as ++ a :: bs) := by
        intro hall
        rw [hsplit] at hall
        have := (h.apply_eq_ok_iff hc hbefore a).2 ⟨hall.of_append, rfl, rfl⟩
        simp [happly] at this
      simpa [applyAll, happly] using hnot
    | ok r =>
      obtain ⟨t', i⟩ := r
      obtain ⟨hca, -, rfl⟩ := (h.apply_eq_ok_iff hc hbefore a).1 happly
      obtain ⟨hiff, hmeans⟩ := ih (h.insert a) hca (by simpa using hvalues)
      rw [hsplit]
      simp only [applyAll, happly, Except.map_eq_ok_iff]
      constructor
      · rw [← hiff]
        constructor
        · rintro ⟨-, m, hm, -⟩
          exact ⟨m, hm⟩
        · rintro ⟨m, hm⟩
          exact ⟨m + 1, m, hm, rfl⟩
      · rintro n ⟨m, hm, rfl⟩
        obtain ⟨rfl, hmean⟩ := hmeans m hm
        exact ⟨rfl, hmean⟩

/-- The table is what the mentions say, however they are mixed: all of them are applied exactly
if every range and every pattern can be read and no id is named twice, and then there is one record
an id, in the order in which the ids first come. -/
theorem applyAll_empty_records (as : List Mention)
    (hvalues : ∀ a ∈ as, a.1.value ≠ "") :
    ((∃ n, (applyAll {} as).2 = .ok n) ↔ Mention.Consistent as) ∧
      ∀ n, (applyAll {} as).2 = .ok n →
        n = as.length ∧ (applyAll {} as).1.records = (Mention.ids as).map (record as) := by
  obtain ⟨hiff, hmeans⟩ := means_applyAll Means.empty Mention.consistent_nil as
    (by simpa using hvalues)
  simp only [List.nil_append] at hiff hmeans
  refine ⟨hiff, fun n hn => ?_⟩
  obtain ⟨hlength, h⟩ := hmeans n hn
  exact ⟨hlength, h.records_eq⟩

theorem applyAll_empty_records_mixed :
    let site : Site := ⟨"a.go", "a.go", 7, "x"⟩
    let as : List Mention := [(⟨"b", .alloc, "1"⟩, site), (⟨"a", .name, "/g/x"⟩, site),
      (⟨"b", .diagnostic .absent, "escapes"⟩, site), (⟨"b", .alloc, "2-3"⟩, site)]
    (∀ a ∈ as, a.1.value ≠ "") ∧ Mention.Consistent as ∧
      (applyAll {} as).1.records.map (fun c => (c.id, c.name, c.alloc, c.absent.length)) =
        [("b", "", some ⟨2, 3, by decide⟩, 1), ("a", "/g/x", none, 0)] := by
  intro site as
  have hvalues : ∀ a ∈ as, a.1.value ≠ "" := by decide
  obtain ⟨hiff, hrecords⟩ := applyAll_empty_records as hvalues
  obtain ⟨n, hn⟩ : ∃ n, (applyAll {} as).2 = .ok n := by
    refine ⟨4, ?_⟩
    decide +kernel
  refine ⟨hvalues, hiff.1 ⟨n, hn⟩, ?_⟩
  rw [(hrecords n hn).2]
  decide +kernel

end Table

end InlineAssert
