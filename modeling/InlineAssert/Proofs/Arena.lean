import InlineAssert.Arena
import InlineAssert.Proofs.IndexedMap

namespace InlineAssert.Arena

variable {a : Arena} {id : String}

def toMap (a : Arena) : IndexedMap TestCase := ⟨a.index, a.ids, a.records⟩

def table (a : Arena) : Table := ⟨a.toMap.toOrdered⟩

def Intact (a : Arena) : Prop := a.toMap.Intact

theorem intact_empty : Intact {} := .empty

theorem toMap_getOrInsert (a : Arena) (id : String) :
    let (m, place) := (a.toMap.getOrInsertWith id (fun state => ({ id }, state)) ()).1
    (a.getOrInsert id).1.toMap = m ∧ (a.getOrInsert id).2 = place := by
  have hindex : a.toMap.index? id = a.index? id := rfl
  rw [getOrInsert, IndexedMap.getOrInsertWith, hindex]
  cases a.index? id with
  | some place => exact ⟨rfl, rfl⟩
  | none => simp [toMap, IndexedMap.push, IndexedMap.size, ids, size]

theorem toMap_modifyAt (place : Nat) {change : TestCase → TestCase}
    (hid : ∀ c, (change c).id = c.id) :
    (a.modifyAt place change).toMap = a.toMap.modifyAt place change := by
  have hids : (a.records.modify place change).map TestCase.id = a.records.map TestCase.id := by
    apply List.ext_getElem?
    intro i
    rw [List.getElem?_map, List.getElem?_map, List.getElem?_modify]
    cases a.records[i]? with
    | none => rfl
    | some c =>
      by_cases h : place = i <;> simp [h, hid]
  simp only [toMap, IndexedMap.modifyAt, ids, modifyAt, hids]

theorem toMap_visit (a : Arena) (id : String) {change : TestCase → TestCase}
    (hid : ∀ c, (change c).id = c.id) :
    ((a.getOrInsert id).1.modifyAt (a.getOrInsert id).2 change).toMap =
      (a.toMap.visit id (fun state => ({ id }, state)) change ()).1 := by
  obtain ⟨hmap, hplace⟩ := toMap_getOrInsert a id
  rw [toMap_modifyAt _ hid, hmap, hplace]
  rfl

namespace Intact

variable (h : a.Intact)

include h

theorem table_get? : a.table.get? id = a.get? id := h.get?_toOrdered

theorem table_keys : a.table.cases.keys = a.ids := h.keys_toOrdered

theorem table_answers : a.table.records = a.records ∧
    ∀ id, a.table.index? id = a.index? id ∧ a.table.lookup id = a.lookup id := by
  refine ⟨h.values_toOrdered, fun id => ⟨h.index?_toOrdered, ?_⟩⟩
  rw [Table.lookup, h.table_get?]
  rfl

theorem place_getOrInsert : (a.getOrInsert id).2 = a.table.cases.position id :=
  (toMap_getOrInsert a id).2.trans (h.getOrInsertWith_position id _ ())

theorem visit (id : String) (change : TestCase → TestCase) (hid : ∀ c, (change c).id = c.id) :
    ((a.getOrInsert id).1.modifyAt (a.getOrInsert id).2 change).Intact ∧
      ((a.getOrInsert id).1.modifyAt (a.getOrInsert id).2 change).table =
        ⟨a.table.cases.insert id (change ((a.get? id).getD { id }))⟩ := by
  have hvisit := IndexedMap.Intact.visit h id (fun state => (({ id } : TestCase), state)) change ()
  rw [← toMap_visit a id hid] at hvisit
  exact ⟨hvisit.1, congrArg Table.mk hvisit.2⟩

theorem record?_getOrInsert (id : String) :
    (a.getOrInsert id).1.record? (a.getOrInsert id).2 = some ((a.get? id).getD { id }) := by
  rw [getOrInsert]
  cases hplace : a.index? id with
  | some place =>
    obtain ⟨c, hc, hget⟩ := h.values_of_index? hplace
    have hget' : a.get? id = some c := hget
    rw [hget']
    exact hc
  | none => simp [record?, get?, size, hplace]

end Intact

theorem getOrInsert_of_get? {c : TestCase} (hc : a.get? id = some c) :
    (a.getOrInsert id).1 = a := by
  obtain ⟨place, hplace, -⟩ := Option.bind_eq_some_iff.1 hc
  rw [getOrInsert, hplace]

theorem modifyAt_self (place : Nat) : a.modifyAt place (fun c => c) = a := by
  rw [modifyAt]
  have h : a.records.modify place (fun c => c) = a.records := List.modify_id place a.records
  rw [h]

theorem Intact.getOrInsert_insert (h : a.Intact) (id : String) :
    (a.getOrInsert id).1.Intact ∧
      (a.getOrInsert id).1.table = ⟨a.table.cases.insert id ((a.get? id).getD { id })⟩ := by
  have hvisit := h.visit id (fun c => c) fun _ => rfl
  rwa [modifyAt_self] at hvisit

theorem Intact.getOrInsert (h : a.Intact) (id : String) :
    ((a.getOrInsert id).1.table, (a.getOrInsert id).2) = a.table.getOrInsert id := by
  have htable : (a.table.getOrInsert id).1 =
      ⟨a.table.cases.insert id ((a.get? id).getD { id })⟩ := by
    rw [Table.getOrInsert, OrderedMap.update, ← h.table_get?, Table.get?]
    cases a.table.cases.get? id <;> rfl
  rw [Prod.ext_iff, htable]
  exact ⟨(h.getOrInsert_insert id).2, h.place_getOrInsert⟩

/-- What has become of an arena where its table should have become something, and where it should
not have been changed. -/
def Stores (a : Arena) (result : Arena × Except ParseError Nat) :
    Except ParseError (Table × Nat) → Prop
  | .ok (t, place) => result.1.Intact ∧ result.1.table = t ∧ result.2 = .ok place
  | .error error => result = (a, .error error)

section Apply

variable {d : Directive} {site : Site} (h : a.Intact)

include h

theorem Intact.table_apply (d : Directive) (site : Site) :
    a.table.apply d site =
      (((a.get? d.id).getD { id := d.id }).extend d site).map fun c =>
        (⟨a.table.cases.insert d.id c⟩, a.table.cases.position d.id) := by
  rw [Table.apply, h.table_get?]
  cases ((a.get? d.id).getD { id := d.id }).extend d site <;> rfl

theorem Intact.put {α : Type} {value : Except ParseError α} {set : α → TestCase → TestCase}
    (hid : ∀ v c, (set v c).id = c.id)
    (hextend : ∀ c : TestCase, c.extend d site = value.map fun v => set v c) :
    a.Stores (a.put d.id value set) (a.table.apply d site) := by
  rw [h.table_apply, hextend]
  cases value with
  | error error => rfl
  | ok v =>
    obtain ⟨hintact, htable⟩ := h.visit d.id (set v) (hid v)
    exact ⟨hintact, htable, congrArg Except.ok h.place_getOrInsert⟩

theorem Intact.apply_name (hkey : d.key = .name) :
    a.Stores (a.apply d site) (a.table.apply d site) := by
  rw [h.table_apply, apply, hkey]
  simp only [h.record?_getOrInsert, Option.any_some, TestCase.extend, hkey]
  cases hget : a.get? d.id with
  | none =>
    obtain ⟨hintact, htable⟩ := h.visit d.id ({ · with name := d.value }) fun _ => rfl
    rw [hget] at htable
    exact ⟨hintact, htable, congrArg Except.ok h.place_getOrInsert⟩
  | some c =>
    simp only [Option.getD_some]
    by_cases hname : c.name = ""
    · obtain ⟨hintact, htable⟩ := h.visit d.id ({ · with name := d.value }) fun _ => rfl
      rw [hget] at htable
      simp only [hname, ne_eq, not_true_eq_false, decide_false, Bool.false_eq_true, if_false,
        if_true]
      exact ⟨hintact, htable, congrArg Except.ok h.place_getOrInsert⟩
    · simp only [hname, ne_eq, not_false_eq_true, decide_true, if_true, if_false]
      -- a record with a name was there before, so none is made for nothing
      rw [getOrInsert_of_get? hget]
      rfl

theorem Intact.apply (d : Directive) (site : Site) :
    a.Stores (a.apply d site) (a.table.apply d site) := by
  cases hkey : d.key with
  | name => exact h.apply_name hkey
  | alloc =>
    rw [Arena.apply, hkey]
    refine h.put (fun _ _ => rfl) fun c => ?_
    rw [TestCase.extend, hkey]
    cases Range.read d.value <;> rfl
  | bytes =>
    rw [Arena.apply, hkey]
    refine h.put (fun _ _ => rfl) fun c => ?_
    rw [TestCase.extend, hkey]
    cases Range.read d.value <;> rfl
  | diagnostic polarity =>
    cases polarity with
    | present =>
      rw [Arena.apply, hkey]
      refine h.put (fun _ _ => rfl) fun c => ?_
      simp only [TestCase.extend, hkey]
      cases Matcher.forPlace .present site.fileName site.line d.value site.text <;> rfl
    | absent =>
      rw [Arena.apply, hkey]
      refine h.put (fun _ _ => rfl) fun c => ?_
      simp only [TestCase.extend, hkey]
      cases Matcher.forPlace .absent site.fileName site.line d.value site.text <;> rfl

/-- A directive that fails does nothing, and one that does not puts what it makes of its test case
into the table. -/
theorem Intact.apply_cases (d : Directive) (site : Site) :
    (∃ error, ((a.get? d.id).getD { id := d.id }).extend d site = .error error ∧
      a.apply d site = (a, .error error)) ∨
    ∃ c, ((a.get? d.id).getD { id := d.id }).extend d site = .ok c ∧
      (a.apply d site).1.Intact ∧
      (a.apply d site).1.table = ⟨a.table.cases.insert d.id c⟩ ∧
      (a.apply d site).2 = .ok (a.table.cases.position d.id) := by
  have happly := h.apply d site
  rw [h.table_apply] at happly
  cases hextend : ((a.get? d.id).getD { id := d.id }).extend d site with
  | error error =>
    rw [hextend] at happly
    exact .inl ⟨error, rfl, happly⟩
  | ok c =>
    rw [hextend] at happly
    exact .inr ⟨c, rfl, happly⟩

theorem Intact.applyAll (directives : List (Directive × Site)) :
    (a.applyAll directives).1.Intact ∧
      ((a.applyAll directives).1.table, (a.applyAll directives).2) =
        a.table.applyAll directives := by
  induction directives generalizing a with
  | nil => exact ⟨h, rfl⟩
  | cons e rest ih =>
    obtain ⟨d, site⟩ := e
    have happly := h.apply d site
    rw [Arena.applyAll, Table.applyAll]
    generalize a.table.apply d site = outcome at happly ⊢
    cases outcome with
    | error error =>
      have hresult : a.apply d site = (a, .error error) := happly
      rw [hresult]
      exact ⟨h, rfl⟩
    | ok outcome =>
      obtain ⟨t, place⟩ := outcome
      obtain ⟨hintact, htable, hok⟩ := happly
      generalize a.apply d site = result at *
      obtain ⟨b, outcome⟩ := result
      obtain rfl : b.table = t := htable
      obtain rfl : outcome = .ok place := hok
      obtain ⟨hintact', hrest⟩ := ih (a := b) hintact
      simp only [← hrest]
      exact ⟨hintact', trivial⟩

theorem Intact.readSource (path source : String) :
    (a.readSource path source).1.Intact ∧
      ((a.readSource path source).1.table, (a.readSource path source).2) =
        a.table.readSource path source := by
  obtain ⟨hintact, hall⟩ := h.applyAll (Site.directives path source)
  rw [Arena.readSource, Table.readSource, ← hall]
  generalize a.applyAll (Site.directives path source) = result at *
  obtain ⟨b, outcome⟩ := result
  cases outcome with
  | error error => exact ⟨hintact, rfl⟩
  | ok applied =>
    cases (Scan.ofBytes (Bytes.ofString source)).failure <;> exact ⟨hintact, rfl⟩

end Apply

end InlineAssert.Arena
