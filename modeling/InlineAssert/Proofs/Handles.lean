import InlineAssert.Proofs.Arena

namespace InlineAssert.Arena

variable {a b : Arena} {c : TestCase} {id : String} {place : Nat}

theorem get?_of_index? (hplace : a.index? id = some place) : a.get? id = a.record? place := by
  rw [get?, hplace]
  rfl

namespace Intact

variable (h : a.Intact)

include h

theorem index?_iff_ids : a.index? id = some place ↔ a.ids[place]? = some id :=
  h.indexes.find?_eq_some_iff

theorem index?_iff : a.index? id = some place ↔ ∃ c, a.record? place = some c ∧ c.id = id := by
  have hids : a.ids[place]? = (a.record? place).map TestCase.id := List.getElem?_map
  rw [h.index?_iff_ids, hids, Option.map_eq_some_iff]

theorem get?_iff : a.get? id = some c ↔ c ∈ a.records ∧ c.id = id := by
  rw [List.mem_iff_getElem?]
  constructor
  · intro hget
    obtain ⟨place, hplace, hrecord⟩ := Option.bind_eq_some_iff.1 hget
    obtain ⟨c', hrecord', hid⟩ := h.index?_iff.1 hplace
    obtain rfl : c = c' := Option.some.inj (hrecord.symm.trans hrecord')
    exact ⟨⟨place, hrecord⟩, hid⟩
  · rintro ⟨⟨place, hrecord⟩, hid⟩
    rw [get?_of_index? (h.index?_iff.2 ⟨c, hrecord, hid⟩)]
    exact hrecord

theorem index?_of_insert {m : OrderedMap TestCase} (htable : a.table = ⟨m.insert id c⟩) :
    a.index? id = some (m.position id) := by
  have hat : a.table.cases.at? (m.position id) = some (id, c) := by
    rw [htable]
    exact m.at?_position_insert id c
  rw [table, IndexedMap.at?_toOrdered] at hat
  exact h.index?_eq_some_iff.2 ⟨c, hat⟩

end Intact

/-- What an arena may become while test cases with some ids are worked on. -/
structure Grows (touched : List String) (a b : Arena) : Prop where
  intact : b.Intact
  ids_prefix : a.ids <+: b.ids
  get?_eq : ∀ id ∉ touched, b.get? id = a.get? id

namespace Grows

variable {touched touched' : List String}

theorem refl (h : a.Intact) (touched : List String) : Grows touched a a :=
  ⟨h, List.prefix_rfl, fun _ _ => rfl⟩

theorem trans {e : Arena} (hab : Grows touched a b) (hbe : Grows touched' b e) :
    Grows (touched ++ touched') a e where
  intact := hbe.intact
  ids_prefix := hab.ids_prefix.trans hbe.ids_prefix
  get?_eq id hid := by
    rw [List.mem_append, not_or] at hid
    rw [hbe.get?_eq id hid.2, hab.get?_eq id hid.1]

theorem of_insert (h : a.Intact) (hb : b.Intact) (htable : b.table = ⟨a.table.cases.insert id c⟩) :
    Grows [id] a b where
  intact := hb
  ids_prefix := by
    rw [← hb.table_keys, htable, OrderedMap.keys_insert, h.table_keys]
    split
    · exact List.prefix_rfl
    · exact List.prefix_append ..
  get?_eq k hk := by
    have hne : ¬ k = id := fun e => hk (List.mem_singleton.2 e)
    rw [← hb.table_get?, htable, Table.get?, OrderedMap.get?_insert, if_neg hne, ← h.table_get?,
      Table.get?]

variable (h : a.Intact) (hab : Grows touched a b)

include h hab

theorem index?_eq (hplace : a.index? id = some place) : b.index? id = some place := by
  obtain ⟨rest, hrest⟩ := hab.ids_prefix
  rw [h.index?_iff_ids] at hplace
  rw [hab.intact.index?_iff_ids, ← hrest,
    List.getElem?_append_left (List.getElem?_eq_some_iff.1 hplace).1]
  exact hplace

theorem record?_iff (hid : c.id ∉ touched) :
    b.record? place = some c ↔ a.record? place = some c := by
  constructor
  · intro hrecord
    have hmem : c ∈ b.records := List.mem_of_getElem? hrecord
    have hget : a.get? c.id = some c := by
      rw [← hab.get?_eq c.id hid]
      exact hab.intact.get?_iff.2 ⟨hmem, rfl⟩
    obtain ⟨place', hplace', hrecord'⟩ := Option.bind_eq_some_iff.1 hget
    have hsame : b.index? c.id = some place := hab.intact.index?_iff.2 ⟨c, hrecord, rfl⟩
    obtain rfl : place = place' := Option.some.inj (hsame.symm.trans (hab.index?_eq h hplace'))
    exact hrecord'
  · intro hrecord
    have hplace := h.index?_iff.2 ⟨c, hrecord, rfl⟩
    rw [← get?_of_index? (hab.index?_eq h hplace), hab.get?_eq c.id hid,
      get?_of_index? hplace]
    exact hrecord

end Grows

section Steps

variable (h : a.Intact)

include h

theorem grows_apply (d : Directive) (site : Site) : Grows [d.id] a (a.apply d site).1 := by
  obtain ⟨error, -, hresult⟩ | ⟨c, -, hintact, htable, -⟩ := h.apply_cases d site
  · rw [hresult]
    exact .refl h _
  · exact .of_insert h hintact htable

theorem grows_applyAll (directives : List (Directive × Site)) :
    Grows (directives.map (·.1.id)) a (a.applyAll directives).1 := by
  induction directives generalizing a with
  | nil => exact .refl h _
  | cons e rest ih =>
    obtain ⟨d, site⟩ := e
    have hstep := grows_apply h d site
    rw [applyAll, List.map_cons]
    generalize a.apply d site = result at *
    obtain ⟨b, outcome⟩ := result
    cases outcome with
    | error error => exact hstep.trans (.refl hstep.intact _)
    | ok place => exact hstep.trans (ih hstep.intact)

theorem grows_readSource (path source : String) :
    Grows ((Site.directives path source).map (·.1.id)) a (a.readSource path source).1 := by
  -- a scan that fails leaves the table as the directives have made it
  have hall := grows_applyAll h (Site.directives path source)
  rw [readSource]
  generalize a.applyAll (Site.directives path source) = result at *
  obtain ⟨b, outcome⟩ := result
  cases outcome with
  | error error => exact hall
  | ok applied => cases (Scan.ofBytes (Bytes.ofString source)).failure <;> exact hall

theorem grows_getOrInsert (id : String) : Grows [id] a (a.getOrInsert id).1 := by
  obtain ⟨hintact, htable⟩ := h.getOrInsert_insert id
  exact .of_insert h hintact htable

end Steps

inductive Call : Type
  | getOrInsert : (id : String) → Call
  | apply : Directive → Site → Call
  | readSource : (path source : String) → Call

namespace Call

def ids : Call → List String
  | .getOrInsert id => [id]
  | .apply d _ => [d.id]
  | .readSource path source => (Site.directives path source).map (·.1.id)

def run (a : Arena) : Call → Arena
  | .getOrInsert id => (a.getOrInsert id).1
  | .apply d site => (a.apply d site).1
  | .readSource path source => (a.readSource path source).1

def handle? (a : Arena) : Call → Option (String × Nat)
  | .getOrInsert id => some (id, (a.getOrInsert id).2)
  | .apply d site =>
    match (a.apply d site).2 with
    | .ok place => some (d.id, place)
    | .error _ => none
  | .readSource .. => none

def runAll (calls : List Call) (a : Arena) : Arena := calls.foldl run a

theorem grows_run (h : a.Intact) (call : Call) : Grows call.ids a (call.run a) := by
  cases call with
  | getOrInsert id => exact grows_getOrInsert h id
  | apply d site => exact grows_apply h d site
  | readSource path source => exact grows_readSource h path source

theorem grows_runAll (h : a.Intact) (calls : List Call) :
    Grows (calls.flatMap ids) a (runAll calls a) := by
  induction calls generalizing a with
  | nil => exact .refl h _
  | cons call calls ih =>
    have hstep := grows_run h call
    exact hstep.trans (ih hstep.intact)

theorem index?_of_handle? (h : a.Intact) {call : Call}
    (hhandle : call.handle? a = some (id, place)) : (call.run a).index? id = some place := by
  cases call with
  | getOrInsert id' =>
    obtain ⟨hid, hplace⟩ := Prod.mk.inj (Option.some.inj hhandle)
    subst hid
    subst hplace
    obtain ⟨hintact, htable⟩ := h.getOrInsert_insert id'
    rw [h.place_getOrInsert]
    exact hintact.index?_of_insert htable
  | apply d site =>
    obtain ⟨error, -, hresult⟩ | ⟨c, -, hintact, htable, hok⟩ := h.apply_cases d site
    · simp [handle?, hresult] at hhandle
    · rw [handle?, hok] at hhandle
      obtain ⟨hid, hplace⟩ := Prod.mk.inj (Option.some.inj hhandle)
      subst hid
      subst hplace
      exact hintact.index?_of_insert htable
  | readSource path source => cases hhandle

theorem intact_runAll (calls : List Call) : (runAll calls {}).Intact :=
  (grows_runAll intact_empty calls).intact

end Call

structure Coherent (a : Arena) : Prop where
  nodup : (a.records.map TestCase.id).Nodup
  index?_iff : ∀ id place, a.index? id = some place ↔ ∃ c, a.record? place = some c ∧ c.id = id
  get?_iff : ∀ id c, a.get? id = some c ↔
    ∃ place, a.index? id = some place ∧ a.record? place = some c
  lookup_ok_iff : ∀ id c, a.lookup id = .ok c ↔ a.get? id = some c
  lookup_error_iff : ∀ id error, a.lookup id = .error error ↔
    error = .unknownTestCase id ∧ ∀ c ∈ a.records, c.id ≠ id

theorem Intact.coherent (h : a.Intact) : Coherent a where
  nodup := h.indexes.nodup
  index?_iff _ _ := h.index?_iff
  get?_iff _ _ := Option.bind_eq_some_iff
  lookup_ok_iff id c := by
    rw [lookup]
    cases a.get? id <;> simp
  lookup_error_iff id error := by
    rw [lookup]
    cases hget : a.get? id with
    | some c =>
      obtain ⟨hmem, hid⟩ := h.get?_iff.1 hget
      constructor
      · intro hne
        cases hne
      · rintro ⟨-, hnone⟩
        exact absurd hid (hnone c hmem)
    | none =>
      have hnone : ∀ c ∈ a.records, c.id ≠ id := by
        intro c hmem hid
        cases hget.symm.trans (h.get?_iff.2 ⟨hmem, hid⟩)
      constructor
      · intro herror
        exact ⟨(Except.error.inj herror).symm, hnone⟩
      · rintro ⟨rfl, -⟩
        rfl

/-- Handles are good for ever, whatever fails in between, and a call is felt by the records of its
own ids only. -/
theorem handles_runAll (calls : List Call) :
    let a := Call.runAll calls {}
    Coherent a ∧
      (∀ later, a.ids <+: (Call.runAll later a).ids ∧
        ∀ id place, a.index? id = some place → (Call.runAll later a).index? id = some place) ∧
      (∀ (call : Call) id place, call.handle? a = some (id, place) → ∀ later,
        let b := Call.runAll later (call.run a)
        b.index? id = some place ∧ (∃ c, b.record? place = some c ∧ c.id = id) ∧
        ∀ (again : Call) place', again.handle? b = some (id, place') → place' = place) ∧
      ∀ (call : Call) place c, c.id ∉ call.ids →
        ((call.run a).record? place = some c ↔ a.record? place = some c) := by
  have h := Call.intact_runAll calls
  refine ⟨h.coherent, fun later => ?_, fun call id place hhandle later => ?_,
    fun call place c hid => (Call.grows_run h call).record?_iff h hid⟩
  · have hlater := Call.grows_runAll h later
    exact ⟨hlater.ids_prefix, fun id place => hlater.index?_eq h⟩
  · have hnext := (Call.grows_run h call).intact
    have hlater := Call.grows_runAll hnext later
    have hplace := hlater.index?_eq hnext (Call.index?_of_handle? h hhandle)
    refine ⟨hplace, hlater.intact.index?_iff.1 hplace, fun again place' hagain => ?_⟩
    have hkept := (Call.grows_run hlater.intact again).index?_eq hlater.intact hplace
    have hgiven := Call.index?_of_handle? hlater.intact hagain
    exact Option.some.inj (hgiven.symm.trans hkept)

end InlineAssert.Arena
