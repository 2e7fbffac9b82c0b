import Mathlib.Data.List.Induction
import Mathlib.Data.List.Nodup

namespace InlineAssert

section

variable {α : Type} [BEq α] [LawfulBEq α]

theorem eraseDups_append_singleton (as : List α) (a : α) :
    (as ++ [a]).eraseDups = if a ∈ as then as.eraseDups else as.eraseDups ++ [a] := by
  rw [List.eraseDups_append]
  by_cases h : a ∈ as
  · simp [List.removeAll, h]
  · simp [List.removeAll, h, List.eraseDups_cons]

theorem nodup_eraseDups (as : List α) : as.eraseDups.Nodup := by
  induction as using List.reverseRecOn with
  | nil => simp
  | append_singleton as a ih =>
    rw [eraseDups_append_singleton]
    split
    · exact ih
    · next h =>
      have hne : ∀ b ∈ as, b ≠ a := fun b hb e => h (e ▸ hb)
      simpa [List.nodup_append, ih, List.mem_eraseDups] using hne

end

section

variable {α β : Type} [DecidableEq β]

def earliest (key : α → β) : List α → List α
  | [] => []
  | a :: as => a :: (earliest key as).filter (key · ≠ key a)

variable (key : α → β) (as : List α)

theorem mem_map_earliest {k : β} : k ∈ (earliest key as).map key ↔ k ∈ as.map key := by
  induction as with
  | nil => rfl
  | cons a as ih =>
    simp only [List.mem_map] at ih
    by_cases h : key a = k
    · simp [earliest, h]
    · have h' : k ≠ key a := fun e => h e.symm
      simp only [earliest, List.map_cons, List.mem_cons, h', false_or, List.mem_map,
        List.mem_filter, decide_eq_true_eq, ← ih]
      constructor
      · rintro ⟨b, ⟨hb, -⟩, rfl⟩
        exact ⟨b, hb, rfl⟩
      · rintro ⟨b, hb, rfl⟩
        exact ⟨b, ⟨hb, h'⟩, rfl⟩

theorem nodup_map_earliest : ((earliest key as).map key).Nodup := by
  induction as with
  | nil => exact List.nodup_nil
  | cons a as ih =>
    rw [earliest, List.map_cons, List.nodup_cons]
    constructor
    · simp
    · exact ih.sublist (List.filter_sublist.map key)

theorem earliest_append_singleton (a : α) :
    earliest key (as ++ [a]) =
      if key a ∈ as.map key then earliest key as else earliest key as ++ [a] := by
  induction as with
  | nil => rfl
  | cons b as ih =>
    have hmem : key a ∈ (b :: as).map key ↔ key a = key b ∨ key a ∈ as.map key := List.mem_cons
    rw [List.cons_append, earliest, ih, earliest]
    by_cases hb : key a = key b
    · rw [if_pos (hmem.2 (.inl hb))]
      split
      · rfl
      · simp [hb]
    · by_cases h : key a ∈ as.map key
      · rw [if_pos h, if_pos (hmem.2 (.inr h))]
      · rw [if_neg h, if_neg (fun e => (hmem.1 e).elim hb h)]
        simp [hb]

theorem find?_earliest (k : β) :
    (earliest key as).find? (key · = k) = as.find? (key · = k) := by
  induction as with
  | nil => rfl
  | cons a as ih =>
    rw [earliest, List.find?_cons, List.find?_cons]
    by_cases h : key a = k
    · simp [h]
    · simp only [h, decide_false, List.find?_filter, ← ih]
      congr 1
      funext b
      by_cases hb : key b = k <;> simp [hb, Ne.symm h]

variable {key as} {a : α}

theorem filter_earliest (h : a ∈ earliest key as) :
    (earliest key as).filter (key · = key a) = [a] := by
  have hnodup := nodup_map_earliest key as
  obtain ⟨bs, cs, hsplit⟩ := List.append_of_mem h
  rw [hsplit, List.map_append, List.map_cons, List.nodup_append, List.nodup_cons] at hnodup
  obtain ⟨-, ⟨hcs, -⟩, hbs⟩ := hnodup
  have hbefore : bs.filter (key · = key a) = [] := by
    rw [List.filter_eq_nil_iff]
    intro b hb
    simpa using hbs _ (List.mem_map_of_mem hb) _ List.mem_cons_self
  have hafter : cs.filter (key · = key a) = [] := by
    rw [List.filter_eq_nil_iff]
    intro c hc
    simpa using fun e : key c = key a => hcs (e ▸ List.mem_map_of_mem hc)
  rw [hsplit, List.filter_append, List.filter_cons, hbefore, hafter]
  simp

theorem find?_eq_some_of_mem_earliest (h : a ∈ earliest key as) :
    as.find? (key · = key a) = some a := by
  rw [← find?_earliest, ← List.head?_filter, filter_earliest h, List.head?_cons]

end

end InlineAssert
