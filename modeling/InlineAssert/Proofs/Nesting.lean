import InlineAssert.Proofs.Remainder
import Mathlib.Data.List.Forall2

namespace InlineAssert.Pattern

theorem foldl_max_le_iff {ns : List Nat} {n m : Nat} :
    ns.foldl max n ≤ m ↔ n ≤ m ∧ ∀ k ∈ ns, k ≤ m := by
  induction ns generalizing n with
  | nil => simp
  | cons k ns ih => rw [List.foldl_cons, ih, Nat.max_le, List.forall_mem_cons, and_assoc]

def depth : List Item → Nat
  | [] => 0
  | [item] => item.height
  | items => (items.map (·.height)).foldl max 0 + 1

theorem Item.height_branch (items : List Item) : (Item.branch items).height = depth items := by
  fun_cases depth items <;> simp_all [Item.branch]

theorem Frame.height_close (frame : Frame) :
    frame.close.height = depth (.branch frame.items :: frame.branches) := by
  obtain ⟨branches, items⟩ := frame
  cases branches <;> rfl

theorem height_le_depth {item : Item} {items : List Item} (h : item ∈ items) :
    item.height ≤ depth items := by
  fun_cases depth items with
  | case1 => cases h
  | case2 => rw [List.mem_singleton.1 h]
  | case3 =>
    have hmax := (foldl_max_le_iff.1 (le_refl ((items.map (·.height)).foldl max 0))).2
    exact (hmax _ (List.mem_map_of_mem h)).trans (Nat.le_succ _)

/-- The items of the one are some of those of the other, which may nest deeper. -/
abbrev Among : List Item → List Item → Prop :=
  List.SublistForall₂ fun y x => y.height ≤ x.height

section

variable {xs ys : List Item}

theorem Among.refl (items : List Item) : Among items items := by
  induction items with
  | nil => exact .nil
  | cons item items ih => exact .cons le_rfl ih

theorem Among.length_le (h : Among ys xs) : ys.length ≤ xs.length := by
  obtain ⟨zs, hle, hsub⟩ := List.sublistForall₂_iff.1 h
  exact hle.length_eq.trans_le hsub.length_le

theorem Among.exists_of_mem (h : Among ys xs) {y : Item} (hy : y ∈ ys) :
    ∃ x ∈ xs, y.height ≤ x.height := by
  induction h with
  | nil => cases hy
  | cons hle _ ih =>
    rcases List.mem_cons.1 hy with rfl | hy
    · exact ⟨_, List.mem_cons_self, hle⟩
    · obtain ⟨x, hx, hle⟩ := ih hy
      exact ⟨x, List.mem_cons_of_mem _ hx, hle⟩
  | cons_right _ ih =>
    obtain ⟨x, hx, hle⟩ := ih hy
    exact ⟨x, List.mem_cons_of_mem _ hx, hle⟩

theorem Among.depth_le (h : Among ys xs) : depth ys ≤ depth xs := by
  match ys, xs, h with
  | [], _, _ => exact Nat.zero_le _
  | [y], _, h =>
    obtain ⟨x, hx, hle⟩ := h.exists_of_mem List.mem_cons_self
    exact hle.trans (height_le_depth hx)
  | _ :: _ :: _, [], h | _ :: _ :: _, [_], h => exact absurd h.length_le (by simp)
  | y :: y' :: ys, x :: x' :: xs, h =>
    refine Nat.succ_le_succ (foldl_max_le_iff.2 ⟨Nat.zero_le _, ?_⟩)
    have hmax := (foldl_max_le_iff.1 (le_refl (((x :: x' :: xs).map (·.height)).foldl max 0))).2
    intro n hn
    obtain ⟨y'', hy, rfl⟩ := List.mem_map.1 hn
    obtain ⟨x'', hx, hle⟩ := h.exists_of_mem hy
    exact hle.trans (hmax _ (List.mem_map_of_mem hx))

theorem Frame.close_le {a t : Frame} (hitems : Among a.items t.items)
    (hbranches : Among a.branches t.branches) : a.close.height ≤ t.close.height := by
  rw [height_close, height_close]
  refine Among.depth_le (.cons ?_ hbranches)
  rw [Item.height_branch, Item.height_branch]
  exact hitems.depth_le

end

structure Item.Above (x y : Item) : Prop where
  height_le : y.height ≤ x.height
  repeatable_eq : x.repeatable = y.repeatable

inductive Stacked : List Item → List Item → Prop
  | base : Stacked lead []
  | push : Item.Above x y → Stacked xs ys → Stacked (x :: xs) (y :: ys)

theorem Stacked.among {xs ys : List Item} (h : Stacked xs ys) : Among ys xs := by
  induction h with
  | base => exact .nil
  | push hxy _ ih => exact .cons hxy.height_le ih

structure Frame.Above (t a : Frame) : Prop where
  items : Stacked t.items a.items
  branches : Among a.branches t.branches

namespace Frame.Above

variable {t a : Frame}

theorem close_le (h : t.Above a) : a.close.height ≤ t.close.height :=
  Frame.close_le h.items.among h.branches

theorem push {x y : Item} (h : t.Above a) (hxy : x.Above y) : (t.push x).Above (a.push y) :=
  ⟨.push hxy h.items, h.branches⟩

theorem branch (h : t.Above a) : t.branch.Above a.branch where
  items := .base
  branches := by
    refine .cons ?_ h.branches
    rw [Item.height_branch, Item.height_branch]
    exact h.items.among.depth_le

end Frame.Above

def Flags.Alike (f g : Flags) : Prop := ∃ b, g = f.withLines b

theorem Flags.Alike.skip_eq {f g : Flags} (h : f.Alike g) : g.skip = f.skip := by
  obtain ⟨b, rfl⟩ := h
  rfl

theorem Flags.Alike.counts_eq {f g : Flags} (h : f.Alike g) :
    Reader.counts g = Reader.counts f := by
  obtain ⟨b, rfl⟩ := h
  exact Reader.counts_withLines f b

structure OpenGroup.Above (g g' : OpenGroup) : Prop where
  flags : g.flags.Alike g'.flags
  frame : g.frame.Above g'.frame

namespace Reader

structure Above (t a : Reader) : Prop where
  flags : t.flags.Alike a.flags
  frame : t.frame.Above a.frame
  outer : List.Forall₂ OpenGroup.Above t.outer a.outer
  names : a.names = t.names

inductive Action.Alike : Action → Action → Prop
  | push : Flags.Alike f g → Item.Above x y → Alike (.push f x) (.push g y)
  | openGroup (captures names) : Flags.Alike f g →
      Alike (.openGroup captures f names) (.openGroup captures g names)
  | close : Alike .close .close
  | branch : Alike .branch .branch
  | repeatLast (min max lazy) : Alike (.repeatLast min max lazy) (.repeatLast min max lazy)

theorem setFlag_withLines {f f' : Flags} {on : Bool} {c : Char} (h : setFlag f on c = some f')
    (b : Bool) : ∃ g, setFlag (f.withLines b) on c = some g ∧ f'.Alike g := by
  unfold setFlag at h ⊢
  split at h <;> cases h <;> exact ⟨_, rfl, _, rfl⟩

theorem readFlags_withLines {f f' : Flags} {seen cs rest : List Char} {any : Bool} {close : Char}
    (h : readFlags f seen cs = some (f', any, close, rest)) (b : Bool) :
    ∃ g, readFlags (f.withLines b) seen cs = some (g, any, close, rest) ∧ f'.Alike g := by
  fun_induction readFlags f seen cs generalizing b with
  | case1 => cases h
  | case2 => cases h
  | case3 f seen c cs hclose hseen =>
    cases h
    exact ⟨_, by rw [readFlags, if_pos hclose, if_neg hseen], b, rfl⟩
  | case4 => cases h
  | case5 f seen cs hclose hseen ih =>
    obtain ⟨g, hg, hlike⟩ := ih h b
    refine ⟨g, ?_, hlike⟩
    rw [readFlags, if_neg hclose, if_neg hseen, if_pos rfl]
    exact hg
  | case6 f seen c cs hclose hseen hhyphen ih =>
    obtain ⟨f₁, hset, h⟩ := Option.bind_eq_some_iff.1 h
    obtain ⟨_, hset', b', rfl⟩ := setFlag_withLines hset b
    obtain ⟨g, hg, hlike⟩ := ih f₁ h b'
    refine ⟨g, ?_, hlike⟩
    rw [readFlags, if_neg hclose, if_neg hseen, if_neg hhyphen, hset']
    exact hg

variable {f g : Flags} {names : List (List Char)} {cs rest : List Char} {x : Action}

theorem nameAction_alike (h : nameAction f names cs = some (x, rest)) (hfg : f.Alike g) :
    ∃ y, nameAction g names cs = some (y, rest) ∧ x.Alike y := by
  obtain ⟨⟨name, _⟩, hname, h⟩ := Option.bind_eq_some_iff.1 h
  obtain ⟨⟨⟩, hnew, heq⟩ := Option.bind_eq_some_iff.1 h
  cases heq
  refine ⟨_, ?_, .openGroup _ _ hfg⟩
  simp only [nameAction, hname, Option.bind_eq_bind, Option.bind_some, hnew]
  rfl

theorem flagsAction_alike (h : flagsAction f names cs = some (x, rest)) (hfg : f.Alike g) :
    ∃ y, flagsAction g names cs = some (y, rest) ∧ x.Alike y := by
  obtain ⟨b, rfl⟩ := hfg
  obtain ⟨⟨inner, any, close, _⟩, hflags, h⟩ := Option.bind_eq_some_iff.1 h
  obtain ⟨inner', hinner, hlike⟩ := readFlags_withLines hflags b
  simp only [flagsAction, hinner, Option.bind_eq_bind, Option.bind_some]
  dsimp only at h
  split at h
  · next hclose =>
    cases h
    exact ⟨_, if_pos hclose, .openGroup _ _ hlike⟩
  · next hclose =>
    obtain ⟨⟨⟩, hany, heq⟩ := Option.bind_eq_some_iff.1 h
    cases heq
    refine ⟨_, ?_, .push hlike ⟨le_rfl, rfl⟩⟩
    rw [if_neg hclose, hany]
    rfl

theorem groupAction_alike (h : groupAction f names cs = some (x, rest)) (hfg : f.Alike g) :
    ∃ y, groupAction g names cs = some (y, rest) ∧ x.Alike y := by
  unfold groupAction at h ⊢
  rw [hfg.skip_eq]
  split at h
  · cases h
  · cases h
  · cases h
  · cases h
  · exact nameAction_alike h hfg
  · exact nameAction_alike h hfg
  · exact flagsAction_alike h hfg
  · cases h
    exact ⟨_, rfl, .openGroup _ _ hfg⟩

theorem action?_alike {c : Char} (h : action? f names c cs = some (x, rest)) (hfg : f.Alike g) :
    ∃ y, action? g names c cs = some (y, rest) ∧ x.Alike y := by
  obtain ⟨b, rfl⟩ := hfg
  have hpush (form form' : Form) (height : Nat) :
      Action.Alike (.push f { form, height }) (.push (f.withLines b) { form := form', height }) :=
    .push ⟨b, rfl⟩ ⟨le_rfl, rfl⟩
  unfold action? at h ⊢
  split at h
  · exact groupAction_alike h ⟨b, rfl⟩
  · cases h
    exact ⟨_, rfl, .close⟩
  · cases h
    exact ⟨_, rfl, .branch⟩
  · obtain ⟨⟨s, height, _⟩, hset, heq⟩ := Option.bind_eq_some_iff.1 h
    cases heq
    rw [Bracket.set_withLines, hset]
    exact ⟨_, rfl, hpush ..⟩
  · cases h
    exact ⟨_, rfl, .repeatLast ..⟩
  · cases h
    exact ⟨_, rfl, .repeatLast ..⟩
  · cases h
    exact ⟨_, rfl, .repeatLast ..⟩
  · obtain ⟨⟨min, max, _⟩, hcounts, heq⟩ := Option.bind_eq_some_iff.1 h
    cases heq
    rw [counts_withLines, hcounts]
    exact ⟨_, rfl, .repeatLast ..⟩
  · obtain ⟨⟨t, _⟩, hescape, h⟩ := Option.bind_eq_some_iff.1 h
    obtain ⟨form, hform, heq⟩ := Option.bind_eq_some_iff.1 h
    cases heq
    rw [Token.escape_withLines]
    exact ⟨_, Option.bind_eq_some_iff.2 ⟨_, hescape, Option.bind_eq_some_iff.2 ⟨form, hform, rfl⟩⟩,
      hpush ..⟩
  · obtain ⟨form, hform, heq⟩ := Option.bind_eq_some_iff.1 h
    cases heq
    exact ⟨_, Option.bind_eq_some_iff.2 ⟨form, hform, rfl⟩, hpush ..⟩
  · cases h
    exact ⟨_, rfl, hpush ..⟩
  · cases h
    exact ⟨_, rfl, hpush ..⟩
  · obtain ⟨form, hform, heq⟩ := Option.bind_eq_some_iff.1 h
    cases heq
    exact ⟨_, Option.bind_eq_some_iff.2 ⟨form, hform, rfl⟩, hpush ..⟩

theorem Above.run {t t' a : Reader} {y : Action} (h : t.Above a) (hxy : x.Alike y)
    (hrun : x.run t = some t')
    (hlast : a.frame.items = [] →
      t.frame.items = [] ∨ ∀ min max lazy, x ≠ .repeatLast min max lazy) :
    ∃ a', y.run a = some a' ∧ t'.Above a' ∧ (a'.frame.items = [] → t'.frame.items = []) := by
  obtain ⟨flags, frame, outer, names⟩ := t
  obtain ⟨flags', frame', outer', names'⟩ := a
  obtain ⟨hflags, hframe, houter, rfl⟩ := h
  cases hxy with
  | push hfg hitem =>
    cases hrun
    exact ⟨_, rfl, ⟨hfg, hframe.push hitem, houter, rfl⟩, (List.cons_ne_nil _ _).elim⟩
  | openGroup captures names hfg =>
    cases hrun
    exact ⟨_, rfl, ⟨hfg, ⟨.base, .nil⟩, .cons ⟨hflags, hframe⟩ houter, rfl⟩, fun _ => rfl⟩
  | close =>
    cases houter with
    | nil => cases hrun
    | cons hgroup houter =>
      cases hrun
      refine ⟨_, rfl, ⟨hgroup.flags, hgroup.frame.push ⟨?_, rfl⟩, houter, rfl⟩,
        (List.cons_ne_nil _ _).elim⟩
      exact Nat.succ_le_succ hframe.close_le
  | branch =>
    cases hrun
    exact ⟨_, rfl, ⟨hflags, hframe.branch, houter, rfl⟩, fun _ => rfl⟩
  | repeatLast min max lazy =>
    obtain ⟨branches, items⟩ := frame
    obtain ⟨branches', items'⟩ := frame'
    obtain ⟨hitems, hbranches⟩ := hframe
    cases hitems with
    | base =>
      -- where the one has no item, the other would repeat one that it has had before
      rcases hlast rfl with rfl | hne
      · cases hrun
      · exact absurd rfl (hne min max lazy)
    | push hitem hitems =>
      simp only [Action.run, repeatLast] at hrun ⊢
      split at hrun
      · next hrepeatable =>
        cases hrun
        rw [if_pos (hitem.repeatable_eq ▸ hrepeatable)]
        refine ⟨_, rfl, ⟨hflags, ⟨.push ⟨?_, rfl⟩ hitems, hbranches⟩, houter, rfl⟩,
          (List.cons_ne_nil _ _).elim⟩
        exact Nat.succ_le_succ hitem.height_le
      · cases hrun

end Reader

end InlineAssert.Pattern
