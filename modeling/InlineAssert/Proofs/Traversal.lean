import InlineAssert.Proofs.Passes

/-! Scanning is safe and comes to its end. A scanner that is stored as a cursor gives out what the
scan of its pieces does, call after call. Its cursor only goes forward and stays in the source,
though it may come to stand inside of a character. -/

namespace InlineAssert

open Bytes PieceKind Scan
open Cursor (between turn_cases advance_between)

namespace Scan

theorem length_pieces_after_le (before : Bytes) (offset skip : Nat) (rest : Bytes) :
    (after before offset skip rest).pieces.length ≤ rest.length := by
  induction rest generalizing before offset skip with
  | nil => cases skip <;> exact Nat.le_refl 0
  | cons b rest ih =>
    cases skip with
    | succ skip => exact (ih _ _ skip).trans (Nat.le_succ _)
    | zero =>
      rw [after]
      cases (start before (b :: rest)).tail? (b :: rest) with
      | none => exact Nat.zero_le _
      | some n => exact Nat.succ_le_succ (ih _ _ n)

theorem length_items_le (s : Scan) : s.items.length ≤ s.pieces.length + 1 := by
  rw [items, List.length_append, List.length_map, List.length_map, comments]
  refine Nat.add_le_add (List.length_filterMap_le ..) ?_
  cases s.failure <;> simp

theorem items_cons (p : Piece) (s : Scan) :
    (cons p s).items = p.comment?.toList.map .ok ++ s.items := by
  rw [items, comments_cons, List.map_append, List.append_assoc]
  rfl

theorem items_behind_code {code : Bytes} (h : ∀ b ∈ code, Idle b) (before rest : Bytes) :
    (behind before (code ++ rest)).items = (behind (before ++ code) rest).items := by
  obtain ⟨hfailure, hcomments⟩ := behind_code h before rest
  rw [items, items, hfailure, hcomments]

theorem behind_of_tail? {before rest : Bytes} {n : Nat} (hne : rest ≠ [])
    (h : (start before.reverse rest).tail? rest = some n) :
    behind before rest = cons ⟨start before.reverse rest, before.length, rest.take (n + 1)⟩
      (behind (before ++ rest.take (n + 1)) (rest.drop (n + 1))) := by
  obtain ⟨kind, bytes, later, rfl, hbytes, hreads⟩ := exists_reads hne h
  obtain ⟨-, rfl, htail⟩ := reads_iff.1 hreads
  have hn : n + 1 = bytes.length := by
    have := Option.some.inj (h.symm.trans htail)
    have := List.length_pos_of_ne_nil hbytes
    omega
  rw [hn, List.take_left, List.drop_left]
  exact behind_of_reads hreads

end Scan

section Turns

variable {source : String} {u v : Bytes}

inductive Turns (source : String) (u v : Bytes) : Run (Turn × Cursor) → Prop
  | ended : (behind u v).items = [] → Turns source u v (pure (.ended, between (u ++ v) []))
  | found : v = bytes ++ w → (behind u v).items = .ok c :: (behind (u ++ bytes) w).items →
      c.Whole source → Turns source u v (pure (.found c, between (u ++ bytes) w))
  | failed : v = bytes ++ w → (behind u v).items = [.error e] →
      Turns source u v (pure (.failed e, between (u ++ bytes) w))
  | onward : v = bytes ++ w → bytes ≠ [] → (behind u v).items = (behind (u ++ bytes) w).items →
      Turns source u v (pure (.onward, between (u ++ bytes) w))

theorem turns (hsource : ofString source = u ++ v) :
    Turns source u v ((between u v).turn source) := by
  rcases turn_cases hsource with ⟨hidle, hturn⟩ | ⟨code, b, w, rfl, hcode, hpass⟩
  · have hitems := items_behind_code hidle u []
    rw [List.append_nil] at hitems
    rw [hturn]
    exact .ended hitems
  · have hcut (n : Nat) : code ++ b :: w = (code ++ (b :: w).take n) ++ (b :: w).drop n := by simp
    have hitems := items_behind_code hcode u (b :: w)
    have hpiece {n : Nat} (htail : (start (u ++ code).reverse (b :: w)).tail? (b :: w) = some n) :=
      behind_of_tail? (List.cons_ne_nil b w) htail
    generalize (between u (code ++ b :: w)).turn source = run at hpass
    cases hpass with
    | passed htail hcomment =>
      rw [hpiece htail, items_cons, hcomment, List.append_assoc] at hitems
      rw [advance_between, List.append_assoc]
      exact .onward (hcut _) (by simp) hitems
    | found htail hcomment hwhole =>
      rw [hpiece htail, items_cons, hcomment, List.append_assoc] at hitems
      rw [advance_between, List.append_assoc]
      exact .found (hcut _) hitems hwhole
    | failed htail =>
      have hfails : behind (u ++ code) (b :: w) = _ :=
        after_of_tail?_eq_none (List.cons_ne_nil b w) _ htail
      rw [hfails, List.count_reverse] at hitems
      rw [advance_between, List.append_assoc]
      exact .failed (hcut _) hitems

theorem Cursor.nextItem_eq (hsource : ofString source = u ++ v) :
    ∃ bytes w, v = bytes ++ w ∧
      (between u v).nextItem source =
        pure ((behind u v).items.head?, between (u ++ bytes) w) ∧
      ((behind u v).items.tail = if (behind u v).items.head? matches some (.error _) then []
        else (behind (u ++ bytes) w).items) ∧
      ∀ c, (behind u v).items.head? = some (.ok c) → c.Whole source := by
  -- what is left gets less with each pass that gives nothing out
  induction hn : v.length using Nat.strong_induction_on generalizing u v with
  | _ n ih =>
    have hturns := turns hsource
    have hpass : (between u v).itemPass source = (between u v).turn source >>= _ := rfl
    generalize (between u v).turn source = run at hturns hpass
    cases hturns with
    | ended hitems =>
      rw [nextItem, loop_of_inl hpass, hitems]
      exact ⟨v, [], by simp, rfl, rfl, by simp⟩
    | @found bytes w c hv hitems hwhole =>
      rw [nextItem, loop_of_inl hpass, hitems]
      exact ⟨bytes, w, hv, rfl, rfl, by rintro _ ⟨⟩; exact hwhole⟩
    | @failed bytes w e hv hitems =>
      rw [nextItem, loop_of_inl hpass, hitems]
      exact ⟨bytes, w, hv, rfl, rfl, by simp⟩
    | @onward bytes w hv hne hitems =>
      subst hv
      rw [← List.append_assoc] at hsource
      have hlt : w.length < (bytes ++ w).length := by
        simpa using List.length_pos_of_ne_nil hne
      obtain ⟨more, later, rfl, hnext, htail⟩ := ih _ (hn ▸ hlt) hsource rfl
      rw [List.append_assoc] at hnext htail
      rw [nextItem, loop_of_inr hpass (by simpa using hlt), hitems]
      exact ⟨bytes ++ more, later, (List.append_assoc ..).symm, hnext, htail⟩

end Turns

namespace CursorScanner

variable {source : String} {items : List (Except ScanError Comment)} {s : CursorScanner}

structure Shows (source : String) (items : List (Except ScanError Comment))
    (s : CursorScanner) : Prop where
  text : s.source = source
  place : ∃ u v, s.cursor = between u v ∧ Bytes.ofString source = u ++ v ∧
    items = if s.failed then [] else (behind u v).items

theorem shows_ofString (source : String) :
    Shows source (Scan.ofBytes (Bytes.ofString source)).items (ofString source) where
  text := rfl
  place := ⟨[], _, rfl, rfl, rfl⟩

theorem Shows.next (h : Shows source items s) :
    ∃ s', s.next = pure (items.head?, s') ∧ s.cursor.pos ≤ s'.cursor.pos ∧
      Shows source items.tail s' ∧ ∀ c, items.head? = some (.ok c) → c.Whole source := by
  obtain ⟨rfl, u, v, hcursor, hsource, rfl⟩ := h
  rcases s with ⟨source, cursor, _ | _⟩
  · obtain rfl : cursor = between u v := hcursor
    obtain ⟨bytes, w, rfl, hnext, htail, hwhole⟩ := Cursor.nextItem_eq hsource
    refine ⟨⟨source, between (u ++ bytes) w, _⟩, congrArg (· >>= _) hnext, by simp,
      ⟨rfl, u ++ bytes, w, rfl, ?_, htail⟩, hwhole⟩
    rw [hsource, List.append_assoc]
  · exact ⟨_, rfl, Nat.le_refl _, ⟨rfl, u, v, hcursor, hsource, rfl⟩, nofun⟩

theorem Shows.exists_states (h : Shows source items s) :
    ∃ states : Nat → CursorScanner, states 0 = s ∧ ∀ k,
      Shows source (items.drop k) (states k) ∧
        (states k).next = pure (items[k]?, states (k + 1)) ∧
        (states k).cursor.pos ≤ (states (k + 1)).cursor.pos ∧
        ∀ c, items[k]? = some (.ok c) → c.Whole source := by
  have hstep : ∀ (k : Nat) (s : CursorScanner), ∃ s', Shows source (items.drop k) s →
      Shows source (items.drop (k + 1)) s' ∧ s.next = pure (items[k]?, s') ∧
        s.cursor.pos ≤ s'.cursor.pos ∧ ∀ c, items[k]? = some (.ok c) → c.Whole source := by
    intro k s
    by_cases hs : Shows source (items.drop k) s
    · obtain ⟨s', hnext, hpos, hs', hwhole⟩ := hs.next
      rw [List.head?_drop] at hnext hwhole
      rw [List.tail_drop] at hs'
      exact ⟨s', fun _ => ⟨hs', hnext, hpos, hwhole⟩⟩
    · exact ⟨s, fun h => absurd h hs⟩
  choose after hafter using hstep
  have hshows : ∀ k, Shows source (items.drop k) (Nat.rec s after k) := by
    intro k
    induction k with
    | zero => exact h
    | succ k ih => exact (hafter k _ ih).1
  exact ⟨fun k => Nat.rec s after k, rfl, fun k => ⟨hshows k, (hafter k _ (hshows k)).2⟩⟩

end CursorScanner

section Escape

theorem Cursor.toOpening_of_not_idle {b : UInt8} (h : ¬ Idle b) (u w : Bytes) :
    (between u (b :: w)).toOpening = pure (between u (b :: w)) := by
  obtain ⟨code, back, hw, hcode, -, hopening⟩ := toOpening_cases u (b :: w)
  cases code with
  | nil =>
    obtain rfl : b :: w = back := hw
    rw [hopening, List.append_nil]
  | cons c code =>
    obtain ⟨rfl, -⟩ := List.cons.inj hw
    exact absurd (hcode b List.mem_cons_self) h

/-- Of a character behind a backslash a cursor goes over the first byte only. -/
theorem Cursor.closeString_escape (u : Bytes) (lead : UInt8) {more : Bytes}
    (h : ∀ b ∈ more, 128 ≤ b) :
    (between u (92 :: lead :: more)).closeString =
      pure (false, between (u ++ [92, lead]) more) := by
  have hnone : more.findIdx? (fun b => b = 34 || b = 92) = none := by
    refine List.findIdx?_eq_none_iff.2 fun b hb => ?_
    have hne {c : UInt8} (hc : c < 128) : b ≠ c := fun e => UInt8.not_lt.2 (h b hb) (e ▸ hc)
    simp [hne (c := 34) (by decide), hne (c := 92) (by decide)]
  have hescape : (between u (92 :: lead :: more)).stringPass =
      pure (.inr (between (u ++ [92, lead]) more)) := by
    rw [stringPass, find?_between, pure_bind]
    simp [List.findIdx?_cons, advance_zero]
  have hstop : (between (u ++ [92, lead]) more).stringPass =
      pure (.inl (false, between (u ++ [92, lead]) more)) := by
    rw [stringPass, find?_between, hnone]
    rfl
  have hlt : (between (u ++ [92, lead]) more).left < (between u (92 :: lead :: more)).left := by
    simp only [left_between, List.length_cons]
    omega
  rw [closeString, loop_of_inr hescape hlt, loop_of_inl hstop]

theorem not_isValid_escape {x : Char} (hx : 128 ≤ x.toNat) :
    ¬ String.Pos.Raw.IsValid (.ofList ['"', '\\', x]) ⟨3⟩ := by
  intro h
  obtain ⟨front, back, hsource, hfront⟩ := String.Pos.Raw.isValid_iff_exists_append.1 h
  have hlength : (encode front.toList).length = 3 := by
    rw [← ofString_eq, length_ofString]
    exact (congrArg String.Pos.Raw.byteIdx hfront).symm
  have hlist : ['"', '\\', x] = front.toList ++ back.toList := by
    rw [← String.toList_append, ← hsource, String.toList_ofList]
  have hwidth : 2 ≤ (String.utf8EncodeChar x).length := by
    rw [String.length_utf8EncodeChar, Char.utf8Size]
    split_ifs with h
    · have hle : x.toNat ≤ 127 := UInt32.le_iff_toNat_le.1 h
      omega
    all_goals decide
  generalize front.toList = cs at hlength hlist
  match cs, hlist with
  | [], _ => cases hlength
  | [a], hlist =>
    obtain ⟨rfl, -⟩ := List.cons.inj hlist
    cases hlength
  | [a, b], hlist =>
    simp only [List.cons_append, List.cons.injEq] at hlist
    obtain ⟨rfl, rfl, -⟩ := hlist
    cases hlength
  | a :: b :: c :: cs, hlist =>
    simp only [List.cons_append, List.cons.injEq] at hlist
    obtain ⟨rfl, rfl, rfl, -⟩ := hlist
    have hfirst : (String.utf8EncodeChar '"').length = 1 := rfl
    have hsecond : (String.utf8EncodeChar '\\').length = 1 := rfl
    simp only [encode_cons, List.length_append] at hlength
    omega

theorem CursorScanner.next_escape {x : Char} (hx : 128 ≤ x.toNat) :
    ∃ s, (ofString (.ofList ['"', '\\', x])).next =
        pure (some (.error (.unterminatedString 1)), s) ∧ s.cursor.pos = 3 := by
  obtain ⟨lead, more, hchar, hmore⟩ : ∃ lead more, String.utf8EncodeChar x = lead :: more ∧
      ∀ b ∈ more, 128 ≤ b := by
    rcases utf8EncodeChar_cases x with ⟨h, -⟩ | ⟨lead, more, hchar, -, hmore⟩
    · omega
    · exact ⟨lead, more, hchar, fun b hb => hmore b (List.mem_cons_of_mem lead hb)⟩
  have hbytes : Bytes.ofString (.ofList ['"', '\\', x]) = 34 :: 92 :: lead :: more := by
    rw [ofString_ofList, encode_cons, encode_cons, encode_cons, hchar, encode_nil, List.append_nil]
    rfl
  have hturn : (between [] (34 :: 92 :: lead :: more)).turn (.ofList ['"', '\\', x]) =
      pure (.failed (.unterminatedString 1), between [34, 92, lead] more) := by
    have hraw : (between [] (34 :: 92 :: lead :: more)).rawHashes? = none :=
      Cursor.rawHashes?_between
    rw [Cursor.turn, Cursor.toOpening_of_not_idle (by simp [Idle]), pure_bind,
      Cursor.ahead?_between]
    simp only [List.getElem?_cons_zero]
    rw [Cursor.quote, hraw, Cursor.advance_cons, Cursor.advance_zero,
      Cursor.closeString_escape _ lead hmore, pure_bind, Cursor.closing, Cursor.line_between,
      pure_bind]
    rfl
  have hcursor : (ofString (.ofList ['"', '\\', x])).cursor =
      between [] (34 :: 92 :: lead :: more) := congrArg (Cursor.mk · 0) hbytes
  have hitem : (ofString (.ofList ['"', '\\', x])).cursor.nextItem (.ofList ['"', '\\', x]) =
      pure (some (.error (.unterminatedString 1)), between [34, 92, lead] more) := by
    have hpass : (between [] (34 :: 92 :: lead :: more)).itemPass (.ofList ['"', '\\', x]) =
        pure (.inl (some (.error (.unterminatedString 1)), between [34, 92, lead] more)) := by
      rw [Cursor.itemPass, hturn]
      rfl
    rw [hcursor, Cursor.nextItem, Cursor.loop_of_inl hpass]
  exact ⟨_, congrArg (· >>= _) hitem, rfl⟩

end Escape

structure Cursor.In (source : String) (c : Cursor) : Prop where
  bytes : c.bytes = Bytes.ofString source
  pos : c.pos ≤ (Bytes.ofString source).length

theorem Cursor.In.exists_between {source : String} {c : Cursor} (h : c.In source) :
    ∃ u v, c = between u v ∧ Bytes.ofString source = u ++ v := by
  obtain ⟨u, v, rfl⟩ := Cursor.exists_between (h.bytes ▸ h.pos)
  exact ⟨u, v, rfl, h.bytes.symm⟩

theorem Cursor.in_between {source : String} {u v : Bytes} (h : Bytes.ofString source = u ++ v) :
    (between u v).In source where
  bytes := h.symm
  pos := by simp [h]

theorem Cursor.In.exists_turn {source : String} {c : Cursor} (h : c.In source) :
    ∃ turn c', c.turn source = pure (turn, c') ∧ c'.In source ∧ c.pos ≤ c'.pos ∧
      (turn = .onward → c.pos < c'.pos) ∧
      ∀ comment, turn = .found comment → comment.Whole source := by
  obtain ⟨u, v, rfl, hsource⟩ := h.exists_between
  have hturns := turns hsource
  have hin {bytes w : Bytes} (hv : v = bytes ++ w) : (between (u ++ bytes) w).In source :=
    in_between (by rw [hsource, hv, List.append_assoc])
  generalize (between u v).turn source = run at hturns ⊢
  cases hturns with
  | ended => exact ⟨_, _, rfl, hin (List.append_nil v).symm, by simp, nofun, nofun⟩
  | found hv _ hwhole =>
    refine ⟨_, _, rfl, hin hv, by simp, nofun, ?_⟩
    rintro _ ⟨⟩
    exact hwhole
  | failed hv => exact ⟨_, _, rfl, hin hv, by simp, nofun, nofun⟩
  | onward hv hne =>
    have := List.length_pos_of_ne_nil hne
    exact ⟨_, _, rfl, hin hv, by simp, fun _ => by simp; omega, nofun⟩

/-- A source is scanned without a wrong cut, and the scan comes to its end. -/
theorem CursorScanner.scans_safely :
    (∀ source : String,
      let scanner := Scanner.ofBytes (Bytes.ofString source)
      (∀ c : Cursor, c.In source → ∃ turn c', c.turn source = pure (turn, c') ∧
        c'.In source ∧ c.pos ≤ c'.pos ∧ (turn = .onward → c.pos < c'.pos) ∧
        ∀ comment, turn = .found comment → comment.Whole source) ∧
      ∃ states : Nat → CursorScanner, states 0 = ofString source ∧
        (∀ k, (states k).next = pure (scanner.call k, states (k + 1)) ∧
          (states k).cursor.In source ∧ (states k).cursor.pos ≤ (states (k + 1)).cursor.pos ∧
          ∀ comment, scanner.call k = some (.ok comment) → comment.Whole source) ∧
        ∃ n ≤ (Bytes.ofString source).length + 1, ∀ k, n ≤ k → scanner.call k = none) ∧
    ∀ x : Char, 128 ≤ x.toNat →
      let source := String.ofList ['"', '\\', x]
      ∃ s, (ofString source).next = pure (some (.error (.unterminatedString 1)), s) ∧
        ¬ String.Pos.Raw.IsValid source ⟨s.cursor.pos⟩ := by
  refine ⟨fun source => ⟨fun c hc => hc.exists_turn, ?_⟩, fun x hx => ?_⟩
  · have hcall (k : Nat) := Scanner.call_eq (.ofBytes (Bytes.ofString source)) k
    obtain ⟨states, hfirst, hstates⟩ := (shows_ofString source).exists_states
    refine ⟨states, hfirst, fun k => ?_, (Scan.ofBytes (Bytes.ofString source)).items.length, ?_,
      fun k hk => ?_⟩
    · obtain ⟨⟨-, u, v, hcursor, hsource, -⟩, hnext, hpos, hwhole⟩ := hstates k
      rw [hcall]
      exact ⟨hnext, hcursor ▸ Cursor.in_between hsource, hpos, hwhole⟩
    · exact (Scan.length_items_le _).trans (Nat.succ_le_succ (Scan.length_pieces_after_le ..))
    · rw [hcall]
      exact List.getElem?_eq_none hk
  · obtain ⟨s, hnext, hpos⟩ := next_escape hx
    exact ⟨s, hnext, hpos ▸ not_isValid_escape hx⟩

theorem CursorScanner.scans_safely_behind_escape :
    let source := "\"\\é\" // é\r\n"
    let comment : Comment := ⟨.line, "// é", 6⟩
    (∃ turn c', (⟨Bytes.ofString source, 3⟩ : Cursor).turn source = pure (turn, c') ∧ 3 ≤ c'.pos) ∧
      (∃ states : Nat → CursorScanner, states 0 = ofString source ∧
        (states 0).next = pure (some (.ok comment), states 1) ∧ comment.Whole source) ∧
      128 ≤ 'é'.toNat ∧
      ∃ s, (ofString (.ofList ['"', '\\', 'é'])).next =
        pure (some (.error (.unterminatedString 1)), s) := by
  intro source comment
  have hcall : (Scanner.ofBytes (Bytes.ofString source)).call 0 = some (.ok comment) := by
    decide +kernel
  have hin : (⟨Bytes.ofString source, 3⟩ : Cursor).In source := ⟨rfl, by decide +kernel⟩
  obtain ⟨hturn, states, hfirst, hstates, -⟩ := scans_safely.1 source
  obtain ⟨turn, c', hturn, -, hpos, -⟩ := hturn _ hin
  obtain ⟨hnext, -, -, hwhole⟩ := hstates 0
  obtain ⟨s, hfailed, -⟩ := scans_safely.2 'é' (by decide)
  exact ⟨⟨turn, c', hturn, hpos⟩, ⟨states, hfirst, hcall ▸ hnext, hwhole _ hcall⟩, by decide,
    s, hfailed⟩

end InlineAssert
