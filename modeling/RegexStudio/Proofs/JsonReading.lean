import RegexStudio.Proofs.JsonNumbers

/-! Whole values as they are read. The reader takes exactly the values of the grammar that have a
meaning: its fuel is no limit, and a text is one value with blanks around it. -/

namespace RegexStudio.Json

open Reader

variable {c : Cursor} {t u r : List Char} {first : Bool}

@[simp] theorem afterBlanks_afterBlanks (t : List Char) :
    afterBlanks (afterBlanks t) = afterBlanks t := List.dropWhile_idempotent _ _

theorem Starts.afterBlanks_eq {s : List Char} (h : Starts first t s) : afterBlanks s = s := by
  cases h <;> exact afterBlanks_afterBlanks _

theorem length_lt_of_afterBlanks {x : Char} (h : afterBlanks t = x :: r) :
    r.length < t.length := by
  have hle := length_afterBlanks_le t
  rw [h, List.length_cons] at hle
  omega

theorem Starts.length_le {s : List Char} (h : Starts first t s) : s.length ≤ t.length := by
  cases h with
  | first => exact length_afterBlanks_le t
  | next h => exact (length_afterBlanks_le _).trans (length_lt_of_afterBlanks h).le

theorem Body.length_lt {ps : List Piece} (h : Body t ps r) : r.length < t.length := by
  induction h with
  | close => exact Nat.lt_succ_self _
  | plain | short =>
    simp only [List.length_cons]
    omega
  | unit hn =>
    obtain ⟨_, _, _, _, rfl, -⟩ := hn
    simp only [List.length_cons]
    omega

theorem Magnitude.length_lt {n : Numeral} (h : Magnitude t n r) : r.length < t.length := by
  obtain ⟨u, v, hw, hf, he⟩ := h
  have hv : v.length ≤ u.length := by
    generalize n.fraction = fs at hf
    cases hf with
    | absent => exact le_rfl
    | digits h => exact h.length_lt.le.trans (Nat.le_succ _)
  have hr : r.length ≤ v.length := by
    generalize n.exponent = ex at he
    cases he with
    | absent => exact le_rfl
    | @digits t _ _ _ _ h =>
      have hsign : (exponentSign t).2.length ≤ t.length := by
        unfold exponentSign
        split <;> simp
      have := h.length_lt
      rw [List.length_cons]
      omega
  exact (hr.trans hv).trans_lt hw.1.length_lt

mutual

theorem Spells.length_lt {t r : List Char} {x : Written} (h : Spells t x r) :
    r.length < t.length := by
  match h with
  | .null | .yes | .no =>
    simp only [List.length_cons]
    omega
  | .number _ h => exact h.length_lt
  | .negative _ h => exact h.length_lt.trans (Nat.lt_succ_self _)
  | .string h => exact h.length_lt.trans (Nat.lt_succ_self _)
  | .array h => exact (Items.length_lt h).trans (Nat.lt_succ_self _)
  | .object h => exact (Members.length_lt h).trans (Nat.lt_succ_self _)
termination_by structural h

theorem Items.length_lt {first : Bool} {t r : List Char} {xs : List Written}
    (h : Items first t xs r) : r.length < t.length := by
  match h with
  | .close h => exact length_lt_of_afterBlanks h
  | .item hstart hx hs =>
    exact ((Items.length_lt hs).trans (Spells.length_lt hx)).trans_le hstart.length_le
termination_by structural h

theorem Members.length_lt {first : Bool} {t r : List Char} {ms : List (List Piece × Written)}
    (h : Members first t ms r) : r.length < t.length := by
  match h with
  | .close h => exact length_lt_of_afterBlanks h
  | .member hstart hm hs =>
    exact ((Members.length_lt hs).trans (Member.length_lt hm)).trans_le hstart.length_le
termination_by structural h

theorem Member.length_lt {t r : List Char} {m : List Piece × Written} (h : Member t m r) :
    r.length < t.length := by
  match h with
  | .mk hkey hcolon hx =>
    have hvalue := (Spells.length_lt hx).trans_le (length_afterBlanks_le _)
    have hname := (length_lt_of_afterBlanks hcolon).trans hkey.length_lt
    exact (hvalue.trans hname).trans (Nat.lt_succ_self _)
termination_by structural h

end

theorem Spells.ne_nil {x : Written} (h : Spells t x r) : t ≠ [] := by
  obtain ⟨_, _, rfl, -⟩ := h.head
  exact List.cons_ne_nil _ _

theorem Spells.not_close {x : Written} (h : Spells t x r) (u : List Char) : t ≠ ']' :: u := by
  rintro rfl
  exact not_spells (by decide) rfl h

theorem ident_iff {xs : List Char} : Skips (ident xs c) r ↔ c.rest = xs ++ r := by
  induction xs generalizing c with
  | nil => exact skips_ok
  | cons x xs ih =>
    unfold ident
    split
    · rename_i hrest
      rw [hrest]
      exact iff_of_false not_skips_fault nofun
    · rename_i y t hrest
      rw [hrest]
      split
      · rename_i hx
        rw [ih, Cursor.rest_bump, hrest, eq_of_beq hx]
        simp
      · rename_i hx
        refine iff_of_false not_skips_faultAfter fun h => hx ?_
        simp [List.head_eq_of_cons_eq h]

theorem word_iff {α : Type} {a a' : α} {xs : List Char} :
    Reads (do .ok (a, ← ident xs c)) a' r ↔ a = a' ∧ c.rest = xs ++ r := by
  rw [skips_reads_bind (Q := fun u => a = a' ∧ u = r) (fun _ => ident_iff) fun _ _ => reads_ok]
  constructor
  · rintro ⟨u, h, ha, rfl⟩
    exact ⟨ha, h⟩
  · rintro ⟨ha, h⟩
    exact ⟨r, h, ha, rfl⟩

theorem colon_iff : Skips (colon c) r ↔ afterBlanks c.rest = ':' :: r := by
  unfold colon
  dsimp only
  rw [Cursor.rest_skipSpace]
  split
  · rename_i h
    simp [h]
  · rename_i h
    simp [h]
  · rename_i hcolon _
    exact iff_of_false not_skips_peekFault (hcolon _)

theorem nextItem_none : nextItem first c = .ok none ↔ ∃ r, afterBlanks c.rest = ']' :: r := by
  unfold nextItem
  dsimp only
  rw [Cursor.rest_skipSpace]
  split
  · rename_i h
    simp [h, Cursor.peekFault, Cursor.faultAfter]
  · rename_i h
    simp [h]
  · rename_i h
    rw [h]
    refine iff_of_false (fun hnext => ?_) (by simp)
    split at hnext
    · cases hnext
    · split at hnext <;> cases hnext
  · rename_i hclose _
    refine iff_of_false (fun hnext => ?_) (not_exists.2 hclose)
    split at hnext <;> cases hnext

theorem nextItem_some {s : List Char} : (∃ c', nextItem first c = .ok (some c') ∧ c'.rest = s) ↔
    Starts first c.rest s ∧ s ≠ [] ∧ ∀ r, s ≠ ']' :: r := by
  have hbump {x : Char} {t : List Char} (h : afterBlanks c.rest = x :: t) :
      c.skipSpace.bump.skipSpace.rest = afterBlanks t := by
    rw [Cursor.rest_skipSpace, Cursor.rest_bump, Cursor.rest_skipSpace, h, List.tail_cons]
  unfold nextItem
  dsimp only
  rw [Cursor.rest_skipSpace]
  constructor
  · rintro ⟨c', hnext, rfl⟩
    cases first
    · -- behind a comma
      split at hnext
      case h_3 t h =>
        rw [if_neg Bool.false_ne_true, hbump h] at hnext
        split at hnext
        · cases hnext
        · cases hnext
        · rename_i hclose hend
          cases hnext
          rw [hbump h]
          exact ⟨.next h, hend, hclose⟩
      all_goals cases hnext
    · split at hnext
      case h_1 | h_2 => cases hnext
      case h_3 t h =>
        cases hnext
        rw [Cursor.rest_skipSpace]
        exact ⟨.first, by simp [h], by simp [h]⟩
      case h_4 hend hclose _ =>
        cases hnext
        rw [Cursor.rest_skipSpace]
        exact ⟨.first, hend, hclose⟩
  · rintro ⟨hstart, hend, hclose⟩
    cases hstart with
    | first =>
      split
      · exact absurd ‹_› hend
      · exact absurd ‹_› (hclose _)
      · exact ⟨_, rfl, Cursor.rest_skipSpace c⟩
      · exact ⟨_, rfl, Cursor.rest_skipSpace c⟩
    | next h =>
      split
      case h_3 t' h' =>
        obtain rfl := List.tail_eq_of_cons_eq (h.symm.trans h')
        rw [if_neg Bool.false_ne_true, hbump h]
        split
        · exact absurd ‹_› (hclose _)
        · exact absurd ‹_› hend
        · exact ⟨_, rfl, hbump h⟩
      case h_4 hcomma => exact absurd h (hcomma _)
      case h_1 h' | h_2 h' => cases h.symm.trans h'

theorem nextKey_none : nextKey first c = .ok none ↔ ∃ r, afterBlanks c.rest = '\x7d' :: r := by
  have hstring (c : Cursor) : (do
      let x ← Reader.string c
      Except.ok (some (x.1, x.2))) ≠ Except.ok none := fun h => by
    obtain ⟨_, -, ⟨⟩⟩ := bind_eq_ok.1 h
  unfold nextKey
  dsimp only
  rw [Cursor.rest_skipSpace]
  split
  · rename_i h
    rw [h]
    exact iff_of_false nofun nofun
  · rename_i h
    simp [h]
  · rename_i h
    rw [h]
    refine iff_of_false ?_ nofun
    split
    · nofun
    · split
      · exact hstring _
      all_goals nofun
  · rename_i h
    rw [h]
    refine iff_of_false ?_ nofun
    split
    · exact hstring _
    · nofun
  · rename_i hclose _ _
    exact iff_of_false nofun fun ⟨_, h⟩ => hclose _ h

theorem key_iff {key : String} {s : List Char} (hc : c.rest = '\x22' :: s) : (∃ c', (do
      let x ← Reader.string c.bump
      Except.ok (some (x.1, x.2))) = Except.ok (some (key, c')) ∧ c'.rest = r) ↔
    ∃ ps, Body s ps r ∧ stringOf? ps = some key := by
  have hs : c.bump.rest = s := by rw [Cursor.rest_bump, hc, List.tail_cons]
  rw [← hs, ← string_iff]
  constructor
  · rintro ⟨_, hdo, rfl⟩
    obtain ⟨⟨k, c'⟩, hread, heq⟩ := bind_eq_ok.1 hdo
    cases heq
    exact reads_of_eq_ok hread
  · rintro ⟨c', hread, rfl⟩
    exact ⟨c', bind_eq_ok.2 ⟨_, hread, rfl⟩, rfl⟩

theorem nextKey_some {key : String} : (∃ c', nextKey first c = .ok (some (key, c')) ∧ c'.rest = r) ↔
    ∃ s ps, Starts first c.rest ('\x22' :: s) ∧ Body s ps r ∧ stringOf? ps = some key := by
  have hbump {t : List Char} (h : afterBlanks c.rest = ',' :: t) :
      c.skipSpace.bump.skipSpace.rest = afterBlanks t := by
    rw [Cursor.rest_skipSpace, Cursor.rest_bump, Cursor.rest_skipSpace, h, List.tail_cons]
  unfold nextKey
  dsimp only
  rw [Cursor.rest_skipSpace]
  constructor
  · rintro ⟨c', hnext, hrest⟩
    split at hnext
    case h_3 t h =>
      -- a comma, which may not come first
      split at hnext
      · cases hnext
      rename_i hfirst
      obtain rfl := eq_false_of_ne_true hfirst
      split at hnext
      · rename_i s hs
        obtain ⟨ps, hbody, hkey⟩ := (key_iff hs).1 ⟨c', hnext, hrest⟩
        rw [hbump h] at hs
        exact ⟨s, ps, hs ▸ .next h, hbody, hkey⟩
      all_goals cases hnext
    case h_4 s hs =>
      split at hnext
      · rename_i hfirst
        obtain rfl := hfirst
        rw [← Cursor.rest_skipSpace] at hs
        obtain ⟨ps, hbody, hkey⟩ := (key_iff hs).1 ⟨c', hnext, hrest⟩
        rw [Cursor.rest_skipSpace] at hs
        exact ⟨s, ps, hs ▸ .first, hbody, hkey⟩
      · cases hnext
    all_goals cases hnext
  · rintro ⟨s, ps, hstart, hbody, hkey⟩
    generalize hquote : '\x22' :: s = s' at hstart
    cases hstart with
    | first =>
      split
      case h_4 t ht =>
        cases hquote.trans ht
        rw [if_pos rfl]
        exact (key_iff (by rw [Cursor.rest_skipSpace, ht])).2 ⟨ps, hbody, hkey⟩
      case h_5 hno => exact absurd hquote.symm (hno _)
      case h_1 h | h_2 h | h_3 h => cases hquote.trans h
    | next h =>
      split
      case h_3 t h' =>
        obtain rfl := List.tail_eq_of_cons_eq (h.symm.trans h')
        rw [if_neg Bool.false_ne_true]
        split
        case h_1 t' ht' =>
          cases (hquote.trans (hbump h).symm).trans ht'
          exact (key_iff ht').2 ⟨ps, hbody, hkey⟩
        case h_4 hno _ _ => exact absurd ((hbump h).trans hquote.symm) (hno _)
        case h_2 h' | h_3 h' => cases (hquote.trans (hbump h).symm).trans h'
      case h_5 hno _ => exact absurd h (hno _)
      case h_1 h' | h_2 h' | h_4 h' => cases h.symm.trans h'

theorem closeArray_iff : (closeArray c).1 = .ok () ∧ (closeArray c).2.rest = r ↔
    afterBlanks c.rest = ']' :: r := by
  unfold closeArray
  dsimp only
  rw [Cursor.rest_skipSpace]
  split
  · rename_i h
    simp [h]
  · rename_i h
    rw [h]
    refine iff_of_false ?_ nofun
    split <;> exact fun h => nomatch h.1
  · rename_i h
    rw [h]
    exact iff_of_false (fun h => nomatch h.1) nofun
  · rename_i hclose _ _
    exact iff_of_false (fun h => nomatch h.1) (hclose _)

theorem closeObject_iff : (closeObject c).1 = .ok () ∧ (closeObject c).2.rest = r ↔
    afterBlanks c.rest = '\x7d' :: r := by
  unfold closeObject
  dsimp only
  rw [Cursor.rest_skipSpace]
  split
  · rename_i h
    simp [h]
  · rename_i h
    rw [h]
    exact iff_of_false (fun h => nomatch h.1) nofun
  · rename_i h
    rw [h]
    exact iff_of_false (fun h => nomatch h.1) nofun
  · rename_i hclose _ _
    exact iff_of_false (fun h => nomatch h.1) (hclose _)

theorem finish_iff : finish c = .ok () ↔ afterBlanks c.rest = [] := by
  unfold finish
  dsimp only
  rw [Cursor.rest_skipSpace]
  cases afterBlanks c.rest with
  | nil => exact iff_of_true rfl rfl
  | cons => exact iff_of_false nofun nofun

def ReadsValues (fuel : Nat) : Prop :=
  ∀ {depth c v r}, 2 * c.rest.length < fuel → (Reads (value depth fuel c) v r ↔
    ∃ x, Spells (afterBlanks c.rest) x r ∧ x.value? depth = some v)

def ReadsItems (fuel : Nat) : Prop :=
  ∀ {depth first c vs r}, 2 * c.rest.length + 1 < fuel →
    ((∃ c', itemsFrom depth first fuel c = .ok (vs, c') ∧ afterBlanks c'.rest = ']' :: r) ↔
      ∃ xs, Items first c.rest xs r ∧ valuesOf? depth xs = some vs)

def ReadsMembers (fuel : Nat) : Prop :=
  ∀ {depth first c vs r}, 2 * c.rest.length + 1 < fuel →
    ((∃ c', membersFrom depth first fuel c = .ok (vs, c') ∧ afterBlanks c'.rest = '\x7d' :: r) ↔
      ∃ ms, Members first c.rest ms r ∧ membersOf? depth ms = some vs)

theorem valuesOf?_cons {depth : Nat} {x : Written} {xs : List Written} {vs : List Json} :
    valuesOf? depth (x :: xs) = some vs ↔
      ∃ v vs', x.value? depth = some v ∧ valuesOf? depth xs = some vs' ∧ v :: vs' = vs := by
  simp [valuesOf?, Option.bind_eq_some_iff]

theorem membersOf?_cons {depth : Nat} {k : List Piece} {x : Written}
    {ms : List (List Piece × Written)} {vs : List (String × Json)} :
    membersOf? depth ((k, x) :: ms) = some vs ↔ ∃ key v vs', stringOf? k = some key ∧
      x.value? depth = some v ∧ membersOf? depth ms = some vs' ∧ (key, v) :: vs' = vs := by
  simp [membersOf?, Option.bind_eq_some_iff]

theorem items_step {fuel : Nat} (hvalue : ReadsValues fuel) (hitems : ReadsItems fuel) :
    ReadsItems (fuel + 1) := by
  intro depth first c vs r hfuel
  unfold itemsFrom
  constructor
  · rintro ⟨c', h, hclose⟩
    obtain ⟨next, hnext, h⟩ := bind_eq_ok.1 h
    cases next with
    | none =>
      cases h
      exact ⟨[], .close hclose, rfl⟩
    | some c₁ =>
      obtain ⟨⟨v, c₂⟩, hv, h⟩ := bind_eq_ok.1 h
      obtain ⟨⟨vs', c₃⟩, hvs, h⟩ := bind_eq_ok.1 h
      cases h
      obtain ⟨hstart, -⟩ := nextItem_some.1 ⟨c₁, hnext, rfl⟩
      have hle := hstart.length_le
      obtain ⟨x, hx, hxv⟩ := (hvalue (by omega)).1 (reads_of_eq_ok hv)
      rw [hstart.afterBlanks_eq] at hx
      have hlt := hx.length_lt
      obtain ⟨xs, hxs, hxsv⟩ := (hitems (by omega)).1 ⟨c', hvs, hclose⟩
      exact ⟨x :: xs, .item hstart hx hxs, valuesOf?_cons.2 ⟨v, vs', hxv, hxsv, rfl⟩⟩
  · rintro ⟨_, h | ⟨hstart, hx, hxs⟩, hvs⟩
    · obtain rfl := Option.some.inj hvs
      exact ⟨c, bind_eq_ok.2 ⟨none, nextItem_none.2 ⟨r, h⟩, rfl⟩, h⟩
    · obtain ⟨v, vs', hxv, hxsv, rfl⟩ := valuesOf?_cons.1 hvs
      have hlt := hx.length_lt
      have hle := hstart.length_le
      obtain ⟨c₁, hnext, rfl⟩ := nextItem_some.2 ⟨hstart, hx.ne_nil, hx.not_close⟩
      rw [← hstart.afterBlanks_eq] at hx
      obtain ⟨c₂, hv, rfl⟩ := (hvalue (by omega)).2 ⟨_, hx, hxv⟩
      obtain ⟨c₃, hvs, hclose⟩ := (hitems (by omega)).2 ⟨_, hxs, hxsv⟩
      exact ⟨c₃, bind_eq_ok.2 ⟨_, hnext, bind_eq_ok.2 ⟨_, hv, bind_eq_ok.2 ⟨_, hvs, rfl⟩⟩⟩, hclose⟩

theorem members_step {fuel : Nat} (hvalue : ReadsValues fuel) (hmembers : ReadsMembers fuel) :
    ReadsMembers (fuel + 1) := by
  intro depth first c vs r hfuel
  unfold membersFrom
  constructor
  · rintro ⟨c', h, hclose⟩
    obtain ⟨next, hnext, h⟩ := bind_eq_ok.1 h
    cases next with
    | none =>
      cases h
      exact ⟨[], .close hclose, rfl⟩
    | some p =>
      obtain ⟨key, c₁⟩ := p
      obtain ⟨c₂, hcolon, h⟩ := bind_eq_ok.1 h
      obtain ⟨⟨v, c₃⟩, hv, h⟩ := bind_eq_ok.1 h
      obtain ⟨⟨vs', c₄⟩, hvs, h⟩ := bind_eq_ok.1 h
      cases h
      obtain ⟨s, k, hstart, hbody, hk⟩ := nextKey_some.1 ⟨c₁, hnext, rfl⟩
      have hcolon := colon_iff.1 (skips_of_eq_ok hcolon)
      have hle := hstart.length_le
      have hname := (length_lt_of_afterBlanks hcolon).trans hbody.length_lt
      rw [List.length_cons] at hle
      obtain ⟨x, hx, hxv⟩ := (hvalue (by omega)).1 (reads_of_eq_ok hv)
      have hlt := hx.length_lt.trans_le (length_afterBlanks_le _)
      obtain ⟨ms, hms, hmsv⟩ := (hmembers (by omega)).1 ⟨c', hvs, hclose⟩
      exact ⟨(k, x) :: ms, .member hstart (.mk hbody hcolon hx) hms,
        membersOf?_cons.2 ⟨key, v, vs', hk, hxv, hmsv, rfl⟩⟩
  · rintro ⟨_, h | ⟨hstart, ⟨hbody, hcolon, hx⟩, hms⟩, hvs⟩
    · obtain rfl := Option.some.inj hvs
      exact ⟨c, bind_eq_ok.2 ⟨none, nextKey_none.2 ⟨r, h⟩, rfl⟩, h⟩
    · obtain ⟨key, v, vs', hk, hxv, hmsv, rfl⟩ := membersOf?_cons.1 hvs
      have hlt := hx.length_lt.trans_le (length_afterBlanks_le _)
      have hname := (length_lt_of_afterBlanks hcolon).trans hbody.length_lt
      have hle := hstart.length_le
      rw [List.length_cons] at hle
      obtain ⟨c₁, hnext, rfl⟩ := nextKey_some.2 ⟨_, _, hstart, hbody, hk⟩
      obtain ⟨c₂, hread, rfl⟩ := colon_iff.2 hcolon
      obtain ⟨c₃, hv, rfl⟩ := (hvalue (by omega)).2 ⟨_, hx, hxv⟩
      obtain ⟨c₄, hvs, hclose⟩ := (hmembers (by omega)).2 ⟨_, hms, hmsv⟩
      exact ⟨c₄, bind_eq_ok.2 ⟨_, hnext, bind_eq_ok.2 ⟨_, hread, bind_eq_ok.2 ⟨_, hv,
        bind_eq_ok.2 ⟨_, hvs, rfl⟩⟩⟩⟩, hclose⟩

theorem reads_word {depth : Nat} {x : Char} {xs : List Char} {w : Written} {a v : Json}
    (hrest : c.rest = t) (hw : ∀ y, Spells (x :: t) y r ↔ y = w ∧ t = xs ++ r)
    (ha : w.value? depth = some a) : Reads (do .ok (a, ← ident xs c)) v r ↔
      ∃ y, Spells (x :: t) y r ∧ y.value? depth = some v := by
  simp only [word_iff, hrest, hw]
  constructor
  · rintro ⟨rfl, h⟩
    exact ⟨w, ⟨rfl, h⟩, ha⟩
  · rintro ⟨_, ⟨rfl, h⟩, hv⟩
    exact ⟨Option.some.inj (ha.symm.trans hv), h⟩

theorem reads_container {α β : Type} {x : Except Fault (α × Cursor)} {f : α → β} {b : β}
    {mark : Char} {close : Cursor → Except Fault Unit × Cursor}
    (hclose : ∀ c, (close c).1 = .ok () ∧ (close c).2.rest = r ↔ afterBlanks c.rest = mark :: r) :
    Reads (do
      let p ← x
      (close p.2).1
      .ok (f p.1, (close p.2).2)) b r ↔
      ∃ a, (∃ c', x = .ok (a, c') ∧ afterBlanks c'.rest = mark :: r) ∧ f a = b := by
  constructor
  · rintro ⟨_, h, rfl⟩
    obtain ⟨⟨a, c'⟩, hx, h⟩ := bind_eq_ok.1 h
    obtain ⟨_, hdone, h⟩ := bind_eq_ok.1 h
    cases h
    exact ⟨a, ⟨c', hx, (hclose c').1 ⟨hdone, rfl⟩⟩, rfl⟩
  · rintro ⟨a, ⟨c', hx, hmark⟩, rfl⟩
    obtain ⟨hdone, rfl⟩ := (hclose c').2 hmark
    exact ⟨_, bind_eq_ok.2 ⟨_, hx, bind_eq_ok.2 ⟨(), hdone, rfl⟩⟩, rfl⟩

theorem reads_nested {α β : Type} {depth : Nat} {v : Json} {x : Except Fault (α × Cursor)}
    {f : α → Json} {g : β → Written} {P : β → Prop} {m : β → Option α} {mark : Char}
    {close : Cursor → Except Fault Unit × Cursor}
    (hclose : ∀ c, (close c).1 = .ok () ∧ (close c).2.rest = r ↔ afterBlanks c.rest = mark :: r)
    (hspells : ∀ y, Spells t y r ↔ ∃ b, y = g b ∧ P b)
    (hvalue : ∀ b, (g b).value? depth = if depth = 0 then none else (m b).map f)
    (hx : ∀ a, (∃ c', x = .ok (a, c') ∧ afterBlanks c'.rest = mark :: r) ↔
      ∃ b, P b ∧ m b = some a) :
    Reads (if depth = 0 then c.peekFault .recursionLimit else do
      let p ← x
      (close p.2).1
      .ok (f p.1, (close p.2).2)) v r ↔ ∃ y, Spells t y r ∧ y.value? depth = some v := by
  split
  · rename_i hdepth
    refine iff_of_false not_reads_peekFault ?_
    rintro ⟨y, hy, hv⟩
    obtain ⟨b, rfl, -⟩ := (hspells y).1 hy
    rw [hvalue, if_pos hdepth] at hv
    cases hv
  · rename_i hdepth
    rw [reads_container hclose]
    constructor
    · rintro ⟨a, ha, rfl⟩
      obtain ⟨b, hb, hm⟩ := (hx a).1 ha
      exact ⟨g b, (hspells _).2 ⟨b, rfl, hb⟩, by rw [hvalue, if_neg hdepth, hm]; rfl⟩
    · rintro ⟨y, hy, hv⟩
      obtain ⟨b, rfl, hb⟩ := (hspells y).1 hy
      rw [hvalue, if_neg hdepth] at hv
      obtain ⟨a, ha, rfl⟩ := Option.map_eq_some_iff.1 hv
      exact ⟨a, (hx a).2 ⟨b, hb, ha⟩, rfl⟩

theorem reads_number {depth : Nat} {v : Json} {negative : Bool} (hspells : ∀ y, Spells t y r ↔
      ∃ n, y = .number n ∧ n.negative = negative ∧ Magnitude c.rest n r) :
    Reads (number negative c) v r ↔ ∃ y, Spells t y r ∧ y.value? depth = some v := by
  rw [number_iff]
  simp only [hspells]
  constructor
  · rintro ⟨n, hsign, hn, hv⟩
    exact ⟨_, ⟨n, rfl, hsign, hn⟩, hv⟩
  · rintro ⟨_, ⟨n, rfl, hsign, hn⟩, hv⟩
    exact ⟨n, hsign, hn, hv⟩

theorem reads_text {depth : Nat} {v : Json} (hrest : c.rest = t) :
    Reads (do
      let p ← Reader.string c
      .ok (.string p.1, p.2)) v r ↔
      ∃ y, Spells ('\x22' :: t) y r ∧ y.value? depth = some v := by
  rw [reads_bind (Q := fun s u => Json.string s = v ∧ u = r) (fun _ _ => string_iff)
    fun _ _ _ => reads_ok, hrest]
  simp only [spells_string]
  constructor
  · rintro ⟨s, _, ⟨ps, hbody, hs⟩, rfl, rfl⟩
    exact ⟨_, ⟨ps, rfl, hbody⟩, by rw [Written.value?, hs]; rfl⟩
  · rintro ⟨_, ⟨ps, rfl, hbody⟩, hv⟩
    obtain ⟨s, hs, rfl⟩ := Option.map_eq_some_iff.1 hv
    exact ⟨s, r, ⟨ps, hbody, hs⟩, rfl, rfl⟩

theorem value_step {fuel : Nat} (hitems : ReadsItems fuel) (hmembers : ReadsMembers fuel) :
    ReadsValues (fuel + 1) := by
  intro depth c v r hfuel
  unfold value
  dsimp only
  rw [Cursor.rest_skipSpace]
  split
  · rename_i h
    rw [h]
    refine iff_of_false not_reads_peekFault ?_
    rintro ⟨x, hx, -⟩
    exact hx.ne_nil rfl
  rename_i x t hrest
  have hskip : c.skipSpace.rest = x :: t := by rw [Cursor.rest_skipSpace, hrest]
  have hbump : c.skipSpace.bump.rest = t := by rw [Cursor.rest_bump, hskip, List.tail_cons]
  have hlength : 2 * c.skipSpace.bump.rest.length + 1 < fuel := by
    have := length_lt_of_afterBlanks hrest
    rw [hbump]
    omega
  rw [hrest]
  -- what stands first tells what kind of value it is
  split
  · rename_i hx
    obtain rfl := eq_of_beq hx
    exact reads_word hbump (fun _ => spells_null) rfl
  split
  · rename_i hx
    obtain rfl := eq_of_beq hx
    exact reads_word hbump (fun _ => spells_true) rfl
  split
  · rename_i hx
    obtain rfl := eq_of_beq hx
    exact reads_word hbump (fun _ => spells_false) rfl
  split
  · rename_i hx
    obtain rfl := eq_of_beq hx
    exact reads_number fun _ => by rw [spells_negative, hbump]
  split
  · rename_i hdigit
    exact reads_number fun _ => by rw [spells_digit hdigit, hskip]
  rename_i hnull htrue hfalse hminus hdigit
  split
  · rename_i hx
    obtain rfl := eq_of_beq hx
    exact reads_text hbump
  split
  · rename_i hx
    obtain rfl := eq_of_beq hx
    exact reads_nested (fun _ => closeArray_iff) (fun _ => spells_array) (fun _ => rfl)
      fun _ => by rw [hitems hlength, hbump]
  split
  · rename_i hx
    obtain rfl := eq_of_beq hx
    exact reads_nested (fun _ => closeObject_iff) (fun _ => spells_object) (fun _ => rfl)
      fun _ => by rw [hmembers hlength, hbump]
  rename_i hstring harray hobject
  refine iff_of_false not_reads_peekFault ?_
  rintro ⟨y, hy, -⟩
  refine not_spells ?_ (eq_false_of_ne_true hdigit) hy
  simp only [beq_iff_eq] at hnull htrue hfalse hminus hstring harray hobject
  simp only [List.mem_cons, List.not_mem_nil, or_false, not_or]
  exact ⟨hnull, htrue, hfalse, hminus, hstring, harray, hobject⟩

theorem reads_all (fuel : Nat) : ReadsValues fuel ∧ ReadsItems fuel ∧ ReadsMembers fuel := by
  induction fuel with
  | zero =>
    exact ⟨fun h => absurd h (Nat.not_lt_zero _), fun h => absurd h (Nat.not_lt_zero _),
      fun h => absurd h (Nat.not_lt_zero _)⟩
  | succ fuel ih =>
    obtain ⟨hvalue, hitems, hmembers⟩ := ih
    exact ⟨value_step hitems hmembers, items_step hvalue hitems, members_step hvalue hmembers⟩

/-- A value is read as the grammar has it, if it has a meaning. -/
theorem value_iff {depth : Nat} {v : Json} : Reads (value depth (fuelFor c) c) v r ↔
    ∃ x, Spells (afterBlanks c.rest) x r ∧ x.value? depth = some v :=
  (reads_all _).1 (by unfold fuelFor; omega)

/-- A text is read as the value that it is. -/
theorem parse_iff {text : String} {v : Json} :
    parse text = .ok v ↔ ∃ x, IsText text x ∧ x.value? depthLimit = some v := by
  unfold parse
  dsimp only
  constructor
  · intro h
    obtain ⟨⟨v', c⟩, hv, h⟩ := bind_eq_ok.1 h
    obtain ⟨_, hend, h⟩ := bind_eq_ok.1 h
    cases h
    obtain ⟨x, hx, hxv⟩ := value_iff.1 (reads_of_eq_ok hv)
    exact ⟨x, ⟨_, hx, finish_iff.1 hend⟩, hxv⟩
  · rintro ⟨x, ⟨r, hx, hend⟩, hxv⟩
    obtain ⟨c, hv, rfl⟩ := (value_iff (c := Cursor.ofText text)).2 ⟨x, hx, hxv⟩
    exact bind_eq_ok.2 ⟨_, hv, bind_eq_ok.2 ⟨(), finish_iff.2 hend, rfl⟩⟩

end RegexStudio.Json
