import RegexStudio.Proofs.JsonReading

/-! Values that are only stepped over. The machine that does so holds the open containers on a stack
of its own; it accepts exactly the values of the grammar, of any depth and whether or not they have
a meaning. -/

namespace RegexStudio.Json

open Reader

variable {c : Cursor} {t s u r : List Char} {stack : List Open}

/-- Behind a value inside the open containers, the innermost first: the text goes on with further
items or members and the ends of all of them. -/
def Closes : List Open → List Char → List Char → Prop
  | [], t, r => t = r
  | .list :: stack, t, r => ∃ xs u, Items false t xs u ∧ Closes stack u r
  | .object :: stack, t, r => ∃ ms u, Members false t ms u ∧ Closes stack u r

theorem closes_list_comma (h : afterBlanks t = ',' :: s) : Closes (.list :: stack) t r ↔
    ∃ x u, Spells (afterBlanks s) x u ∧ Closes (.list :: stack) u r := by
  constructor
  · rintro ⟨_, u, hclose | ⟨hstart, hx, hxs⟩, hr⟩
    · cases h.symm.trans hclose
    · cases hstart with
      | next h' =>
        obtain rfl := List.tail_eq_of_cons_eq (h.symm.trans h')
        exact ⟨_, _, hx, _, u, hxs, hr⟩
  · rintro ⟨x, _, hx, xs, u, hxs, hr⟩
    exact ⟨x :: xs, u, .item (.next h) hx hxs, hr⟩

theorem closes_object_comma (h : afterBlanks t = ',' :: s) : Closes (.object :: stack) t r ↔
    ∃ m u, Member (afterBlanks s) m u ∧ Closes (.object :: stack) u r := by
  constructor
  · rintro ⟨_, u, hclose | ⟨hstart, hm, hms⟩, hr⟩
    · cases h.symm.trans hclose
    · cases hstart with
      | next h' =>
        obtain rfl := List.tail_eq_of_cons_eq (h.symm.trans h')
        exact ⟨_, _, hm, _, u, hms, hr⟩
  · rintro ⟨m, _, hm, ms, u, hms, hr⟩
    exact ⟨m :: ms, u, .member (.next h) hm hms, hr⟩

theorem list_end {first : Bool} (h : afterBlanks t = ']' :: s) :
    (∃ xs u, Items first t xs u ∧ Closes stack u r) ↔ Closes stack s r := by
  constructor
  · rintro ⟨_, _, hs, hr⟩
    obtain ⟨-, rfl⟩ := hs.unique (.close h)
    exact hr
  · intro hr
    exact ⟨[], s, .close h, hr⟩

theorem object_end {first : Bool} (h : afterBlanks t = '\x7d' :: s) :
    (∃ ms u, Members first t ms u ∧ Closes stack u r) ↔ Closes stack s r := by
  constructor
  · rintro ⟨_, _, hs, hr⟩
    obtain ⟨-, rfl⟩ := hs.unique (.close h)
    exact hr
  · intro hr
    exact ⟨[], s, .close h, hr⟩

theorem Closes.list_head (h : Closes (.list :: stack) t r) :
    ∃ s, afterBlanks t = ',' :: s ∨ afterBlanks t = ']' :: s := by
  obtain ⟨_, _, hclose | ⟨hstart, -, -⟩, -⟩ := h
  · exact ⟨_, .inr hclose⟩
  · cases hstart with
    | next h => exact ⟨_, .inl h⟩

theorem Closes.object_head (h : Closes (.object :: stack) t r) :
    ∃ s, afterBlanks t = ',' :: s ∨ afterBlanks t = '\x7d' :: s := by
  obtain ⟨_, _, hclose | ⟨hstart, -, -⟩, -⟩ := h
  · exact ⟨_, .inr hclose⟩
  · cases hstart with
    | next h => exact ⟨_, .inl h⟩

theorem open_list (h : ∀ s, afterBlanks t ≠ ']' :: s) :
    (∃ xs u, Items true t xs u ∧ Closes stack u r) ↔
      ∃ x u, Spells (afterBlanks t) x u ∧ Closes (.list :: stack) u r := by
  constructor
  · rintro ⟨_, u, hclose | ⟨⟨⟩, hx, hxs⟩, hr⟩
    · exact absurd hclose (h _)
    · exact ⟨_, _, hx, _, u, hxs, hr⟩
  · rintro ⟨x, _, hx, xs, u, hxs, hr⟩
    exact ⟨x :: xs, u, .item .first hx hxs, hr⟩

theorem open_object (h : ∀ s, afterBlanks t ≠ '\x7d' :: s) :
    (∃ ms u, Members true t ms u ∧ Closes stack u r) ↔
      ∃ m u, Member (afterBlanks t) m u ∧ Closes (.object :: stack) u r := by
  constructor
  · rintro ⟨_, u, hclose | ⟨⟨⟩, hm, hms⟩, hr⟩
    · exact absurd hclose (h _)
    · exact ⟨_, _, hm, _, u, hms, hr⟩
  · rintro ⟨m, _, hm, ms, u, hms, hr⟩
    exact ⟨m :: ms, u, .member .first hm hms, hr⟩

def SkipsRest (fuel : Nat) : Prop :=
  ∀ {stack c r}, c.rest.length < fuel → (Skips (skipFrom fuel true stack c) r ↔
    Closes stack c.rest r)

def SkipsValue (fuel : Nat) : Prop :=
  ∀ {stack c r}, c.rest.length < fuel → (Skips (skipFrom fuel false stack c) r ↔
    ∃ x u, Spells (afterBlanks c.rest) x u ∧ Closes stack u r)

theorem skipMember_iff {fuel : Nat} (hvalue : SkipsValue fuel) (hfuel : c.rest.length < fuel) :
    Skips (skipFrom.member fuel stack c) r ↔
      ∃ m u, Member (afterBlanks c.rest) m u ∧ Closes (.object :: stack) u r := by
  unfold skipFrom.member
  dsimp only
  rw [Cursor.rest_skipSpace]
  split
  · rename_i t hrest
    have hbump : c.skipSpace.bump.rest = t := by
      rw [Cursor.rest_bump, Cursor.rest_skipSpace, hrest, List.tail_cons]
    have hlt := length_lt_of_afterBlanks hrest
    rw [skips_bind (Q := fun s => ∃ v, afterBlanks s = ':' :: v ∧
      ∃ x u, Spells (afterBlanks v) x u ∧ Closes (.object :: stack) u r) (fun _ => skipString_iff)]
    · rw [hbump, hrest]
      constructor
      · rintro ⟨s, ⟨k, hkey⟩, v, hcolon, x, u, hx, hr⟩
        exact ⟨(k, x), u, .mk hkey hcolon hx, hr⟩
      · rintro ⟨_, u, ⟨hkey, hcolon, hx⟩, hr⟩
        exact ⟨_, ⟨_, hkey⟩, _, hcolon, _, u, hx, hr⟩
    · intro c' h
      obtain ⟨_, hkey⟩ := skipString_iff.1 (skips_of_eq_ok h)
      have hlt' := hkey.length_lt
      rw [Cursor.rest_skipSpace]
      split
      · rename_i v hcolon
        have hbump' : c'.skipSpace.bump.rest = v := by
          rw [Cursor.rest_bump, Cursor.rest_skipSpace, hcolon, List.tail_cons]
        have hlt'' := length_lt_of_afterBlanks hcolon
        rw [hbump] at hlt'
        rw [hvalue (by rw [hbump']; omega), hbump']
        constructor
        · intro h
          exact ⟨v, hcolon, h⟩
        · rintro ⟨_, hcolon', h⟩
          obtain rfl := List.tail_eq_of_cons_eq (hcolon.symm.trans hcolon')
          exact h
      · rename_i hend
        rw [hend]
        exact iff_of_false not_skips_peekFault (by simp)
      · rename_i hcolon _
        refine iff_of_false not_skips_peekFault ?_
        rintro ⟨v, hv, -⟩
        exact hcolon v hv
  · rename_i h
    rw [h]
    refine iff_of_false not_skips_peekFault ?_
    rintro ⟨m, u, hm, -⟩
    cases hm
  · rename_i hquote _
    refine iff_of_false not_skips_peekFault ?_
    rintro ⟨m, u, hm, -⟩
    obtain ⟨_, _, _, h, -⟩ := member_iff.1 hm
    exact hquote _ h

theorem skipRest_step {fuel : Nat} (hrest : SkipsRest fuel) (hvalue : SkipsValue fuel) :
    SkipsRest (fuel + 1) := by
  intro stack c r hfuel
  cases stack with
  | nil =>
    unfold skipFrom
    exact skips_ok
  | cons frame stack =>
    have hbump {x : Char} {s : List Char} (h : afterBlanks c.rest = x :: s) :
        c.skipSpace.bump.rest = s ∧ s.length < fuel := by
      have hlt := length_lt_of_afterBlanks h
      refine ⟨?_, by omega⟩
      rw [Cursor.rest_bump, Cursor.rest_skipSpace, h, List.tail_cons]
    unfold skipFrom
    dsimp only
    rw [Cursor.rest_skipSpace]
    split
    · rename_i s h
      obtain ⟨hs, hlt⟩ := hbump h
      rw [hvalue (by rw [hs]; exact hlt), hs, closes_list_comma h]
    · rename_i s h
      obtain ⟨hs, hlt⟩ := hbump h
      rw [skipMember_iff hvalue (by rw [hs]; exact hlt), hs, closes_object_comma h]
    · rename_i s h
      obtain ⟨hs, hlt⟩ := hbump h
      rw [hrest (by rw [hs]; exact hlt), hs]
      exact (list_end h).symm
    · rename_i s h
      obtain ⟨hs, hlt⟩ := hbump h
      rw [hrest (by rw [hs]; exact hlt), hs]
      exact (object_end h).symm
    -- neither a comma nor the mark that closes the innermost container
    case h_5 h =>
      refine iff_of_false not_skips_peekFault fun hcloses => ?_
      obtain ⟨_, hcomma | hclose⟩ := hcloses.list_head
      · cases h.symm.trans hcomma
      · cases h.symm.trans hclose
    case h_6 h =>
      refine iff_of_false not_skips_peekFault fun hcloses => ?_
      obtain ⟨_, hcomma | hclose⟩ := hcloses.object_head
      · cases h.symm.trans hcomma
      · cases h.symm.trans hclose
    case h_7 hnoComma hnoClose _ =>
      refine iff_of_false not_skips_peekFault fun hcloses => ?_
      obtain ⟨_, hcomma | hclose⟩ := hcloses.list_head
      · exact hnoComma _ hcomma
      · exact hnoClose _ hclose
    case h_8 hnoComma hnoClose _ =>
      refine iff_of_false not_skips_peekFault fun hcloses => ?_
      obtain ⟨_, hcomma | hclose⟩ := hcloses.object_head
      · exact hnoComma _ hcomma
      · exact hnoClose _ hclose

theorem skips_scalar {x : Except Fault Cursor} {f : Cursor → Except Fault Cursor}
    (hx : ∀ u, Skips x u ↔ ∃ y, Spells t y u)
    (hf : ∀ c', c'.rest.length < t.length → (Skips (f c') r ↔ Closes stack c'.rest r)) :
    Skips (x >>= f) r ↔ ∃ y u, Spells t y u ∧ Closes stack u r := by
  rw [skips_bind (Q := fun u => Closes stack u r) hx]
  · constructor
    · rintro ⟨u, ⟨y, hy⟩, hr⟩
      exact ⟨y, u, hy, hr⟩
    · rintro ⟨y, u, hy, hr⟩
      exact ⟨u, ⟨y, hy⟩, hr⟩
  · intro c' h
    obtain ⟨y, hy⟩ := (hx _).1 (skips_of_eq_ok h)
    exact hf c' hy.length_lt

theorem skips_word {x : Char} {xs : List Char} {w : Written} (hrest : c.rest = t)
    (hw : ∀ y u, Spells (x :: t) y u ↔ y = w ∧ t = xs ++ u) (u : List Char) :
    Skips (ident xs c) u ↔ ∃ y, Spells (x :: t) y u := by
  simp only [ident_iff, hrest, hw, exists_eq_left]

theorem exists_spells_iff {β : Type} {g : β → Written} {P : β → Prop}
    (h : ∀ y, Spells t y u ↔ ∃ b, y = g b ∧ P b) : (∃ y, Spells t y u) ↔ ∃ b, P b := by
  constructor
  · rintro ⟨y, hy⟩
    obtain ⟨b, -, hb⟩ := (h y).1 hy
    exact ⟨b, hb⟩
  · rintro ⟨b, hb⟩
    exact ⟨g b, (h _).2 ⟨b, rfl, hb⟩⟩

theorem exists_nested_iff {β : Type} {g : β → Written} {P : β → List Char → Prop}
    (h : ∀ y u, Spells t y u ↔ ∃ b, y = g b ∧ P b u) :
    (∃ y u, Spells t y u ∧ Closes stack u r) ↔ ∃ b u, P b u ∧ Closes stack u r := by
  rw [exists_comm, exists_comm (p := fun b u => P b u ∧ Closes stack u r)]
  refine exists_congr fun u => ?_
  rw [exists_and_right, exists_and_right, exists_spells_iff fun y => h y u]

theorem skips_list {fuel : Nat} (hrest : SkipsRest fuel) (hvalue : SkipsValue fuel)
    (hc : c.rest = afterBlanks t) (hlt : t.length < fuel) :
    Skips (match c.rest with
      | ']' :: _ => skipFrom fuel true stack c.bump
      | [] => c.peekFault .endInList
      | _ => skipFrom fuel false (.list :: stack) c) r ↔
      ∃ y u, Spells ('[' :: t) y u ∧ Closes stack u r := by
  rw [exists_nested_iff fun _ _ => spells_array]
  have hle := length_afterBlanks_le t
  split
  · rename_i s hclose
    rw [hc] at hclose
    have hs : c.bump.rest = s := by rw [Cursor.rest_bump, hc, hclose, List.tail_cons]
    have hlt' := length_lt_of_afterBlanks hclose
    rw [hrest (by rw [hs]; omega), hs, list_end hclose]
  · rename_i hend
    rw [hc] at hend
    rw [open_list (by simp [hend]), hend]
    refine iff_of_false not_skips_peekFault ?_
    rintro ⟨x, u, hx, -⟩
    exact hx.ne_nil rfl
  · rename_i hclose _
    rw [hc] at hclose
    rw [open_list hclose, hvalue (by rw [hc]; omega), hc, afterBlanks_afterBlanks]

theorem skips_object {fuel : Nat} (hrest : SkipsRest fuel) (hvalue : SkipsValue fuel)
    (hc : c.rest = afterBlanks t) (hlt : t.length < fuel) :
    Skips (match c.rest with
      | '\x7d' :: _ => skipFrom fuel true stack c.bump
      | [] => c.peekFault .endInObject
      | _ => skipFrom.member fuel stack c) r ↔
      ∃ y u, Spells ('\x7b' :: t) y u ∧ Closes stack u r := by
  rw [exists_nested_iff fun _ _ => spells_object]
  have hle := length_afterBlanks_le t
  split
  · rename_i s hclose
    rw [hc] at hclose
    have hs : c.bump.rest = s := by rw [Cursor.rest_bump, hc, hclose, List.tail_cons]
    have hlt' := length_lt_of_afterBlanks hclose
    rw [hrest (by rw [hs]; omega), hs, object_end hclose]
  · rename_i hend
    rw [hc] at hend
    rw [open_object (by simp [hend]), hend]
    refine iff_of_false not_skips_peekFault ?_
    rintro ⟨m, u, hm, -⟩
    cases hm
  · rename_i hclose _
    rw [hc] at hclose
    rw [open_object hclose, skipMember_iff hvalue (by rw [hc]; omega), hc, afterBlanks_afterBlanks]

theorem skipValue_step {fuel : Nat} (hrest : SkipsRest fuel) (hvalue : SkipsValue fuel) :
    SkipsValue (fuel + 1) := by
  intro stack c r hfuel
  unfold skipFrom
  dsimp only
  rw [Cursor.rest_skipSpace]
  split
  · rename_i h
    rw [h]
    refine iff_of_false not_skips_peekFault ?_
    rintro ⟨x, u, hx, -⟩
    exact hx.ne_nil rfl
  rename_i x t hcons
  have hskip : c.skipSpace.rest = x :: t := by rw [Cursor.rest_skipSpace, hcons]
  have hbump : c.skipSpace.bump.rest = t := by rw [Cursor.rest_bump, hskip, List.tail_cons]
  have hnext : c.skipSpace.bump.skipSpace.rest = afterBlanks t := by
    rw [Cursor.rest_skipSpace, hbump]
  have hlt : t.length < fuel := by
    have := length_lt_of_afterBlanks hcons
    omega
  have hgo {stack : List Open} (c' : Cursor) (h : c'.rest.length < (x :: t).length) :
      Skips (skipFrom fuel true stack c') r ↔ Closes stack c'.rest r := by
    rw [List.length_cons] at h
    exact hrest (by omega)
  rw [hcons]
  -- what stands first tells what kind of value it is
  split
  · rename_i hx
    obtain rfl := eq_of_beq hx
    exact skips_scalar (skips_word hbump fun _ _ => spells_null) hgo
  split
  · rename_i hx
    obtain rfl := eq_of_beq hx
    exact skips_scalar (skips_word hbump fun _ _ => spells_true) hgo
  split
  · rename_i hx
    obtain rfl := eq_of_beq hx
    exact skips_scalar (skips_word hbump fun _ _ => spells_false) hgo
  split
  · rename_i hx
    obtain rfl := eq_of_beq hx
    refine skips_scalar (fun u => ?_) hgo
    rw [skipNumber_iff true, hbump, exists_spells_iff fun _ => spells_negative]
  split
  · rename_i hdigit
    refine skips_scalar (fun u => ?_) hgo
    rw [skipNumber_iff false, hskip, exists_spells_iff fun _ => spells_digit hdigit]
  rename_i hnull htrue hfalse hminus hdigit
  split
  · rename_i hx
    obtain rfl := eq_of_beq hx
    refine skips_scalar (fun u => ?_) hgo
    rw [skipString_iff, hbump, exists_spells_iff fun _ => spells_string]
  split
  · rename_i hx
    obtain rfl := eq_of_beq hx
    exact skips_list hrest hvalue hnext hlt
  split
  · rename_i hx
    obtain rfl := eq_of_beq hx
    exact skips_object hrest hvalue hnext hlt
  rename_i hstring harray hobject
  refine iff_of_false not_skips_peekFault ?_
  rintro ⟨y, u, hy, -⟩
  refine not_spells ?_ (eq_false_of_ne_true hdigit) hy
  simp only [beq_iff_eq] at hnull htrue hfalse hminus hstring harray hobject
  simp only [List.mem_cons, List.not_mem_nil, or_false, not_or]
  exact ⟨hnull, htrue, hfalse, hminus, hstring, harray, hobject⟩

theorem skips_all (fuel : Nat) : SkipsRest fuel ∧ SkipsValue fuel := by
  induction fuel with
  | zero => exact ⟨fun h => absurd h (Nat.not_lt_zero _), fun h => absurd h (Nat.not_lt_zero _)⟩
  | succ fuel ih => exact ⟨skipRest_step ih.1 ih.2, skipValue_step ih.1 ih.2⟩

/-- A value is stepped over exactly if the grammar has one there. -/
theorem skipValue_iff : Skips (skipValue c) r ↔ ∃ x, Spells (afterBlanks c.rest) x r := by
  unfold skipValue
  rw [(skips_all _).2 (by unfold fuelFor; omega)]
  constructor
  · rintro ⟨x, _, hx, rfl⟩
    exact ⟨x, hx⟩
  · rintro ⟨x, hx⟩
    exact ⟨x, r, hx, rfl⟩

end RegexStudio.Json
