import Mathlib.Data.List.Induction
import RegexStudio.Proofs.JsonSkipping
import RegexStudio.Proofs.Members
import RegexStudio.UpdateReader

/-! Objects with known fields. A field is filled by the one member that has one of its names; what
the fields hold after all members were read is said of the members as a whole, whatever their
order. -/

namespace RegexStudio.UpdateReader

open Json (Cursor Fault Written Piece Reads Skips Spells Members Member Starts afterBlanks
  stringOf?)
open Json.Reader

variable {α σ : Type} {c : Cursor} {t u r : List Char} {first : Bool}

def named? : List (List Piece × Written) → Option (List (String × Written))
  | [] => some []
  | (k, x) :: ms => do
    let key ← stringOf? k
    let named ← named? ms
    return (key, x) :: named

theorem named?_cons {k : List Piece} {x : Written} {ms : List (List Piece × Written)}
    {named : List (String × Written)} : named? ((k, x) :: ms) = some named ↔
      ∃ key rest, stringOf? k = some key ∧ named? ms = some rest ∧ (key, x) :: rest = named := by
  simp [named?, Option.bind_eq_some_iff]

def Nullable (means : Written → α → Prop) (x : Written) : Option α → Prop
  | none => x = .null
  | some a => means x a

inductive Slot (names : List String) (means : Written → α → Prop)
    (members : List (String × Written)) : Option (Option α) → Prop
  | empty (h : members.filter (names.contains ·.1) = []) : Slot names means members none
  | filled {m : String × Written} {a : Option α}
      (h : members.filter (names.contains ·.1) = [m]) (ha : Nullable means m.2 a) :
      Slot names means members (some a)

section

variable {names : List String} {means : Written → α → Prop} {members : List (String × Written)}
  {slot : Option (Option α)} {m : String × Written}

theorem slot_nil : Slot names means [] slot ↔ slot = none := by
  constructor
  · rintro (_ | h)
    · rfl
    · cases h
  · rintro rfl
    exact .empty rfl

def Fills (means : Written → α → Prop) (x : Written) (slot slot' : Option (Option α)) : Prop :=
  slot = none ∧ ∃ a, Nullable means x a ∧ some a = slot'

def Change (names : List String) (means : Written → α → Prop) (m : String × Written)
    (slot slot' : Option (Option α)) : Prop :=
  if m.1 ∈ names then Fills means m.2 slot slot' else slot = slot'

theorem slot_append {slot' : Option (Option α)} : Slot names means (members ++ [m]) slot' ↔
    ∃ slot, Slot names means members slot ∧ Change names means m slot slot' := by
  by_cases hm : m.1 ∈ names
  · have hfilter : (members ++ [m]).filter (names.contains ·.1) =
        members.filter (names.contains ·.1) ++ [m] := by
      rw [List.filter_append, List.filter_cons_of_pos (by simpa using hm), List.filter_nil]
    simp only [Change, hm, if_true]
    constructor
    · rintro (h | ⟨h, ha⟩)
      · rw [hfilter] at h
        exact absurd h (List.append_ne_nil_of_right_ne_nil _ (List.cons_ne_nil _ _))
      · rw [hfilter] at h
        obtain ⟨hnil, hlast⟩ | ⟨-, hlast⟩ := List.append_eq_singleton_iff.1 h
        · cases hlast
          exact ⟨none, .empty hnil, rfl, _, ha, rfl⟩
        · cases hlast
    · rintro ⟨_, h, rfl, a, ha, rfl⟩
      cases h with
      | empty h => exact .filled (by rw [hfilter, h, List.nil_append]) ha
  · have hfilter : (members ++ [m]).filter (names.contains ·.1) =
        members.filter (names.contains ·.1) := by
      rw [List.filter_append, List.filter_cons_of_neg (by simpa using hm), List.filter_nil,
        List.append_nil]
    simp only [Change, hm, if_false, exists_eq_right]
    constructor
    · rintro (h | ⟨h, ha⟩)
      · exact .empty (hfilter ▸ h)
      · exact .filled (hfilter ▸ h) ha
    · rintro (h | ⟨h, ha⟩)
      · exact .empty (hfilter.trans h)
      · exact .filled (hfilter.trans h) ha

/-- What a field holds after all members: nothing if none has one of its names, or if the only one
that has is `null`. -/
def Given (names : List String) (means : Written → α → Prop) (members : List (String × Written))
    (a : Option α) : Prop :=
  ∃ slot, Slot names means members slot ∧ slot.join = a

variable {a : Option α}

theorem Given.length_le (h : Given names means members a) :
    (members.filter (names.contains ·.1)).length ≤ 1 := by
  obtain ⟨_, h | ⟨h, -⟩, -⟩ := h
  · rw [h]
    exact Nat.zero_le _
  · rw [h]
    exact le_rfl

theorem Given.nullable (h : Given names means members a) (hm : m ∈ members) (hname : m.1 ∈ names) :
    Nullable means m.2 a := by
  have hmem : m ∈ members.filter (names.contains ·.1) :=
    List.mem_filter.2 ⟨hm, by simpa using hname⟩
  obtain ⟨_, h | ⟨h, ha⟩, rfl⟩ := h
  · rw [h] at hmem
    cases hmem
  · rw [h] at hmem
    cases List.mem_singleton.1 hmem
    exact ha

theorem Given.drop_null (hnull : ∀ a, ¬means .null a) {before after : List (String × Written)}
    {key : String} (h : Given names means (before ++ (key, .null) :: after) a) :
    Given names means (before ++ after) a := by
  obtain ⟨slot, hslot, rfl⟩ := h
  by_cases hkey : key ∈ names
  · have hfilter : (before ++ (key, .null) :: after).filter (names.contains ·.1) =
        before.filter (names.contains ·.1) ++
          (key, .null) :: after.filter (names.contains ·.1) := by
      rw [List.filter_append, List.filter_cons_of_pos (by simpa using hkey)]
    refine ⟨none, .empty ?_, ?_⟩
    · have hlength := Given.length_le ⟨slot, hslot, rfl⟩
      rw [hfilter, List.length_append, List.length_cons] at hlength
      rw [List.filter_append, List.append_eq_nil_iff]
      exact ⟨List.length_eq_zero_iff.1 (by omega), List.length_eq_zero_iff.1 (by omega)⟩
    · have ha := Given.nullable ⟨slot, hslot, rfl⟩
        (List.mem_append_right before List.mem_cons_self) hkey
      cases hjoin : slot.join with
      | none => rfl
      | some a =>
        rw [hjoin] at ha
        exact absurd ha (hnull a)
  · have hfilter : (before ++ (key, .null) :: after).filter (names.contains ·.1) =
        (before ++ after).filter (names.contains ·.1) := by
      rw [List.filter_append, List.filter_cons_of_neg (by simpa using hkey), List.filter_append]
    refine ⟨slot, ?_, rfl⟩
    cases hslot with
    | empty h => exact .empty (hfilter ▸ h)
    | filled h ha => exact .filled (hfilter ▸ h) ha

end

def Decodes (read : Cursor → Except Fault (α × Cursor)) (means : Written → α → Prop) : Prop :=
  ∀ c a r, Reads (read c) a r ↔ ∃ x, Spells (afterBlanks c.rest) x r ∧ means x a

theorem placed_eq_ok {x : Except Fault α} {a : α} : placed x = .ok a ↔ x = .ok a := by
  cases x with
  | error e => exact ⟨nofun, nofun⟩
  | ok a' => exact ⟨fun h => by cases h; rfl, fun h => by cases h; rfl⟩

@[simp] theorem reads_placed {x : Except Fault (α × Cursor)} {a : α} :
    Reads (placed x) a r ↔ Reads x a r := by
  simp only [Reads, placed_eq_ok]

@[simp] theorem skips_placed {x : Except Fault Cursor} : Skips (placed x) r ↔ Skips x r := by
  simp only [Skips, placed_eq_ok]

theorem not_reads_mismatch {expected : String} {a : α} : ¬Reads (mismatch expected c) a r := by
  rintro ⟨_, h, -⟩
  obtain ⟨_, -, h⟩ := bind_eq_ok.1 h
  cases h

theorem nullable_iff {read : Char → Cursor → Except Fault (α × Cursor)} {means : Written → α → Prop}
    (hnull : ∀ a, ¬means .null a)
    (hread : ∀ {c x t}, c.rest = x :: t → afterBlanks c.rest = c.rest → ∀ a r,
      Reads (read x c) a r ↔ ∃ y, Spells (x :: t) y r ∧ means y a) :
    Decodes (nullable read) (Nullable means) := by
  intro c a r
  unfold nullable
  dsimp only
  rw [Cursor.rest_skipSpace]
  split
  · rename_i h
    rw [h]
    refine iff_of_false Json.not_reads_peekFault ?_
    rintro ⟨x, hx, -⟩
    exact hx.ne_nil rfl
  · rename_i t h
    rw [Json.word_iff, Cursor.rest_bump, Cursor.rest_skipSpace, h, List.tail_cons]
    simp only [Json.spells_null]
    constructor
    · rintro ⟨rfl, rfl⟩
      exact ⟨_, ⟨rfl, rfl⟩, rfl⟩
    · rintro ⟨_, ⟨rfl, rfl⟩, ha⟩
      cases a with
      | none => exact ⟨rfl, rfl⟩
      | some a => exact absurd ha (hnull a)
  · rename_i x t hother h
    have hread := hread (c := c.skipSpace) (by rw [Cursor.rest_skipSpace, h])
      (by rw [Cursor.rest_skipSpace, Json.afterBlanks_afterBlanks])
    rw [Json.reads_bind (Q := fun b u => some b = a ∧ u = r) (fun b u => hread b u)
      fun _ _ _ => Json.reads_ok]
    rw [h]
    constructor
    · rintro ⟨b, u, ⟨y, hy, hb⟩, rfl, rfl⟩
      exact ⟨y, hy, hb⟩
    · rintro ⟨y, hy, ha⟩
      cases a with
      | none =>
        -- what does not begin with `n` is not `null`
        obtain rfl : y = .null := ha
        cases hy
        exact (hother rfl).elim
      | some a => exact ⟨a, r, ⟨y, hy, ha⟩, rfl, rfl⟩

def IsString (x : Written) (s : String) : Prop := ∃ ps, x = .string ps ∧ stringOf? ps = some s

def IsBool (x : Written) (b : Bool) : Prop := x = .bool b

theorem text?_iff : Decodes text? (Nullable IsString) := by
  refine nullable_iff (fun _ ⟨_, h, _⟩ => nomatch h) fun {c x t} hrest _ a r => ?_
  split
  · rename_i hx
    obtain rfl := eq_of_beq hx
    rw [Json.string_iff, Cursor.rest_bump, hrest, List.tail_cons]
    simp only [Json.spells_string]
    constructor
    · rintro ⟨ps, hbody, hs⟩
      exact ⟨_, ⟨ps, rfl, hbody⟩, ps, rfl, hs⟩
    · rintro ⟨_, ⟨ps, rfl, hbody⟩, _, ⟨⟩, hs⟩
      exact ⟨ps, hbody, hs⟩
  · rename_i hx
    refine iff_of_false not_reads_mismatch ?_
    rintro ⟨_, hy, ps, rfl, -⟩
    cases hy
    exact hx rfl

theorem flag?_iff : Decodes flag? (Nullable IsBool) := by
  refine nullable_iff (fun _ h => nomatch h) fun {c x t} hrest _ a r => ?_
  split
  · rename_i hx
    obtain rfl := eq_of_beq hx
    rw [Json.word_iff, Cursor.rest_bump, hrest, List.tail_cons]
    simp only [Json.spells_true]
    constructor
    · rintro ⟨rfl, rfl⟩
      exact ⟨_, ⟨rfl, rfl⟩, rfl⟩
    · rintro ⟨_, ⟨rfl, rfl⟩, ⟨⟩⟩
      exact ⟨rfl, rfl⟩
  split
  · rename_i hx
    obtain rfl := eq_of_beq hx
    rw [Json.word_iff, Cursor.rest_bump, hrest, List.tail_cons]
    simp only [Json.spells_false]
    constructor
    · rintro ⟨rfl, rfl⟩
      exact ⟨_, ⟨rfl, rfl⟩, rfl⟩
    · rintro ⟨_, ⟨rfl, rfl⟩, ⟨⟩⟩
      exact ⟨rfl, rfl⟩
  · rename_i htrue hfalse
    refine iff_of_false not_reads_mismatch ?_
    rintro ⟨_, hy, rfl⟩
    cases hy
    · exact htrue rfl
    · exact hfalse rfl

inductive Folds (step : String → Written → σ → σ → Prop) : List (String × Written) → σ → σ → Prop
  | nil {s : σ} : Folds step [] s s
  | cons {m : String × Written} {ms : List (String × Written)} {s s' s'' : σ}
      (h : step m.1 m.2 s s') (hs : Folds step ms s' s'') : Folds step (m :: ms) s s''

section

variable {step : String → Written → σ → σ → Prop} {s s' : σ}

theorem folds_append {ms : List (String × Written)} {m : String × Written} :
    Folds step (ms ++ [m]) s s' ↔ ∃ s₁, Folds step ms s s₁ ∧ step m.1 m.2 s₁ s' := by
  induction ms generalizing s with
  | nil =>
    constructor
    · rintro (_ | ⟨h, ⟨⟩⟩)
      exact ⟨s, .nil, h⟩
    · rintro ⟨_, ⟨⟩, h⟩
      exact .cons h .nil
  | cons m' ms ih =>
    constructor
    · rintro (_ | ⟨h, hs⟩)
      obtain ⟨s₁, hs, hlast⟩ := ih.1 hs
      exact ⟨s₁, .cons h hs, hlast⟩
    · rintro ⟨s₁, _ | ⟨h, hs⟩, hlast⟩
      exact .cons h (ih.2 ⟨s₁, hs, hlast⟩)

def Steps (field : String → σ → Cursor → Except Trouble (σ × Cursor))
    (step : String → Written → σ → σ → Prop) : Prop :=
  ∀ key s c s' r, Reads (field key s c) s' r ↔
    ∃ u x, afterBlanks c.rest = ':' :: u ∧ Spells (afterBlanks u) x r ∧ step key x s s'

variable {field : String → σ → Cursor → Except Trouble (σ × Cursor)}

theorem members_iff (hfield : Steps field step) {fuel : Nat} (hfuel : c.rest.length < fuel) :
    (∃ c', members field fuel first s c = .ok (s', c') ∧ afterBlanks c'.rest = '\x7d' :: r) ↔
      ∃ ms named, Members first c.rest ms r ∧ named? ms = some named ∧ Folds step named s s' := by
  induction fuel generalizing first s c with
  | zero => exact absurd hfuel (Nat.not_lt_zero _)
  | succ fuel ih =>
    unfold members
    constructor
    · rintro ⟨c', h, hclose⟩
      obtain ⟨next, hnext, h⟩ := bind_eq_ok.1 h
      rw [placed_eq_ok] at hnext
      cases next with
      | none =>
        cases h
        exact ⟨[], [], .close hclose, rfl, .nil⟩
      | some p =>
        obtain ⟨key, c₁⟩ := p
        obtain ⟨⟨s₁, c₂⟩, hstep, h⟩ := bind_eq_ok.1 h
        obtain ⟨t, k, hstart, hbody, hk⟩ := Json.nextKey_some.1 ⟨c₁, hnext, rfl⟩
        obtain ⟨u, x, hcolon, hx, hstep⟩ := (hfield _ _ _ _ _).1 (Json.reads_of_eq_ok hstep)
        have hmember : Member ('\x22' :: t) (k, x) c₂.rest := .mk hbody hcolon hx
        have hle := hstart.length_le
        have hlt := hmember.length_lt
        obtain ⟨ms, named, hms, hnamed, hs⟩ := (ih (by omega)).1 ⟨c', h, hclose⟩
        exact ⟨(k, x) :: ms, (key, x) :: named, .member hstart hmember hms,
          named?_cons.2 ⟨key, named, hk, hnamed, rfl⟩, .cons hstep hs⟩
    · rintro ⟨_, named, h | ⟨hstart, hmember, hms⟩, hnamed, hs⟩
      · obtain rfl := Option.some.inj hnamed
        cases hs
        exact ⟨c, bind_eq_ok.2 ⟨none, placed_eq_ok.2 (Json.nextKey_none.2 ⟨r, h⟩), rfl⟩, h⟩
      · have hle := hstart.length_le
        have hlt := hmember.length_lt
        obtain ⟨hbody, hcolon, hx⟩ := hmember
        obtain ⟨key, rest, hk, hrest, rfl⟩ := named?_cons.1 hnamed
        cases hs with
        | cons hstep hs =>
          obtain ⟨c₁, hnext, rfl⟩ := Json.nextKey_some.2 ⟨_, _, hstart, hbody, hk⟩
          obtain ⟨c₂, hfold, rfl⟩ := (hfield _ _ _ _ _).2 ⟨_, _, hcolon, hx, hstep⟩
          obtain ⟨c₃, h, hclose⟩ := (ih (by omega)).2 ⟨_, _, hms, hrest, hs⟩
          exact ⟨c₃, bind_eq_ok.2 ⟨_, placed_eq_ok.2 hnext, bind_eq_ok.2 ⟨_, hfold, h⟩⟩, hclose⟩

theorem closed_iff {x : Except Trouble (σ × Cursor)} {close : Cursor → Except Fault Unit × Cursor}
    {mark : Char} (hclose : ∀ c, (close c).1 = .ok () ∧ (close c).2.rest = r ↔
      afterBlanks c.rest = mark :: r) :
    Reads (match x with
      | .error (.placed f) => .error f
      | .error (.unplaced cause c) => (close c).2.fault cause
      | .ok (s, c) =>
        let (closed, c) := close c
        closed.map fun _ => (s, c)) s' r ↔
      ∃ c', x = .ok (s', c') ∧ afterBlanks c'.rest = mark :: r := by
  cases x with
  | error e => cases e <;> exact iff_of_false nofun nofun
  | ok p =>
    obtain ⟨s₁, c₁⟩ := p
    constructor
    · rintro ⟨_, h, rfl⟩
      obtain ⟨_, hdone, h⟩ := map_eq_ok.1 h
      cases h
      exact ⟨c₁, rfl, (hclose c₁).1 ⟨hdone, rfl⟩⟩
    · rintro ⟨c', h, hmark⟩
      cases h
      obtain ⟨hdone, hr⟩ := (hclose c₁).2 hmark
      exact ⟨_, map_eq_ok.2 ⟨(), hdone, rfl⟩, hr⟩

theorem object_iff (hfield : Steps field step) (hc : c.rest = '\x7b' :: t) :
    Reads (object field s c) s' r ↔ ∃ ms named, Spells c.rest (.object ms) r ∧
      named? ms = some named ∧ Folds step named s s' := by
  have hbump : c.bump.rest = t := by rw [Cursor.rest_bump, hc, List.tail_cons]
  have hfuel : c.bump.rest.length < c.rest.length + 1 := by
    rw [hbump, hc, List.length_cons]
    omega
  unfold object
  refine (closed_iff fun _ => Json.closeObject_iff).trans ?_
  rw [members_iff hfield hfuel, hbump, hc]
  simp only [Json.spells_object, Written.object.injEq, exists_eq_left']

end

/-- What a state holds after all members, if one member more makes one step more. -/
theorem folds_iff {step : String → Written → σ → σ → Prop} {start : σ}
    {holds : List (String × Written) → σ → Prop} (hnil : ∀ s, holds [] s ↔ s = start)
    (happend : ∀ ms m s', holds (ms ++ [m]) s' ↔ ∃ s, holds ms s ∧ step m.1 m.2 s s')
    (ms : List (String × Written)) (s : σ) : Folds step ms start s ↔ holds ms s := by
  induction ms using List.reverseRecOn generalizing s with
  | nil =>
    rw [hnil]
    constructor
    · rintro ⟨⟩
      rfl
    · rintro rfl
      exact .nil
  | append_singleton ms m ih =>
    rw [folds_append, happend]
    simp only [ih]

theorem fill_iff {means : Written → α → Prop}
    {read : Cursor → Except Fault (Option α × Cursor)} (hread : Decodes read (Nullable means))
    {name : String} {slot slot' : Option (Option α)} : Reads (fill name slot read c) slot' r ↔
      ∃ u x, afterBlanks c.rest = ':' :: u ∧ Spells (afterBlanks u) x r ∧
        Fills means x slot slot' := by
  unfold fill
  cases slot with
  | some a =>
    refine iff_of_false nofun ?_
    rintro ⟨_, _, -, -, h, -⟩
    cases h
  | none =>
    rw [if_neg (by simp)]
    rw [Json.skips_reads_bind (Q := fun u => ∃ a x, Spells (afterBlanks u) x r ∧
      Nullable means x a ∧ some a = slot') (fun _ => skips_placed.trans Json.colon_iff)]
    · constructor
      · rintro ⟨u, hcolon, a, x, hx, ha, rfl⟩
        exact ⟨u, x, hcolon, hx, rfl, a, ha, rfl⟩
      · rintro ⟨u, x, hcolon, hx, -, a, ha, rfl⟩
        exact ⟨u, hcolon, a, x, hx, ha, rfl⟩
    · intro c' _
      rw [Json.reads_bind (Q := fun a u => some a = slot' ∧ u = r)
        (fun a u => reads_placed.trans (hread _ a u)) fun _ _ _ => Json.reads_ok]
      constructor
      · rintro ⟨a, _, ⟨x, hx, ha⟩, h, rfl⟩
        exact ⟨a, x, hx, ha, h⟩
      · rintro ⟨a, x, hx, ha, h⟩
        exact ⟨a, r, ⟨x, hx, ha⟩, h, rfl⟩

theorem fill_bind_iff {means : Written → α → Prop}
    {read : Cursor → Except Fault (Option α × Cursor)} (hread : Decodes read (Nullable means))
    {name : String} {slot : Option (Option α)} {g : Option (Option α) → σ} {s' : σ}
    {P : Written → Prop} (hP : ∀ x, P x ↔ ∃ slot', Fills means x slot slot' ∧ g slot' = s') :
    Reads (do
      let p ← fill name slot read c
      .ok (g p.1, p.2)) s' r ↔
      ∃ u x, afterBlanks c.rest = ':' :: u ∧ Spells (afterBlanks u) x r ∧ P x := by
  rw [Json.reads_bind (Q := fun slot' u => g slot' = s' ∧ u = r) (fun _ _ => fill_iff hread)
    fun _ _ _ => Json.reads_ok]
  simp only [hP]
  constructor
  · rintro ⟨slot', _, ⟨u, x, hcolon, hx, hfill⟩, h, rfl⟩
    exact ⟨u, x, hcolon, hx, slot', hfill, h⟩
  · rintro ⟨u, x, hcolon, hx, slot', hfill, h⟩
    exact ⟨slot', r, ⟨u, x, hcolon, hx, hfill⟩, h, rfl⟩

theorem ignore_iff : Skips (ignore c) r ↔
    ∃ u x, afterBlanks c.rest = ':' :: u ∧ Spells (afterBlanks u) x r := by
  unfold ignore
  rw [Json.skips_bind (Q := fun u => ∃ x, Spells (afterBlanks u) x r)
    (fun _ => skips_placed.trans Json.colon_iff) fun _ _ => skips_placed.trans Json.skipValue_iff]
  constructor
  · rintro ⟨u, hcolon, x, hx⟩
    exact ⟨u, x, hcolon, hx⟩
  · rintro ⟨u, x, hcolon, hx⟩
    exact ⟨u, hcolon, x, hx⟩

theorem ignore_bind_iff {s s' : σ} {P : Written → Prop} (hP : ∀ x, P x ↔ s = s') :
    Reads (do .ok (s, ← ignore c)) s' r ↔
      ∃ u x, afterBlanks c.rest = ':' :: u ∧ Spells (afterBlanks u) x r ∧ P x := by
  rw [Json.skips_reads_bind (Q := fun u => s = s' ∧ u = r) (fun _ => ignore_iff)
    fun _ _ => Json.reads_ok]
  simp only [hP]
  constructor
  · rintro ⟨_, ⟨u, x, hcolon, hx⟩, h, rfl⟩
    exact ⟨u, x, hcolon, hx, h⟩
  · rintro ⟨u, x, hcolon, hx, h⟩
    exact ⟨r, ⟨u, x, hcolon, hx⟩, h, rfl⟩

theorem keep_bind_iff {depth : Nat} {g : Json → σ} {s' : σ} {P : Written → Prop}
    (hP : ∀ x, P x ↔ ∃ v, x.value? depth = some v ∧ g v = s') :
    Reads (do
      let c ← placed (colon c)
      let p ← placed (value depth (fuelFor c) c)
      .ok (g p.1, p.2)) s' r ↔
      ∃ u x, afterBlanks c.rest = ':' :: u ∧ Spells (afterBlanks u) x r ∧ P x := by
  have hvalue (c : Cursor) : Reads (do
      let p ← placed (value depth (fuelFor c) c)
      Except.ok (g p.1, p.2)) s' r ↔ ∃ x, Spells (afterBlanks c.rest) x r ∧ P x := by
    rw [Json.reads_bind (Q := fun v u => g v = s' ∧ u = r)
      (fun _ _ => reads_placed.trans Json.value_iff) fun _ _ _ => Json.reads_ok]
    simp only [hP]
    constructor
    · rintro ⟨v, _, ⟨x, hx, hv⟩, h, rfl⟩
      exact ⟨x, hx, v, hv, h⟩
    · rintro ⟨x, hx, v, hv, h⟩
      exact ⟨v, r, ⟨x, hx, hv⟩, h, rfl⟩
  rw [Json.skips_reads_bind (Q := fun u => ∃ x, Spells (afterBlanks u) x r ∧ P x)
    (fun _ => skips_placed.trans Json.colon_iff) fun c _ => hvalue c]
  constructor
  · rintro ⟨u, hcolon, x, hx, h⟩
    exact ⟨u, x, hcolon, hx, h⟩
  · rintro ⟨u, x, hcolon, hx, h⟩
    exact ⟨u, hcolon, x, hx, h⟩

theorem item_iff {means : Written → α → Prop}
    {read : Cursor → Except Fault (Option α × Cursor)} (index : Nat)
    (hread : Decodes read (Nullable means)) {expected : String} {a : Option α} :
    Reads (item index expected read c) a r ↔
      ∃ s x, Starts (index == 0) c.rest s ∧ Spells s x r ∧ Nullable means x a := by
  unfold item
  constructor
  · rintro ⟨_, h, rfl⟩
    obtain ⟨next, hnext, h⟩ := bind_eq_ok.1 h
    rw [placed_eq_ok] at hnext
    cases next with
    | none => cases h
    | some c₁ =>
      obtain ⟨hstart, -⟩ := Json.nextItem_some.1 ⟨c₁, hnext, rfl⟩
      obtain ⟨x, hx, ha⟩ := (hread _ _ _).1 (reads_placed.1 (Json.reads_of_eq_ok h))
      rw [hstart.afterBlanks_eq] at hx
      exact ⟨_, x, hstart, hx, ha⟩
  · rintro ⟨s, x, hstart, hx, ha⟩
    obtain ⟨c₁, hnext, rfl⟩ := Json.nextItem_some.2 ⟨hstart, hx.ne_nil, hx.not_close⟩
    rw [← hstart.afterBlanks_eq] at hx
    obtain ⟨c₂, h, rfl⟩ := reads_placed.2 ((hread _ _ _).2 ⟨x, hx, ha⟩)
    exact ⟨c₂, bind_eq_ok.2 ⟨_, placed_eq_ok.2 hnext, h⟩, rfl⟩

end RegexStudio.UpdateReader
