import RegexStudio.Proofs.Except
import RegexStudio.Proofs.JsonGrammar

/-! Blanks, strings and numbers as they are read. What a reader takes from a text is what the
grammar has there, and it refuses only what has no value. -/

namespace RegexStudio.Json

open Reader

/-- A reader comes to a value, with a cursor before the text `r`. -/
def Reads {ε α : Type} (x : Except ε (α × Cursor)) (a : α) (r : List Char) : Prop :=
  ∃ c, x = .ok (a, c) ∧ c.rest = r

def Skips {ε : Type} (x : Except ε Cursor) (r : List Char) : Prop := ∃ c, x = .ok c ∧ c.rest = r

section

variable {ε α β γ : Type} {c : Cursor} {a a' : α} {b : β} {r : List Char}

theorem reads_of_eq_ok {x : Except ε (α × Cursor)} (h : x = .ok (a, c)) : Reads x a c.rest :=
  ⟨c, h, rfl⟩

theorem skips_of_eq_ok {x : Except ε Cursor} (h : x = .ok c) : Skips x c.rest := ⟨c, h, rfl⟩

@[simp] theorem reads_ok :
    Reads (.ok (a, c) : Except ε (α × Cursor)) a' r ↔ a = a' ∧ c.rest = r := by
  constructor
  · rintro ⟨_, ⟨⟩, rfl⟩
    exact ⟨rfl, rfl⟩
  · rintro ⟨rfl, rfl⟩
    exact ⟨c, rfl, rfl⟩

@[simp] theorem skips_ok : Skips (.ok c : Except ε Cursor) r ↔ c.rest = r := by
  constructor
  · rintro ⟨_, ⟨⟩, rfl⟩
    rfl
  · rintro rfl
    exact ⟨c, rfl, rfl⟩

@[simp] theorem not_reads_faultAfter {n : Nat} {cause : Cause} :
    ¬Reads (c.faultAfter n cause) a r := nofun

@[simp] theorem not_skips_faultAfter {n : Nat} {cause : Cause} :
    ¬Skips (c.faultAfter n cause) r := nofun

@[simp] theorem not_reads_fault {cause : Cause} : ¬Reads (c.fault cause) a r := nofun

@[simp] theorem not_skips_fault {cause : Cause} : ¬Skips (c.fault cause) r := nofun

@[simp] theorem not_reads_peekFault {cause : Cause} : ¬Reads (c.peekFault cause) a r := nofun

@[simp] theorem not_skips_peekFault {cause : Cause} : ¬Skips (c.peekFault cause) r := nofun

/-! A sequence of readers takes one thing after another from the text, whatever the cursors hold
besides it. -/

theorem bind_of_reads {x : Except ε (α × Cursor)} {f : α × Cursor → Except ε γ}
    {T : Except ε γ → Prop} {P Q : α → List Char → Prop} (hT : ∀ e, ¬T (.error e))
    (hx : ∀ a u, Reads x a u ↔ P a u)
    (hf : ∀ a c, x = .ok (a, c) → (T (f (a, c)) ↔ Q a c.rest)) :
    T (x >>= f) ↔ ∃ a u, P a u ∧ Q a u := by
  cases x with
  | error e =>
    refine iff_of_false (hT e) ?_
    rintro ⟨a, u, hP, -⟩
    obtain ⟨c, h, -⟩ := (hx a u).2 hP
    cases h
  | ok ac =>
    obtain ⟨a, c⟩ := ac
    refine (hf a c rfl).trans ⟨fun hQ => ⟨a, c.rest, (hx _ _).1 ⟨c, rfl, rfl⟩, hQ⟩, ?_⟩
    rintro ⟨a', u, hP, hQ⟩
    obtain ⟨rfl, rfl⟩ := reads_ok.1 ((hx _ _).2 hP)
    exact hQ

theorem bind_of_skips {x : Except ε Cursor} {f : Cursor → Except ε γ}
    {T : Except ε γ → Prop} {P Q : List Char → Prop} (hT : ∀ e, ¬T (.error e))
    (hx : ∀ u, Skips x u ↔ P u) (hf : ∀ c, x = .ok c → (T (f c) ↔ Q c.rest)) :
    T (x >>= f) ↔ ∃ u, P u ∧ Q u := by
  cases x with
  | error e =>
    refine iff_of_false (hT e) ?_
    rintro ⟨u, hP, -⟩
    obtain ⟨c, h, -⟩ := (hx u).2 hP
    cases h
  | ok c =>
    refine (hf c rfl).trans ⟨fun hQ => ⟨c.rest, (hx _).1 ⟨c, rfl, rfl⟩, hQ⟩, ?_⟩
    rintro ⟨u, hP, hQ⟩
    obtain rfl := skips_ok.1 ((hx _).2 hP)
    exact hQ

theorem reads_bind {x : Except ε (α × Cursor)} {f : α × Cursor → Except ε (β × Cursor)}
    {P Q : α → List Char → Prop} (hx : ∀ a u, Reads x a u ↔ P a u)
    (hf : ∀ a c, x = .ok (a, c) → (Reads (f (a, c)) b r ↔ Q a c.rest)) :
    Reads (x >>= f) b r ↔ ∃ a u, P a u ∧ Q a u :=
  bind_of_reads (T := fun y => Reads y b r) (fun _ => nofun) hx hf

theorem reads_skips_bind {x : Except ε (α × Cursor)} {f : α × Cursor → Except ε Cursor}
    {P Q : α → List Char → Prop} (hx : ∀ a u, Reads x a u ↔ P a u)
    (hf : ∀ a c, x = .ok (a, c) → (Skips (f (a, c)) r ↔ Q a c.rest)) :
    Skips (x >>= f) r ↔ ∃ a u, P a u ∧ Q a u :=
  bind_of_reads (T := fun y => Skips y r) (fun _ => nofun) hx hf

theorem skips_reads_bind {x : Except ε Cursor} {f : Cursor → Except ε (β × Cursor)}
    {P Q : List Char → Prop} (hx : ∀ u, Skips x u ↔ P u)
    (hf : ∀ c, x = .ok c → (Reads (f c) b r ↔ Q c.rest)) :
    Reads (x >>= f) b r ↔ ∃ u, P u ∧ Q u :=
  bind_of_skips (T := fun y => Reads y b r) (fun _ => nofun) hx hf

theorem skips_bind {x : Except ε Cursor} {f : Cursor → Except ε Cursor}
    {P Q : List Char → Prop} (hx : ∀ u, Skips x u ↔ P u)
    (hf : ∀ c, x = .ok c → (Skips (f c) r ↔ Q c.rest)) :
    Skips (x >>= f) r ↔ ∃ u, P u ∧ Q u :=
  bind_of_skips (T := fun y => Skips y r) (fun _ => nofun) hx hf

end

namespace Cursor

@[simp] theorem rest_bump (c : Cursor) : c.bump.rest = c.rest.tail := by
  unfold bump
  split <;> simp_all

@[simp] theorem rest_skipSpaceFrom (t : List Char) (line column : Nat) :
    (skipSpaceFrom t line column).rest = afterBlanks t := by
  induction t generalizing line column with
  | nil => rfl
  | cons x t ih =>
    unfold skipSpaceFrom
    by_cases hnewline : x = '\n'
    · subst hnewline
      exact ih _ _
    · rw [if_neg (by simpa using hnewline)]
      by_cases hspace : isSpace x = true
      · rw [if_pos hspace, ih, afterBlanks, afterBlanks, List.dropWhile_cons_of_pos hspace]
      · rw [if_neg hspace, afterBlanks, List.dropWhile_cons_of_neg hspace]

@[simp] theorem rest_skipSpace (c : Cursor) : c.skipSpace.rest = afterBlanks c.rest :=
  rest_skipSpaceFrom _ _ _

end Cursor

theorem length_afterBlanks_le (t : List Char) : (afterBlanks t).length ≤ t.length :=
  (List.dropWhile_sublist _).length_le

section

variable {c : Cursor} {t u r : List Char}

theorem hexUnit_iff {n : Nat} : Reads (hexUnit c) n r ↔ HexUnit c.rest n r := by
  unfold hexUnit HexUnit
  split
  · rename_i a b d e rest hrest
    rw [hrest]
    split
    · rename_i hx
      rw [reads_ok]
      constructor
      · rintro ⟨rfl, rfl⟩
        exact ⟨a, b, d, e, rfl, hx, rfl⟩
      · rintro ⟨_, _, _, _, ⟨⟩, -, rfl⟩
        exact ⟨rfl, rfl⟩
    · rename_i hx
      refine iff_of_false not_reads_faultAfter ?_
      rintro ⟨_, _, _, _, ⟨⟩, hx', -⟩
      exact hx hx'
  · rename_i hrest
    refine iff_of_false (by split <;> exact not_reads_faultAfter) ?_
    rintro ⟨a, b, d, e, heq, -⟩
    exact hrest a b d e r heq

inductive Escape : List Char → Char → List Char → Prop
  | short {e y : Char} {u : List Char} (h : escaped? e = some y) : Escape (e :: u) y u
  | single {t u : List Char} {n : Nat} (h : HexUnit t n u) (htrail : isTrail n = false)
      (hlead : isLead n = false) : Escape ('u' :: t) (Char.ofNat n) u
  | pair {t s u : List Char} {n m : Nat} (h : HexUnit t n ('\\' :: 'u' :: s))
      (h' : HexUnit s m u) (htrail : isTrail n = false) (hlead : isLead n = true)
      (htrail' : isTrail m = true) : Escape ('u' :: t) (joined n m) u

theorem not_isTrail (n : Nat) : (decide (n < 0xDC00) || decide (0xDFFF < n)) = !isTrail n := by
  rw [isTrail, Bool.not_and, ← decide_not, ← decide_not]
  simp only [not_le]

theorem trailingUnit_iff {lead : Nat} {y : Char} : Reads (trailingUnit lead c) y r ↔
    ∃ s m, c.rest = '\\' :: 'u' :: s ∧ HexUnit s m r ∧ isTrail m = true ∧ joined lead m = y := by
  unfold trailingUnit
  lift_lets
  intro expect
  have hexpect : ∀ x c u, Skips (expect x c) u ↔ c.rest = x :: u := by
    intro x c u
    dsimp only [expect]
    split
    · rename_i hrest
      simp [hrest]
    · rename_i y t hrest
      rw [hrest]
      split
      · rename_i hx
        simp [hrest, eq_of_beq hx]
      · rename_i hx
        simp [show y ≠ x by simpa using hx]
  have hlast (m : Nat) (c : Cursor) : Reads (if m < 0xDC00 || 0xDFFF < m then
      c.fault .loneSurrogate
      else .ok (Char.ofNat ((lead - 0xD800) * 0x400 + (m - 0xDC00) + 0x10000), c)) y r ↔
      isTrail m = true ∧ joined lead m = y ∧ c.rest = r := by
    rw [not_isTrail]
    cases isTrail m <;> simp [joined]
  rw [skips_reads_bind (Q := fun t => ∃ u, t = 'u' :: u ∧ ∃ m v, HexUnit u m v ∧
    isTrail m = true ∧ joined lead m = y ∧ v = r) (hexpect '\\' c) fun c _ =>
      skips_reads_bind (Q := fun t => ∃ m v, HexUnit t m v ∧ isTrail m = true ∧
        joined lead m = y ∧ v = r) (hexpect 'u' c) fun c _ =>
          reads_bind (Q := fun m v => isTrail m = true ∧ joined lead m = y ∧ v = r)
            (fun _ _ => hexUnit_iff) fun m c _ => hlast m c]
  constructor
  · rintro ⟨_, h, s, rfl, m, _, hm, htrail, hy, rfl⟩
    exact ⟨s, m, h, hm, htrail, hy⟩
  · rintro ⟨s, m, h, hm, htrail, hy⟩
    exact ⟨_, h, s, rfl, m, r, hm, htrail, hy, rfl⟩

theorem unicodeEscape_iff {y : Char} : Reads (unicodeEscape c) y r ↔
    Escape ('u' :: c.rest) y r := by
  have hunit (n : Nat) (c : Cursor) : Reads (if isTrail n then c.fault .loneSurrogate
      else if isLead n then trailingUnit n c else .ok (Char.ofNat n, c)) y r ↔
      isTrail n = false ∧ if isLead n then ∃ s m, c.rest = '\\' :: 'u' :: s ∧ HexUnit s m r ∧
          isTrail m = true ∧ joined n m = y
        else Char.ofNat n = y ∧ c.rest = r := by
    cases isTrail n
    · cases isLead n
      · simp
      · simpa using trailingUnit_iff
    · simp
  unfold unicodeEscape
  rw [reads_bind (Q := fun n t => isTrail n = false ∧ if isLead n then
    ∃ s m, t = '\\' :: 'u' :: s ∧ HexUnit s m r ∧ isTrail m = true ∧ joined n m = y
    else Char.ofNat n = y ∧ t = r) (fun _ _ => hexUnit_iff) fun n c _ => hunit n c]
  constructor
  · rintro ⟨n, u, h, htrail, hlead⟩
    split at hlead
    · rename_i hn
      obtain ⟨s, m, rfl, h', htrail', rfl⟩ := hlead
      exact .pair h h' htrail hn htrail'
    · rename_i hn
      obtain ⟨rfl, rfl⟩ := hlead
      exact .single h htrail (eq_false_of_ne_true hn)
  · rintro (h | ⟨h, htrail, hlead⟩ | ⟨h, h', htrail, hlead, htrail'⟩)
    · cases h
    · exact ⟨_, _, h, htrail, by simp [hlead]⟩
    · refine ⟨_, _, h, htrail, ?_⟩
      rw [if_pos hlead]
      exact ⟨_, _, rfl, h', htrail', rfl⟩

theorem escape_cons_iff {e y : Char} (he : e ≠ 'u') :
    Escape (e :: t) y r ↔ escaped? e = some y ∧ t = r := by
  constructor
  · rintro (h | _ | _)
    · exact ⟨h, rfl⟩
    all_goals exact absurd rfl he
  · rintro ⟨h, rfl⟩
    exact .short h

theorem escape_iff {y : Char} : Reads (escape c) y r ↔ Escape c.rest y r := by
  unfold escape
  split
  · rename_i hrest
    rw [hrest]
    refine iff_of_false not_reads_fault fun h => ?_
    cases h
  · rename_i x t hrest
    rw [hrest]
    split
    case h_9 =>
      rw [unicodeEscape_iff, Cursor.rest_bump, hrest]
      rfl
    case h_10 =>
      rw [escape_cons_iff ‹_›]
      refine iff_of_false not_reads_faultAfter ?_
      rintro ⟨h, -⟩
      unfold escaped? at h
      split at h <;> contradiction
    all_goals
      rw [escape_cons_iff (by decide)]
      simp [hrest, escaped?]

theorem body_slash_iff {cs : List Char} :
    (∃ ps, Body ('\\' :: t) ps r ∧ charsOf? ps = some cs) ↔
      ∃ y u, Escape t y u ∧ ∃ ps cs', Body u ps r ∧ charsOf? ps = some cs' ∧ cs = y :: cs' := by
  constructor
  · rintro ⟨ps, hbody, hcs⟩
    cases hbody with
    | plain _ hslash => exact absurd rfl hslash
    | short he h =>
      obtain ⟨cs', hcs', rfl⟩ := Option.map_eq_some_iff.1 hcs
      exact ⟨_, _, .short he, _, cs', h, hcs', rfl⟩
    | @unit _ _ _ n ps hn h =>
      unfold charsOf? at hcs
      split at hcs
      · cases hcs
      rename_i htrail
      split at hcs
      · rename_i hlead
        -- the first half of a pair, so its other half stands next
        split at hcs
        · rename_i m ps'
          split at hcs
          · rename_i htrail'
            obtain ⟨cs', hcs', rfl⟩ := Option.map_eq_some_iff.1 hcs
            cases h with
            | unit hm h =>
              exact ⟨_, _, .pair hn hm (eq_false_of_ne_true htrail) hlead htrail', _, cs', h, hcs',
                rfl⟩
          · cases hcs
        · cases hcs
      · rename_i hlead
        obtain ⟨cs', hcs', rfl⟩ := Option.map_eq_some_iff.1 hcs
        exact ⟨_, _, .single hn (eq_false_of_ne_true htrail) (eq_false_of_ne_true hlead), _, cs', h,
          hcs', rfl⟩
  · rintro ⟨y, u, hescape, ps, cs', h, hcs', rfl⟩
    cases hescape with
    | short he => exact ⟨_, .short he h, by simp [charsOf?, hcs']⟩
    | single hn htrail hlead =>
      refine ⟨_, .unit hn h, ?_⟩
      unfold charsOf?
      simp [htrail, hlead, hcs']
    | pair hn hm htrail hlead htrail' =>
      exact ⟨_, .unit hn (.unit hm h), by simp [charsOf?, htrail, hlead, htrail', hcs']⟩

theorem Escape.length_lt {y : Char} (h : Escape t y r) : r.length < t.length := by
  cases h with
  | short => simp
  | single h =>
    obtain ⟨_, _, _, _, rfl, -⟩ := h
    simp only [List.length_cons]
    omega
  | pair h h' =>
    obtain ⟨_, _, _, _, rfl, -⟩ := h
    obtain ⟨_, _, _, _, rfl, -⟩ := h'
    simp only [List.length_cons]
    omega

theorem stringChars_iff {fuel : Nat} {acc cs : List Char} (hfuel : c.rest.length < fuel) :
    Reads (stringChars fuel c acc) cs r ↔
      ∃ ps cs', Body c.rest ps r ∧ charsOf? ps = some cs' ∧ cs = acc.reverse ++ cs' := by
  induction fuel generalizing c acc with
  | zero => exact absurd hfuel (Nat.not_lt_zero _)
  | succ fuel ih =>
    unfold stringChars
    split
    · rename_i hrest
      rw [hrest]
      exact iff_of_false not_reads_fault nofun
    rename_i x t hrest
    have hbump : c.bump.rest = t := by rw [Cursor.rest_bump, hrest, List.tail_cons]
    rw [hrest, List.length_cons] at hfuel
    rw [hrest]
    split
    · rename_i hx
      obtain rfl := eq_of_beq hx
      simp only [reads_ok, hbump, body_quote]
      constructor
      · rintro ⟨rfl, rfl⟩
        exact ⟨[], [], ⟨rfl, rfl⟩, rfl, by simp⟩
      · rintro ⟨_, _, ⟨rfl, rfl⟩, ⟨⟩, rfl⟩
        exact ⟨(List.append_nil _).symm, rfl⟩
    rename_i hquote
    split
    · rename_i hx
      obtain rfl := eq_of_beq hx
      have hescape (y : Char) (u : List Char) : Reads (escape c.bump) y u ↔ Escape t y u := by
        rw [escape_iff, hbump]
      have hgo (y : Char) (c' : Cursor) (h : escape c.bump = .ok (y, c')) :
          Reads (stringChars fuel c' (y :: acc)) cs r ↔ ∃ ps cs', Body c'.rest ps r ∧
            charsOf? ps = some cs' ∧ cs = acc.reverse ++ y :: cs' := by
        have hlt := ((hescape _ _).1 (reads_of_eq_ok h)).length_lt
        rw [ih (by omega)]
        simp
      rw [reads_bind (Q := fun y t => ∃ ps cs', Body t ps r ∧ charsOf? ps = some cs' ∧
        cs = acc.reverse ++ y :: cs') hescape hgo]
      constructor
      · rintro ⟨y, u, hy, ps, cs', hbody, hcs', rfl⟩
        obtain ⟨ps, hbody, hcs⟩ := body_slash_iff.2 ⟨y, u, hy, ps, cs', hbody, hcs', rfl⟩
        exact ⟨ps, _, hbody, hcs, rfl⟩
      · rintro ⟨ps, cs', hbody, hcs', rfl⟩
        obtain ⟨y, u, hy, ps, cs'', hbody, hcs'', rfl⟩ := body_slash_iff.1 ⟨ps, hbody, hcs'⟩
        exact ⟨y, u, hy, ps, cs'', hbody, hcs'', rfl⟩
    rename_i hslash
    simp only [body_char (ne_of_beq_false (eq_false_of_ne_true hquote))
      (ne_of_beq_false (eq_false_of_ne_true hslash))]
    split
    · refine iff_of_false not_reads_faultAfter ?_
      rintro ⟨_, _, ⟨hcontrol, -⟩, -⟩
      omega
    · rename_i hcontrol
      rw [ih (by rw [hbump]; omega), hbump]
      constructor
      · rintro ⟨ps, cs', hbody, hcs', rfl⟩
        exact ⟨_, x :: cs', ⟨Nat.not_lt.1 hcontrol, ps, rfl, hbody⟩, by simp [charsOf?, hcs'],
          by simp⟩
      · rintro ⟨_, _, ⟨-, ps, rfl, hbody⟩, hcs', rfl⟩
        obtain ⟨cs, hcs, rfl⟩ := Option.map_eq_some_iff.1 hcs'
        exact ⟨ps, cs, hbody, hcs, by simp⟩

theorem string_iff {s : String} : Reads (Reader.string c) s r ↔
    ∃ ps, Body c.rest ps r ∧ stringOf? ps = some s := by
  unfold Reader.string
  rw [reads_bind (Q := fun cs u => String.ofList cs = s ∧ u = r)
    (fun _ _ => stringChars_iff (Nat.lt_succ_self _)) fun cs c' _ => reads_ok]
  constructor
  · rintro ⟨cs, _, ⟨ps, cs', hbody, hcs, rfl⟩, rfl, rfl⟩
    exact ⟨ps, hbody, by simp [stringOf?, hcs]⟩
  · rintro ⟨ps, hbody, hs⟩
    obtain ⟨cs, hcs, rfl⟩ := Option.map_eq_some_iff.1 hs
    exact ⟨cs, r, ⟨ps, cs, hbody, hcs, rfl⟩, rfl, rfl⟩

theorem exists_body_slash_iff (hu : ∀ t', t ≠ 'u' :: t') :
    (∃ ps, Body ('\\' :: t) ps r) ↔ ∃ y u, Escape t y u ∧ ∃ ps, Body u ps r := by
  constructor
  · rintro ⟨_, hbody⟩
    cases hbody with
    | plain _ hslash => exact absurd rfl hslash
    | short he hbody => exact ⟨_, _, .short he, _, hbody⟩
    | unit => exact absurd rfl (hu _)
  · rintro ⟨y, u, hy, ps, hbody⟩
    cases hy with
    | short he => exact ⟨_, .short he hbody⟩
    | single | pair => exact absurd rfl (hu _)

theorem skipStringChars_iff {fuel : Nat} (hfuel : c.rest.length < fuel) :
    Skips (skipStringChars fuel c) r ↔ ∃ ps, Body c.rest ps r := by
  induction fuel generalizing c with
  | zero => exact absurd hfuel (Nat.not_lt_zero _)
  | succ fuel ih =>
    unfold skipStringChars
    split
    · rename_i hrest
      rw [hrest]
      exact iff_of_false not_skips_fault nofun
    rename_i x t hrest
    have hbump : c.bump.rest = t := by rw [Cursor.rest_bump, hrest, List.tail_cons]
    rw [hrest, List.length_cons] at hfuel
    rw [hrest]
    split
    · rename_i hx
      obtain rfl := eq_of_beq hx
      simp only [skips_ok, hbump, body_quote, exists_eq_left]
    rename_i hquote
    split
    · rename_i hx
      obtain rfl := eq_of_beq hx
      dsimp only
      split
      · -- a number of any kind: here a surrogate need not be one half of a pair
        rename_i t' hu
        obtain rfl := hbump.symm.trans hu
        have hunit (n : Nat) (u : List Char) : Reads (hexUnit c.bump.bump) n u ↔
            HexUnit t' n u := by
          rw [hexUnit_iff, Cursor.rest_bump, hu, List.tail_cons]
        have hgo (n : Nat) (c' : Cursor) (h : hexUnit c.bump.bump = .ok (n, c')) :
            Skips (skipStringChars fuel c') r ↔ ∃ ps, Body c'.rest ps r := by
          obtain ⟨_, _, _, _, hlong, -⟩ := (hunit _ _).1 (reads_of_eq_ok h)
          rw [hlong] at hfuel
          simp only [List.length_cons] at hfuel
          exact ih (by omega)
        rw [reads_skips_bind (Q := fun _ u => ∃ ps, Body u ps r) hunit hgo]
        simp only [body_unit]
        constructor
        · rintro ⟨n, u, hn, ps, hbody⟩
          exact ⟨_, n, u, hn, ps, rfl, hbody⟩
        · rintro ⟨_, n, u, hn, ps, -, hbody⟩
          exact ⟨n, u, hn, ps, hbody⟩
      · rename_i hu
        rw [hbump] at hu
        have hescape (y : Char) (u : List Char) :
            Reads (escape c.bump) y u ↔ Escape t y u := by rw [escape_iff, hbump]
        have hgo (y : Char) (c' : Cursor) (h : escape c.bump = .ok (y, c')) :
            Skips (skipStringChars fuel c') r ↔ ∃ ps, Body c'.rest ps r := by
          have hlt := ((hescape _ _).1 (reads_of_eq_ok h)).length_lt
          exact ih (by omega)
        rw [reads_skips_bind (Q := fun _ u => ∃ ps, Body u ps r) hescape hgo,
          exists_body_slash_iff hu]
    rename_i hslash
    simp only [body_char (ne_of_beq_false (eq_false_of_ne_true hquote))
      (ne_of_beq_false (eq_false_of_ne_true hslash))]
    split
    · refine iff_of_false not_skips_fault ?_
      rintro ⟨_, hcontrol, -⟩
      omega
    · rename_i hcontrol
      rw [ih (by rw [hbump]; omega), hbump]
      constructor
      · rintro ⟨ps, hbody⟩
        exact ⟨_, Nat.not_lt.1 hcontrol, ps, rfl, hbody⟩
      · rintro ⟨_, -, ps, -, hbody⟩
        exact ⟨ps, hbody⟩

theorem skipString_iff : Skips (skipString c) r ↔ ∃ ps, Body c.rest ps r :=
  skipStringChars_iff (Nat.lt_succ_self _)

end

end RegexStudio.Json
