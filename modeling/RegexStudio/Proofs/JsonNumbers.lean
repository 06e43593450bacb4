import Mathlib.Data.List.DropRight
import RegexStudio.Proofs.JsonTokens

/-! Numbers as they are read: the longest text that the grammar takes for a number, with the value
that its digits have. -/

namespace RegexStudio.Json

open Reader
open Text (isDigit)

variable {c : Cursor} {t u r : List Char} {v : Json}

theorem rest_skipDigitsFrom (t : List Char) (line column : Nat) :
    (skipDigitsFrom t line column).rest = t.dropWhile isDigit := by
  induction t generalizing column with
  | nil => rfl
  | cons x t ih =>
    unfold skipDigitsFrom
    split
    · rename_i hx
      rw [ih, List.dropWhile_cons_of_pos hx]
    · rename_i hx
      rw [List.dropWhile_cons_of_neg hx]

@[simp] theorem rest_skipDigits (c : Cursor) : (skipDigits c).rest = c.rest.dropWhile isDigit :=
  rest_skipDigitsFrom _ _ _

theorem column_skipDigits (c : Cursor) :
    (skipDigits c).column = c.column + (c.rest.takeWhile isDigit).length := by
  obtain ⟨t, line, column⟩ := c
  unfold skipDigits
  dsimp only
  induction t generalizing column with
  | nil => rfl
  | cons x t ih =>
    unfold skipDigitsFrom
    split
    · rename_i hx
      rw [ih, List.takeWhile_cons_of_pos hx, List.length_cons]
      omega
    · rename_i hx
      rw [List.takeWhile_cons_of_neg hx]
      rfl

theorem digitAhead_isSome : (digitAhead c).isSome = true ↔ c.rest.takeWhile isDigit ≠ [] := by
  unfold digitAhead
  split
  · rename_i x t hrest
    rw [hrest]
    split
    · rename_i hx
      simp [List.takeWhile_cons_of_pos hx]
    · rename_i hx
      simp [List.takeWhile_cons_of_neg hx]
  · rename_i hrest
    simp [hrest]

theorem exists_digits_iff {P : List Char → List Char → Prop} :
    (∃ ds u, Digits t ds u ∧ P ds u) ↔
      t.takeWhile isDigit ≠ [] ∧ P (t.takeWhile isDigit) (t.dropWhile isDigit) := by
  constructor
  · rintro ⟨_, _, ⟨hne, rfl, rfl⟩, hP⟩
    exact ⟨hne, hP⟩
  · rintro ⟨hne, hP⟩
    exact ⟨_, _, ⟨hne, rfl, rfl⟩, hP⟩

theorem fitting_suffix (significand : Nat) (ds : List Char) :
    (fitting significand ds).2 <:+ ds := by
  induction ds generalizing significand with
  | nil => exact List.suffix_rfl
  | cons d ds ih =>
    unfold fitting
    dsimp only
    split
    · exact List.suffix_rfl
    · exact (ih _).trans (List.suffix_cons _ _)

theorem takeDigitsFrom_eq (significand taken : Nat) (t : List Char) (line column : Nat) :
    let p := fitting significand (t.takeWhile isDigit)
    ∃ c, takeDigitsFrom significand taken t line column =
        (p.1, taken + ((t.takeWhile isDigit).length - p.2.length), !p.2.isEmpty, c) ∧
      c.rest = p.2 ++ t.dropWhile isDigit := by
  induction t generalizing significand taken column with
  | nil => exact ⟨_, rfl, rfl⟩
  | cons x t ih =>
    unfold takeDigitsFrom
    dsimp only
    split
    · rename_i hx
      rw [List.takeWhile_cons_of_pos hx, List.dropWhile_cons_of_pos hx]
      unfold fitting
      dsimp only
      split
      · exact ⟨⟨x :: t, line, column⟩, by simp, by simp⟩
      · obtain ⟨c, heq, hrest⟩ := ih (significand * 10 + (x.toNat - 48)) (taken + 1) (column + 1)
        refine ⟨c, ?_, hrest⟩
        rw [heq]
        have hle := (fitting_suffix (significand * 10 + (x.toNat - 48))
          (t.takeWhile isDigit)).length_le
        simp only [List.length_cons, Prod.mk.injEq, true_and, and_true]
        omega
    · rename_i hx
      rw [List.takeWhile_cons_of_neg hx, List.dropWhile_cons_of_neg hx]
      exact ⟨_, rfl, rfl⟩

theorem takeDigits_eq (significand : Nat) (c : Cursor) :
    let p := fitting significand (c.rest.takeWhile isDigit)
    ∃ c', takeDigits significand c =
        (p.1, (c.rest.takeWhile isDigit).length - p.2.length, !p.2.isEmpty, c') ∧
      c'.rest = p.2 ++ c.rest.dropWhile isDigit := by
  obtain ⟨c', h, hrest⟩ := takeDigitsFrom_eq significand 0 c.rest c.line c.column
  exact ⟨c', by rw [takeDigits, h, Nat.zero_add], hrest⟩

theorem exponentDigits_eq (value : Nat) (t : List Char) (line column : Nat) :
    ∃ v c, exponentDigits value t line column =
        (v, (exponentFrom? value (t.takeWhile isDigit)).isNone, c) ∧
      (∀ e, exponentFrom? value (t.takeWhile isDigit) = some e → v = e) ∧
      (exponentFrom? value (t.takeWhile isDigit) ≠ none → c.rest = t.dropWhile isDigit) ∧
      (skipDigits c).rest = t.dropWhile isDigit := by
  induction t generalizing value column with
  | nil => exact ⟨_, _, rfl, by rintro e ⟨⟩; rfl, fun _ => rfl, rfl⟩
  | cons x t ih =>
    unfold exponentDigits
    dsimp only
    split
    · rename_i hx
      rw [List.takeWhile_cons_of_pos hx, List.dropWhile_cons_of_pos hx]
      unfold exponentFrom?
      dsimp only
      split
      · exact ⟨_, _, rfl, nofun, fun h => absurd rfl h, rest_skipDigits _⟩
      · exact ih _ _
    · rename_i hx
      rw [List.takeWhile_cons_of_neg hx, List.dropWhile_cons_of_neg hx]
      refine ⟨_, _, rfl, by rintro e ⟨⟩; rfl, fun _ => rfl, ?_⟩
      rw [rest_skipDigits, List.dropWhile_cons_of_neg hx]

theorem finishDouble_iff {negative : Bool} {significand : Nat} {exponent : Int} :
    Reads (finishDouble negative significand exponent c) v r ↔
      double? negative significand exponent = some v ∧ c.rest = r := by
  unfold finishDouble double?
  cases Double.ofParts negative significand exponent <;> simp

theorem digitAhead_eq_some {d : Nat} (h : digitAhead c = some d) :
    ∃ x t, c.rest = x :: t ∧ isDigit x = true ∧ x.toNat - 48 = d := by
  unfold digitAhead at h
  split at h
  · rename_i x t hrest
    split at h
    · cases h
      exact ⟨x, t, hrest, ‹_›, rfl⟩
    · cases h
  · cases h

theorem digit_le_nine {x : Char} (hx : isDigit x = true) : x.toNat - 48 ≤ 9 := by
  simp only [isDigit, Bool.and_eq_true, decide_eq_true_eq] at hx
  have h := Char.le_def.1 hx.2
  have : x.toNat ≤ 57 := h
  omega

theorem exponentFrom?_digit {x : Char} (hx : isDigit x = true) (ds : List Char) :
    exponentFrom? 0 (x :: ds) = exponentFrom? (x.toNat - 48) ds := by
  have hle := digit_le_nine hx
  rw [exponentFrom?, if_neg (by omega), Nat.zero_mul, Nat.zero_add]

theorem exponent_iff {negative : Bool} {significand : Nat} {start : Int} {e : Char}
    (hrest : c.rest = e :: t) : Reads (exponent negative significand start c) v r ↔
      ∃ ds u, Digits (exponentSign t).2 ds u ∧ u = r ∧
        scaled? negative significand start (some ((exponentSign t).1, ds)) = some v := by
  have hbump : c.bump.rest = t := by rw [Cursor.rest_bump, hrest, List.tail_cons]
  unfold exponent
  extract_lets c₁
  split
  rename_i down c₂ hsign
  have hsign : exponentSign t = (down, c₂.rest) := by
    split at hsign <;> cases hsign
    · rename_i t' ht
      rw [hbump] at ht
      rw [ht, Cursor.rest_bump, hbump, ht]
      rfl
    · rename_i t' ht
      rw [hbump] at ht
      rw [ht, Cursor.rest_bump, hbump, ht]
      rfl
    · rename_i hplus hminus
      rw [hbump] at hplus hminus ⊢
      unfold exponentSign
      split
      · exact absurd rfl (hplus _)
      · exact absurd rfl (hminus _)
      · rfl
  rw [hsign, exists_digits_iff (P := fun ds u => u = r ∧
    scaled? negative significand start (some (down, ds)) = some v)]
  split
  · rename_i h
    simp [h]
  · rename_i h _
    refine iff_of_false not_reads_faultAfter ?_
    rw [← digitAhead_isSome, h]
    rintro ⟨⟨⟩, -⟩
  · rename_i d hd _
    obtain ⟨x, t', hrest', hx, rfl⟩ := digitAhead_eq_some hd
    have htail : c₂.bump.rest = t' := by rw [Cursor.rest_bump, hrest', List.tail_cons]
    obtain ⟨value, c', heq, hvalue, hfits, hexcess⟩ :=
      exponentDigits_eq (x.toNat - 48) c₂.bump.rest c₂.bump.line c₂.bump.column
    rw [htail] at heq hvalue hfits hexcess
    dsimp only
    rw [htail, heq, hrest', List.takeWhile_cons_of_pos hx, List.dropWhile_cons_of_pos hx]
    simp only [scaled?, exponentFrom?_digit hx]
    cases hfrom : exponentFrom? (x.toNat - 48) (t'.takeWhile isDigit) with
    | none =>
      by_cases hlarge : significand ≠ 0 ∧ down = false
      · simp [hlarge]
      · rw [rest_skipDigits] at hexcess
        simp [hlarge, hexcess, and_comm]
    | some e =>
      obtain rfl := hvalue e hfrom
      simp [finishDouble_iff, hfits (by simp [hfrom]), and_comm]

theorem hasExponent_iff : hasExponent c = true ↔
    ∃ e t, c.rest = e :: t ∧ (e = 'e' ∨ e = 'E') := by
  unfold hasExponent
  split
  · rename_i h
    simp [h]
  · rename_i h
    simp [h]
  · rename_i hlower hupper
    refine iff_of_false Bool.false_ne_true ?_
    rintro ⟨_, t, h, rfl | rfl⟩
    · exact hlower t h
    · exact hupper t h

theorem absent_of_not_hasExponent (h : ¬hasExponent c = true) :
    Exponent c.rest none c.rest := by
  refine .absent (fun he => h ?_) (fun he => h ?_)
  · obtain ⟨t, ht⟩ := List.head?_eq_some_iff.1 he
    exact hasExponent_iff.2 ⟨_, t, ht, .inl rfl⟩
  · obtain ⟨t, ht⟩ := List.head?_eq_some_iff.1 he
    exact hasExponent_iff.2 ⟨_, t, ht, .inr rfl⟩

theorem ending_iff {negative : Bool} {significand : Nat} {scale : Int} :
    Reads (if hasExponent c then exponent negative significand scale c
      else finishDouble negative significand scale c) v r ↔
      ∃ ex, Exponent c.rest ex r ∧ scaled? negative significand scale ex = some v := by
  split
  · rename_i h
    obtain ⟨e, t, hrest, he⟩ := hasExponent_iff.1 h
    rw [exponent_iff hrest, hrest]
    constructor
    · rintro ⟨ds, _, hds, rfl, hv⟩
      exact ⟨_, .digits he hds, hv⟩
    · rintro ⟨_, hex, hv⟩
      cases hex with
      | absent hlower hupper =>
        rcases he with rfl | rfl
        · exact absurd rfl hlower
        · exact absurd rfl hupper
      | digits _ hds => exact ⟨_, _, hds, rfl, hv⟩
  · rename_i h
    rw [finishDouble_iff]
    constructor
    · rintro ⟨hv, rfl⟩
      exact ⟨none, absent_of_not_hasExponent h, hv⟩
    · rintro ⟨_, hex, hv⟩
      generalize hrest : c.rest = s at hex
      cases hex with
      | absent => exact ⟨hv, rfl⟩
      | digits he => exact absurd (hasExponent_iff.2 ⟨_, _, hrest, he⟩) h

theorem fraction_iff {negative : Bool} {significand : Nat} {start : Int} {x : Char}
    (hrest : c.rest = x :: t) : Reads (fraction negative significand start c) v r ↔
      ∃ ds u, Digits t ds u ∧ ∃ ex, Exponent u ex r ∧
        scaled? negative (fitting significand ds).1
          (start - (ds.length - (fitting significand ds).2.length : Nat)) ex = some v := by
  have hbump : c.bump.rest = t := by rw [Cursor.rest_bump, hrest, List.tail_cons]
  obtain ⟨c', htake, hrest'⟩ := takeDigits_eq significand c.bump
  rw [hbump] at htake hrest'
  rw [exists_digits_iff (P := fun ds u => ∃ ex, Exponent u ex r ∧
    scaled? negative (fitting significand ds).1
      (start - (ds.length - (fitting significand ds).2.length : Nat)) ex = some v)]
  unfold fraction
  rw [htake]
  dsimp only
  have hleft : (fitting significand (t.takeWhile isDigit)).2 ≠ [] → t.takeWhile isDigit ≠ [] := by
    intro hne hnil
    exact hne (List.suffix_nil.1 (hnil ▸ fitting_suffix _ _))
  split
  · rename_i hexcess
    have hne : (fitting significand (t.takeWhile isDigit)).2 ≠ [] := by simpa using hexcess
    have hskip : (skipDigits c').rest = t.dropWhile isDigit := by
      rw [rest_skipDigits, hrest', List.dropWhile_append_of_pos, List.dropWhile_idempotent]
      intro d hd
      exact List.mem_takeWhile_imp ((fitting_suffix _ _).subset hd)
    rw [ending_iff, hskip]
    exact (and_iff_right (hleft hne)).symm
  · rename_i hexcess
    have hnil : (fitting significand (t.takeWhile isDigit)).2 = [] := by simpa using hexcess
    rw [hnil, List.nil_append] at hrest'
    rw [hnil, List.length_nil, Nat.sub_zero]
    split
    · rename_i hzero
      refine iff_of_false (by split <;> simp) ?_
      rintro ⟨hne, -⟩
      exact hne (List.length_eq_zero_iff.1 hzero)
    · rename_i hzero
      rw [ending_iff, hrest']
      exact (and_iff_right fun h => hzero (by rw [h]; rfl)).symm

def Finishes (negative : Bool) (significand : Nat) (excess t : List Char) (v : Json)
    (r : List Char) : Prop :=
  ∃ fs u ex, Fraction t fs u ∧ Exponent u ex r ∧
    finished? negative significand excess fs ex = some v

section

variable {negative : Bool} {significand : Nat} {excess : List Char}

theorem finishes_fraction (excess : List Char) (hrest : c.rest = '.' :: t) :
    Reads (fraction negative significand excess.length c) v r ↔
      Finishes negative significand excess c.rest v r := by
  rw [fraction_iff hrest, hrest]
  constructor
  · rintro ⟨ds, u, hds, ex, hex, hv⟩
    exact ⟨some ds, u, ex, .digits hds, hex, hv⟩
  · rintro ⟨fs, u, ex, hfs, hex, hv⟩
    cases hfs with
    | absent h => exact absurd rfl h
    | digits hds => exact ⟨_, u, hds, ex, hex, hv⟩

theorem finishes_exponent (excess : List Char) {e : Char} (hrest : c.rest = e :: t)
    (he : e = 'e' ∨ e = 'E') :
    Reads (exponent negative significand excess.length c) v r ↔
      Finishes negative significand excess c.rest v r := by
  rw [exponent_iff hrest, hrest]
  constructor
  · rintro ⟨ds, _, hds, rfl, hv⟩
    refine ⟨none, _, _, .absent ?_, .digits he hds, hv⟩
    rcases he with rfl | rfl <;> simp
  · rintro ⟨fs, u, ex, hfs, hex, hv⟩
    cases hfs with
    | absent =>
      cases hex with
      | absent hlower hupper =>
        rcases he with rfl | rfl
        · exact absurd rfl hlower
        · exact absurd rfl hupper
      | digits _ hds => exact ⟨_, _, hds, rfl, hv⟩
    | digits => simp at he

theorem finishes_plain (hpoint : ∀ s, t ≠ '.' :: s) (hlower : ∀ s, t ≠ 'e' :: s)
    (hupper : ∀ s, t ≠ 'E' :: s) : Finishes negative significand excess t v r ↔
      finished? negative significand excess none none = some v ∧ t = r := by
  have hhead {x : Char} (h : ∀ s, t ≠ x :: s) : t.head? ≠ some x := fun hx =>
    let ⟨s, hs⟩ := List.head?_eq_some_iff.1 hx
    h s hs
  constructor
  · rintro ⟨fs, u, ex, hfs, hex, hv⟩
    cases hfs with
    | absent =>
      cases hex with
      | absent => exact ⟨hv, rfl⟩
      | digits he =>
        rcases he with rfl | rfl
        · exact absurd rfl (hlower _)
        · exact absurd rfl (hupper _)
    | digits => exact absurd rfl (hpoint _)
  · rintro ⟨hv, rfl⟩
    exact ⟨_, _, _, .absent (hhead hpoint), .absent (hhead hlower) (hhead hupper), hv⟩

theorem afterInteger_iff : Reads (afterInteger negative significand c) v r ↔
    Finishes negative significand [] c.rest v r := by
  unfold afterInteger
  split
  · exact finishes_fraction [] ‹_›
  · exact finishes_exponent [] ‹_› (.inl rfl)
  · exact finishes_exponent [] ‹_› (.inr rfl)
  · rw [finishes_plain ‹_› ‹_› ‹_›]
    unfold finished? wholeNumber
    cases negative
    · simp
    · by_cases hlarge : significand = 0 ∨ Double.signBit < significand
      · have hlarge' :
            (decide (significand = 0) || decide (Double.signBit < significand)) = true := by
          simpa using hlarge
        simp only [hlarge', hlarge]
        simp
      · have hsmall :
            (decide (significand = 0) || decide (Double.signBit < significand)) = false := by
          simpa using hlarge
        simp only [hsmall, hlarge]
        simp

theorem longInteger_iff (hexcess : excess ≠ []) (hdigits : ∀ d ∈ excess, isDigit d = true)
    (hrest : c.rest = excess ++ t) (ht : ∀ d ∈ t.head?, isDigit d = false) :
    Reads (longInteger negative significand c) v r ↔
      Finishes negative significand excess t v r := by
  obtain ⟨-, htake, hdrop⟩ := digits_append hexcess hdigits ht
  have hafter : (skipDigits c).rest = t := by rw [rest_skipDigits, hrest, ← hdrop]
  have hdropped : ((skipDigits c).column : Int) - c.column = excess.length := by
    rw [column_skipDigits, hrest, ← htake]
    omega
  unfold longInteger
  dsimp only
  rw [hdropped, ← hafter]
  split
  · exact finishes_fraction excess ‹_›
  · exact finishes_exponent excess ‹_› (.inl rfl)
  · exact finishes_exponent excess ‹_› (.inr rfl)
  · rw [finishes_plain ‹_› ‹_› ‹_›, finishDouble_iff]
    obtain ⟨d, excess, rfl⟩ := List.exists_cons_of_ne_nil hexcess
    rfl

end

theorem magnitude_iff {negative : Bool} :
    (∃ n, n.negative = negative ∧ Magnitude t n r ∧ n.value? = some v) ↔
      ∃ ws u, Whole t ws u ∧ Finishes negative (fitting 0 ws).1 (fitting 0 ws).2 u v r := by
  constructor
  · rintro ⟨n, rfl, ⟨u, w, hw, hf, he⟩, hv⟩
    exact ⟨_, u, hw, _, w, _, hf, he, hv⟩
  · rintro ⟨ws, u, hw, fs, w, ex, hf, he, hv⟩
    exact ⟨⟨negative, ws, fs, ex⟩, rfl, ⟨u, w, hw, hf, he⟩, hv⟩

theorem exists_whole_zero_iff {P : List Char → List Char → Prop} :
    (∃ ws u, Whole ('0' :: t) ws u ∧ P ws u) ↔ t.takeWhile isDigit = [] ∧ P ['0'] t := by
  have hzero : isDigit '0' = true := rfl
  have hwhole (ws u : List Char) : Whole ('0' :: t) ws u ↔
      (ws = '0' :: t.takeWhile isDigit ∧ u = t.dropWhile isDigit) ∧ ws = ['0'] := by
    unfold Whole Digits
    rw [List.takeWhile_cons_of_pos hzero, List.dropWhile_cons_of_pos hzero]
    constructor
    · rintro ⟨⟨-, rfl, rfl⟩, hzeros⟩
      exact ⟨⟨rfl, rfl⟩, hzeros rfl⟩
    · rintro ⟨⟨hws, hu⟩, hzeros⟩
      exact ⟨⟨by rw [hws]; exact List.cons_ne_nil _ _, hws, hu⟩, fun _ => hzeros⟩
  have hdrop (hnil : t.takeWhile isDigit = []) : t.dropWhile isDigit = t :=
    List.dropWhile_eq_self_iff.2 (List.takeWhile_eq_nil_iff.1 hnil)
  simp only [hwhole]
  constructor
  · rintro ⟨_, _, ⟨⟨hws, rfl⟩, rfl⟩, h⟩
    have hnil := (List.cons.inj hws).2.symm
    exact ⟨hnil, hdrop hnil ▸ h⟩
  · rintro ⟨hnil, h⟩
    exact ⟨_, _, ⟨⟨by rw [hnil], rfl⟩, rfl⟩, (hdrop hnil).symm ▸ h⟩

theorem exists_whole_iff {P : List Char → List Char → Prop} (hzero : ∀ s, t ≠ '0' :: s) :
    (∃ ws u, Whole t ws u ∧ P ws u) ↔
      t.takeWhile isDigit ≠ [] ∧ P (t.takeWhile isDigit) (t.dropWhile isDigit) := by
  have hwhole (ws u : List Char) : Whole t ws u ↔ Digits t ws u := by
    refine and_iff_left_of_imp fun hds hhead => ?_
    obtain ⟨s, rfl⟩ := List.head?_eq_some_iff.1 hhead
    exact absurd hds.eq_append (hzero (s ++ u))
  simp only [hwhole, exists_digits_iff]

/-- A number without its sign is read as the grammar has it, unless it is too large. -/
theorem number_iff {negative : Bool} : Reads (number negative c) v r ↔
    ∃ n, n.negative = negative ∧ Magnitude c.rest n r ∧ n.value? = some v := by
  rw [magnitude_iff]
  unfold number
  split
  · rename_i hrest
    rw [hrest]
    refine iff_of_false not_reads_fault ?_
    rintro ⟨_, _, hw, -⟩
    obtain ⟨_, _, ⟨⟩, -⟩ := hw.head
  · rename_i t hrest
    have hbump : c.bump.rest = t := by rw [Cursor.rest_bump, hrest, List.tail_cons]
    rw [hrest, exists_whole_zero_iff (P := fun ws u =>
      Finishes negative (fitting 0 ws).1 (fitting 0 ws).2 u v r), ← hbump]
    dsimp only
    split
    · rename_i hdigit
      exact iff_of_false not_reads_peekFault fun h => digitAhead_isSome.1 hdigit h.1
    · rename_i hdigit
      rw [afterInteger_iff, and_iff_right (not_not.1 (digitAhead_isSome.not.1 hdigit))]
      rfl
  · rename_i hzero
    rw [exists_whole_iff (P := fun ws u =>
      Finishes negative (fitting 0 ws).1 (fitting 0 ws).2 u v r) hzero]
    split
    · rename_i hnone
      refine iff_of_false not_reads_faultAfter ?_
      rw [← digitAhead_isSome, hnone]
      rintro ⟨⟨⟩, -⟩
    · rename_i hsome
      have hne := digitAhead_isSome.1 (Option.isSome_of_eq_some hsome)
      obtain ⟨c', htake, hrest'⟩ := takeDigits_eq 0 c
      rw [htake]
      dsimp only
      rw [and_iff_right hne]
      have hhead : ∀ d ∈ (c.rest.dropWhile isDigit).head?, isDigit d = false :=
        (show Digits c.rest _ _ from ⟨hne, rfl, rfl⟩).head_rest
      split
      · rename_i hexcess
        refine longInteger_iff (by simpa using hexcess) (fun d hd => ?_) hrest' hhead
        exact List.mem_takeWhile_imp ((fitting_suffix _ _).subset hd)
      · rename_i hexcess
        have hnil : (fitting 0 (c.rest.takeWhile isDigit)).2 = [] := by simpa using hexcess
        rw [afterInteger_iff, hrest', hnil, List.nil_append]

theorem rest_afterSign (c : Cursor) : (match c.rest with
      | '+' :: _ => c.bump
      | '-' :: _ => c.bump
      | _ => c).rest = (exponentSign c.rest).2 := by
  split
  · rename_i h
    rw [Cursor.rest_bump, h]
    rfl
  · rename_i h
    rw [Cursor.rest_bump, h]
    rfl
  · rename_i hplus hminus
    unfold exponentSign
    split
    · exact absurd ‹_› (hplus _)
    · exact absurd ‹_› (hminus _)
    · rfl

theorem digitRun_iff {x : Except Fault Cursor} (hx : ∀ u, ¬Skips x u) :
    Skips (if (digitAhead c).isSome then .ok (skipDigits c) else x) r ↔
      ∃ ds, Digits c.rest ds r := by
  have h := exists_digits_iff (t := c.rest) (P := fun _ u => u = r)
  rw [← digitAhead_isSome] at h
  have hds : (∃ ds, Digits c.rest ds r) ↔ ∃ ds u, Digits c.rest ds u ∧ u = r :=
    ⟨fun ⟨ds, hds⟩ => ⟨ds, r, hds, rfl⟩, fun ⟨ds, _, hds, hu⟩ => ⟨ds, hu ▸ hds⟩⟩
  rw [hds, h]
  split
  · rename_i hd
    simp [hd]
  · rename_i hd
    simp [hd, hx]

theorem skipExponent_iff : Skips (if hasExponent c then
      let c := c.bump
      let c := match c.rest with
        | '+' :: _ | '-' :: _ => c.bump
        | _ => c
      if (digitAhead c).isSome then .ok (skipDigits c) else c.faultAfter 1 .invalidNumber
    else .ok c) r ↔ ∃ ex, Exponent c.rest ex r := by
  split
  · rename_i h
    obtain ⟨e, t, hrest, he⟩ := hasExponent_iff.1 h
    have hbump : c.bump.rest = t := by rw [Cursor.rest_bump, hrest, List.tail_cons]
    have hsign := rest_afterSign c.bump
    dsimp only
    rw [digitRun_iff fun _ => not_skips_faultAfter]
    refine (exists_congr fun ds => iff_of_eq (congrArg (Digits · ds r) hsign)).trans ?_
    rw [hbump, hrest]
    constructor
    · rintro ⟨ds, hds⟩
      exact ⟨_, .digits he hds⟩
    · rintro ⟨_, hex⟩
      cases hex with
      | absent hlower hupper => rcases he with rfl | rfl <;> contradiction
      | digits _ hds => exact ⟨_, hds⟩
  · rename_i h
    rw [skips_ok]
    constructor
    · rintro rfl
      exact ⟨none, absent_of_not_hasExponent h⟩
    · rintro ⟨_, hex⟩
      exact ((absent_of_not_hasExponent h).unique hex).2

theorem skipFraction_iff {exponentPart : Cursor → Except Fault Cursor}
    (hexponent : ∀ c, Skips (exponentPart c) r ↔ ∃ ex, Exponent c.rest ex r) :
    Skips (match c.rest with
      | '.' :: _ =>
        let c := c.bump
        if (digitAhead c).isSome then exponentPart (skipDigits c) else c.peekFault .invalidNumber
      | _ => exponentPart c) r ↔ ∃ fs u, Fraction c.rest fs u ∧ ∃ ex, Exponent u ex r := by
  split
  · rename_i t hrest
    have hbump : c.bump.rest = t := by rw [Cursor.rest_bump, hrest, List.tail_cons]
    have hdigits := exists_digits_iff (t := c.bump.rest) (P := fun _ u => ∃ ex, Exponent u ex r)
    rw [← digitAhead_isSome, ← rest_skipDigits, hbump] at hdigits
    have hfs : (∃ fs u, Fraction ('.' :: t) fs u ∧ ∃ ex, Exponent u ex r) ↔
        ∃ ds u, Digits t ds u ∧ ∃ ex, Exponent u ex r := by
      constructor
      · rintro ⟨_, u, _ | hds, hex⟩
        · exact absurd rfl ‹_›
        · exact ⟨_, u, hds, hex⟩
      · rintro ⟨ds, u, hds, hex⟩
        exact ⟨_, u, .digits hds, hex⟩
    rw [hrest, hfs, hdigits]
    dsimp only
    split
    · rename_i hd
      rw [hexponent, and_iff_right hd]
    · rename_i hd
      exact iff_of_false not_skips_peekFault fun h => hd h.1
  · rename_i hpoint
    have habsent : Fraction c.rest none c.rest := .absent fun h =>
      let ⟨s, hs⟩ := List.head?_eq_some_iff.1 h
      hpoint s hs
    rw [hexponent]
    constructor
    · intro hex
      exact ⟨_, _, habsent, hex⟩
    · rintro ⟨_, _, hfs, hex⟩
      obtain ⟨rfl, rfl⟩ := habsent.unique hfs
      exact hex

theorem skipNumber_iff (negative : Bool) : Skips (skipNumber c) r ↔
    ∃ n, n.negative = negative ∧ Magnitude c.rest n r := by
  have hwhole : (∃ n, n.negative = negative ∧ Magnitude c.rest n r) ↔
      ∃ ws s, Whole c.rest ws s ∧ ∃ fs u, Fraction s fs u ∧ ∃ ex, Exponent u ex r := by
    constructor
    · rintro ⟨n, -, s, u, hw, hf, he⟩
      exact ⟨_, s, hw, _, u, hf, _, he⟩
    · rintro ⟨ws, s, hw, fs, u, hf, ex, he⟩
      exact ⟨⟨negative, ws, fs, ex⟩, rfl, s, u, hw, hf, he⟩
  rw [hwhole]
  unfold skipNumber
  extract_lets exponentPart jp
  have hfraction (c : Cursor) : Skips (jp c) r ↔
      ∃ fs u, Fraction c.rest fs u ∧ ∃ ex, Exponent u ex r :=
    skipFraction_iff fun _ => skipExponent_iff
  split
  · rename_i t hrest
    have hbump : c.bump.rest = t := by rw [Cursor.rest_bump, hrest, List.tail_cons]
    rw [hrest, exists_whole_zero_iff
      (P := fun _ s => ∃ fs u, Fraction s fs u ∧ ∃ ex, Exponent u ex r), ← hbump]
    split
    · rename_i hd
      exact iff_of_false nofun fun h => digitAhead_isSome.1 hd h.1
    · rename_i hd
      rw [and_iff_right (not_not.1 (digitAhead_isSome.not.1 hd))]
      exact hfraction _
  · rename_i hzero
    rw [exists_whole_iff (P := fun _ s => ∃ fs u, Fraction s fs u ∧ ∃ ex, Exponent u ex r) hzero,
      ← digitAhead_isSome, ← rest_skipDigits, ← hfraction]
    split
    · rename_i hd
      exact (and_iff_right hd).symm
    · rename_i hd
      exact iff_of_false nofun fun h => hd h.1

end RegexStudio.Json
