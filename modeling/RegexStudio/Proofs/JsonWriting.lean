import RegexStudio.Json.Writer
import RegexStudio.Proofs.JsonReading

/-! Written values, on one line or over several: the text is one value of the grammar, it holds no
line break of its own when it is on one line, and it means the value that was written, up to the
order of members. -/

namespace RegexStudio.Json

open Text (isDigit)

variable {t r : List Char}

def pieceOf (c : Char) : Piece :=
  if c.toNat < 0x20 ∧ c ∉ ['\x08', '\x0C', '\n', '\r', '\t'] then .unit c.toNat else .char c

theorem hexUnit_escape {c : Char} (h : c.toNat < 0x20) : HexUnit
    ('0' :: '0' :: hexDigit (c.toNat / 16) :: hexDigit (c.toNat % 16) :: r) c.toNat r := by
  refine ⟨_, _, _, _, rfl, ?_⟩
  generalize c.toNat = n at h
  decide +revert

theorem body_escapeChar (c : Char) {ps : List Piece} (h : Body t ps r) :
    Body (escapeChar c ++ t) (pieceOf c :: ps) r := by
  unfold escapeChar
  split
  case h_8 c hquote hslash hback hfeed hline hreturn htab =>
    simp only [imp_false] at hquote hslash hback hfeed hline hreturn htab
    split
    · rename_i hcontrol
      rw [pieceOf, if_pos ⟨hcontrol, by simp [hback, hfeed, hline, hreturn, htab]⟩]
      exact .unit (hexUnit_escape hcontrol) h
    · rename_i hplain
      rw [pieceOf, if_neg fun hc => hplain hc.1]
      exact .plain hquote hslash (Nat.not_lt.1 hplain) h
  all_goals exact .short rfl h

theorem body_quoted (cs : List Char) :
    Body (cs.flatMap escapeChar ++ '\x22' :: r) (cs.map pieceOf) r := by
  induction cs with
  | nil => exact .close
  | cons c cs ih =>
    rw [List.flatMap_cons, List.append_assoc, List.map_cons]
    exact body_escapeChar c ih

theorem charsOf?_pieceOf (cs : List Char) : charsOf? (cs.map pieceOf) = some cs := by
  induction cs with
  | nil => rfl
  | cons c cs ih =>
    rw [List.map_cons]
    by_cases hc : c.toNat < 0x20 ∧ c ∉ ['\x08', '\x0C', '\n', '\r', '\t']
    · have htrail : isTrail c.toNat = false := by
        simp only [isTrail, Bool.and_eq_false_iff, decide_eq_false_iff_not]
        omega
      have hlead : isLead c.toNat = false := by
        simp only [isLead, Bool.and_eq_false_iff, decide_eq_false_iff_not]
        omega
      rw [show pieceOf c = .unit c.toNat from if_pos hc]
      unfold charsOf?
      rw [htrail, hlead, ih, Char.ofNat_toNat]
      rfl
    · rw [show pieceOf c = .char c from if_neg hc, charsOf?, ih]
      rfl

theorem stringOf?_pieceOf (s : String) : stringOf? (s.toList.map pieceOf) = some s := by
  rw [stringOf?, charsOf?_pieceOf, Option.map_some, String.ofList_toList]

theorem toList_quote (s : String) :
    (quote s).toList = '\x22' :: (s.toList.flatMap escapeChar ++ ['\x22']) := by
  rw [quote, String.toList_ofList]
  rfl

theorem hexDigit_no_break {n : Nat} (h : n < 0x20) :
    '\n' ∉ ['\\', 'u', '0', '0', hexDigit (n / 16), hexDigit (n % 16)] ∧
      '\r' ∉ ['\\', 'u', '0', '0', hexDigit (n / 16), hexDigit (n % 16)] := by
  decide +revert

theorem escapeChar_no_break (c : Char) : '\n' ∉ escapeChar c ∧ '\r' ∉ escapeChar c := by
  unfold escapeChar
  split
  case h_8 c hquote hslash hback hfeed hline hreturn htab =>
    split
    · exact hexDigit_no_break ‹_›
    · exact ⟨fun h => hline (List.mem_singleton.1 h).symm,
        fun h => hreturn (List.mem_singleton.1 h).symm⟩
  all_goals decide

theorem isDigit_of_isDigit {c : Char} (h : c.isDigit = true) : isDigit c = true := by
  simp only [Char.isDigit, Bool.and_eq_true, decide_eq_true_eq] at h
  simp only [isDigit, Bool.and_eq_true, decide_eq_true_eq]
  exact h

theorem toDigits_head {n : Nat} (h : (Nat.toDigits 10 n).head? = some '0') : n = 0 := by
  induction n using Nat.strongRecOn with
  | ind n ih =>
    rw [Nat.toDigits_eq_if (by decide)] at h
    split at h
    · rename_i hlt
      have h : n.digitChar = '0' := Option.some.inj h
      clear ih
      decide +revert
    · rename_i hge
      rw [List.head?_append_of_ne_nil _ Nat.toDigits_ne_nil] at h
      have := ih (n / 10) (by omega) h
      omega

def EndsNumber (r : List Char) : Prop :=
  ∀ c ∈ r.head?, isDigit c = false ∧ c ≠ '.' ∧ c ≠ 'e' ∧ c ≠ 'E'

def numeral (n : Int) : Numeral where
  negative := decide (n < 0)
  whole := Nat.toDigits 10 n.natAbs
  fraction := none
  exponent := none

theorem magnitude_toDigits (n : Int) (hr : EndsNumber r) :
    Magnitude (Nat.toDigits 10 n.natAbs ++ r) (numeral n) r := by
  have hhead {c : Char} (h : r.head? = some c) := hr c (Option.mem_def.2 h)
  refine ⟨r, r, ⟨digits_append Nat.toDigits_ne_nil (fun d hd => ?_) fun c hc => (hr c hc).1, ?_⟩,
    .absent fun h => ?_, .absent (fun h => ?_) fun h => ?_⟩
  · exact isDigit_of_isDigit (Nat.isDigit_of_mem_toDigits (by decide) (by decide) hd)
  · intro h
    show Nat.toDigits 10 n.natAbs = ['0']
    rw [toDigits_head h]
    rfl
  · exact (hhead h).2.1 rfl
  · exact (hhead h).2.2.1 rfl
  · exact (hhead h).2.2.2 rfl

theorem toList_natural (n : Nat) : (toString n).toList = Nat.toDigits 10 n := by
  rw [Nat.toString_eq_ofList_toDigits, String.toList_ofList]

theorem spells_integer (n : Int) (hr : EndsNumber r) :
    Spells ((toString n).toList ++ r) (.number (numeral n)) r := by
  have hmagnitude := magnitude_toDigits n hr
  cases n with
  | ofNat n =>
    rw [show (toString (Int.ofNat n)).toList = Nat.toDigits 10 n from toList_natural n]
    exact .number (decide_eq_false (Int.not_lt.2 (Int.natCast_nonneg n))) hmagnitude
  | negSucc n =>
    rw [show (toString (Int.negSucc n)).toList = '-' :: Nat.toDigits 10 (n + 1) from ?_]
    · exact .negative (decide_eq_true (Int.negSucc_lt_zero n)) hmagnitude
    · rw [show toString (Int.negSucc n) = "-" ++ toString (n + 1) from rfl, String.toList_append,
        toList_natural]
      rfl

theorem le_ofDigitChars (n : Nat) (ds : List Char) : n ≤ Nat.ofDigitChars 10 ds n := by
  rw [Nat.ofDigitChars_eq_ofDigitChars_zero]
  exact (Nat.le_mul_of_pos_left n (Nat.pow_pos (by decide))).trans (Nat.le_add_right _ _)

theorem fitting_eq {significand : Nat} {ds : List Char}
    (h : Nat.ofDigitChars 10 ds significand ≤ Reader.maxNatural) :
    fitting significand ds = (Nat.ofDigitChars 10 ds significand, []) := by
  induction ds generalizing significand with
  | nil => rfl
  | cons d ds ih =>
    have hnext : 10 * significand + (d.toNat - '0'.toNat) = significand * 10 + (d.toNat - 48) := by
      rw [Nat.mul_comm]
      rfl
    rw [Nat.ofDigitChars_cons, hnext] at h ⊢
    have hle := le_ofDigitChars (significand * 10 + (d.toNat - 48)) ds
    unfold fitting
    dsimp only
    rw [if_neg (by omega), ih h]

def IsInteger (n : Int) : Prop := -(Double.signBit : Int) ≤ n ∧ n ≤ Reader.maxNatural

theorem numeral_value? {n : Int} (h : IsInteger n) : (numeral n).value? = some (.integer n) := by
  have hfits : n.natAbs ≤ Reader.maxNatural := by
    have : Double.signBit ≤ Reader.maxNatural := by decide
    have := h.1
    have := h.2
    omega
  have hfitting : fitting 0 (numeral n).whole = (n.natAbs, []) := by
    have hvalue : Nat.ofDigitChars 10 (numeral n).whole 0 = n.natAbs :=
      Nat.ofDigitChars_ten_toDigits
    have h := fitting_eq (hvalue ▸ hfits)
    rwa [hvalue] at h
  unfold Numeral.value?
  rw [hfitting]
  show some (wholeNumber (decide (n < 0)) n.natAbs) = some (.integer n)
  unfold wholeNumber
  by_cases hsign : n < 0
  · have hsmall : ¬(n.natAbs = 0 ∨ Double.signBit < n.natAbs) := by
      have := h.1
      omega
    rw [decide_eq_true hsign, if_neg (by decide), if_neg hsmall]
    congr
    omega
  · rw [decide_eq_false hsign, if_pos rfl, natural]
    congr
    omega

mutual

/-- Whether no double stands in a value. Doubles are shown by their shortest decimals, about which
nothing is said here. -/
def exact : Json → Bool
  | .double _ => false
  | .array items => exactItems items
  | .object members => exactMembers members
  | _ => true

def exactItems : List Json → Bool
  | [] => true
  | item :: rest => exact item && exactItems rest

def exactMembers : List (String × Json) → Bool
  | [] => true
  | (_, v) :: rest => exact v && exactMembers rest

end

mutual

def written : Json → Written
  | .null | .double _ => .null
  | .bool b => .bool b
  | .integer n => .number (numeral n)
  | .string s => .string (s.toList.map pieceOf)
  | .array items => .array (writtenItems items)
  | .object members => .object (writtenMembers members)

def writtenItems : List Json → List Written
  | [] => []
  | item :: rest => written item :: writtenItems rest

def writtenMembers : List (String × Json) → List (List Piece × Written)
  | [] => []
  | (k, v) :: rest => (k.toList.map pieceOf, written v) :: writtenMembers rest

end

theorem afterBlanks_cons {c : Char} (hc : Cursor.isSpace c = false) :
    afterBlanks (c :: t) = c :: t := List.dropWhile_cons_of_neg (by simp [hc])

theorem Spells.afterBlanks_eq {x : Written} (h : Spells t x r) : afterBlanks t = t := by
  obtain ⟨c, t', rfl, hc⟩ := h.head
  refine afterBlanks_cons ?_
  rcases hc with hc | hc
  · revert hc
    simp only [List.mem_cons, List.not_mem_nil, or_false]
    rintro (rfl | rfl | rfl | rfl | rfl | rfl | rfl) <;> rfl
  · have hdigit : ∀ b, Cursor.isSpace b = true → isDigit b = false := by
      intro b hb
      simp only [Cursor.isSpace, Bool.or_eq_true, beq_iff_eq] at hb
      rcases hb with ((rfl | rfl) | rfl) | rfl <;> rfl
    by_contra hspace
    rw [hdigit c (eq_true_of_ne_false hspace)] at hc
    cases hc

def Blanks (gap : List Char) : Prop := ∀ c ∈ gap, Cursor.isSpace c = true

theorem Blanks.afterBlanks {gap : List Char} (h : Blanks gap) :
    afterBlanks (gap ++ t) = afterBlanks t := List.dropWhile_append_of_pos h

theorem endsNumber_cons {c : Char} (hc : c ∈ [',', ']', '\x7d']) : EndsNumber (c :: r) := by
  rintro _ ⟨⟩
  simp only [List.mem_cons, List.not_mem_nil, or_false] at hc
  rcases hc with rfl | rfl | rfl <;> decide

theorem Blanks.endsNumber {gap : List Char} (h : Blanks gap) (hr : EndsNumber r) :
    EndsNumber (gap ++ r) := by
  cases gap with
  | nil => exact hr
  | cons c gap =>
    rintro _ ⟨⟩
    have hc := h c List.mem_cons_self
    simp only [Cursor.isSpace, Bool.or_eq_true, beq_iff_eq] at hc
    rcases hc with ((rfl | rfl) | rfl) | rfl <;> decide

theorem spells_quote (s : String) :
    Spells ((quote s).toList ++ r) (.string (s.toList.map pieceOf)) r := by
  rw [toList_quote, List.cons_append, List.append_assoc]
  exact .string (body_quoted _)

theorem starts_first {gap : List Char} (hgap : Blanks gap) (h : afterBlanks t = t) :
    Starts true (gap ++ t) t := by
  have := Starts.first (t := gap ++ t)
  rwa [hgap.afterBlanks, h] at this

theorem starts_next {gap : List Char} (hgap : Blanks gap) (h : afterBlanks t = t) :
    Starts false (',' :: (gap ++ t)) t := by
  have := Starts.next (t := ',' :: (gap ++ t)) (afterBlanks_cons rfl)
  rwa [hgap.afterBlanks, h] at this

theorem writtenItems_eq_map (items : List Json) : writtenItems items = items.map written := by
  induction items with
  | nil => rfl
  | cons item rest ih => rw [writtenItems, ih, List.map_cons]

theorem writtenMembers_eq_map (members : List (String × Json)) :
    writtenMembers members = members.map fun m => (m.1.toList.map pieceOf, written m.2) := by
  induction members with
  | nil => rfl
  | cons m rest ih => rw [writtenMembers, ih, List.map_cons]

section

variable {f : Json → List Char} {gap gap' space : List Char}

def SpellsAll (f : Json → List Char) (items : List Json) : Prop :=
  ∀ j ∈ items, ∀ r, EndsNumber r → Spells (f j ++ r) (written j) r

theorem items_next (hgap : Blanks gap) (hgap' : Blanks gap') {items : List Json}
    (h : SpellsAll f items) :
    Items false (items.flatMap (fun j => ',' :: (gap ++ f j)) ++ (gap' ++ ']' :: r))
      (items.map written) r ∧
    EndsNumber (items.flatMap (fun j => ',' :: (gap ++ f j)) ++ (gap' ++ ']' :: r)) := by
  induction items with
  | nil =>
    exact ⟨.close (hgap'.afterBlanks.trans (afterBlanks_cons rfl)),
      hgap'.endsNumber (endsNumber_cons (by decide))⟩
  | cons j items ih =>
    obtain ⟨hitems, hends⟩ := ih fun j hj => h j (List.mem_cons_of_mem _ hj)
    have hj := h j List.mem_cons_self _ hends
    simp only [List.flatMap_cons, List.cons_append, List.append_assoc, List.map_cons]
    exact ⟨.item (starts_next hgap hj.afterBlanks_eq) hj hitems, endsNumber_cons (by decide)⟩

theorem spells_items (hgap : Blanks gap) (hgap' : Blanks gap') {j : Json} {items : List Json}
    (h : SpellsAll f (j :: items)) :
    Spells ('[' :: (gap ++ f j ++ items.flatMap (fun j => ',' :: (gap ++ f j)) ++ gap' ++
      ']' :: r)) (written (.array (j :: items))) r := by
  obtain ⟨hitems, hends⟩ := items_next (r := r) hgap hgap' fun j hj =>
    h j (List.mem_cons_of_mem _ hj)
  have hj := h j List.mem_cons_self _ hends
  rw [written, writtenItems_eq_map, List.map_cons]
  simp only [List.append_assoc]
  exact .array (.item (starts_first hgap hj.afterBlanks_eq) hj hitems)

def memberText (f : Json → List Char) (space : List Char) (m : String × Json) : List Char :=
  (quote m.1).toList ++ ':' :: (space ++ f m.2)

theorem member_text (hspace : Blanks space) {m : String × Json}
    (h : Spells (f m.2 ++ r) (written m.2) r) :
    Member (memberText f space m ++ r) (m.1.toList.map pieceOf, written m.2) r := by
  unfold memberText
  rw [toList_quote]
  simp only [List.cons_append, List.append_assoc, List.nil_append]
  refine .mk (body_quoted _) (afterBlanks_cons rfl) ?_
  rwa [hspace.afterBlanks, h.afterBlanks_eq]

theorem Member.afterBlanks_eq {m : List Piece × Written} (h : Member t m r) :
    afterBlanks t = t := by
  obtain ⟨_, _, _, rfl, -⟩ := member_iff.1 h
  exact afterBlanks_cons rfl

theorem members_next (hgap : Blanks gap) (hgap' : Blanks gap') (hspace : Blanks space)
    {members : List (String × Json)} (h : SpellsAll f (members.map (·.2))) :
    Members false (members.flatMap (fun m => ',' :: (gap ++ memberText f space m)) ++
      (gap' ++ '\x7d' :: r)) (members.map fun m => (m.1.toList.map pieceOf, written m.2)) r ∧
    EndsNumber (members.flatMap (fun m => ',' :: (gap ++ memberText f space m)) ++
      (gap' ++ '\x7d' :: r)) := by
  induction members with
  | nil =>
    exact ⟨.close (hgap'.afterBlanks.trans (afterBlanks_cons rfl)),
      hgap'.endsNumber (endsNumber_cons (by decide))⟩
  | cons m members ih =>
    obtain ⟨hmembers, hends⟩ := ih fun j hj => h j (List.mem_cons_of_mem _ hj)
    have hm := member_text hspace (h m.2 List.mem_cons_self _ hends)
    simp only [List.flatMap_cons, List.cons_append, List.append_assoc, List.map_cons]
    exact ⟨.member (starts_next hgap hm.afterBlanks_eq) hm hmembers, endsNumber_cons (by decide)⟩

theorem spells_members (hgap : Blanks gap) (hgap' : Blanks gap') (hspace : Blanks space)
    {m : String × Json} {members : List (String × Json)}
    (h : SpellsAll f ((m :: members).map (·.2))) :
    Spells ('\x7b' :: (gap ++ memberText f space m ++
      members.flatMap (fun m => ',' :: (gap ++ memberText f space m)) ++ gap' ++ '\x7d' :: r))
      (written (.object (m :: members))) r := by
  obtain ⟨hmembers, hends⟩ := members_next (r := r) hgap hgap' hspace fun j hj =>
    h j (List.mem_cons_of_mem _ hj)
  have hm := member_text hspace (h m.2 List.mem_cons_self _ hends)
  rw [written, writtenMembers_eq_map, List.map_cons]
  simp only [List.append_assoc]
  exact .object (.member (starts_first hgap hm.afterBlanks_eq) hm hmembers)

end

theorem toList_compactItems (item : Json) (rest : List Json) :
    (compactItems (item :: rest)).toList =
      (compact item).toList ++ rest.flatMap fun j => ',' :: (compact j).toList := by
  induction rest generalizing item with
  | nil => simp [compactItems]
  | cons next rest ih => simp [compactItems, ih next]

theorem toList_compactMembers (m : String × Json) (rest : List (String × Json)) :
    (compactMembers (m :: rest)).toList = memberText (fun j => (compact j).toList) [] m ++
      rest.flatMap fun m => ',' :: memberText (fun j => (compact j).toList) [] m := by
  induction rest generalizing m with
  | nil => simp [compactMembers, memberText]
  | cons next rest ih => simp [compactMembers, memberText, ih next]

theorem toList_prettyItems (level : Nat) (item : Json) (rest : List Json) :
    (prettyItems level (item :: rest)).toList =
      (newline level).toList ++ (prettyAt level item).toList ++
        rest.flatMap fun j => ',' :: ((newline level).toList ++ (prettyAt level j).toList) := by
  induction rest generalizing item with
  | nil => simp [prettyItems]
  | cons next rest ih => simp [prettyItems, ih next]

theorem toList_prettyMembers (level : Nat) (m : String × Json) (rest : List (String × Json)) :
    (prettyMembers level (m :: rest)).toList =
      (newline level).toList ++ memberText (fun j => (prettyAt level j).toList) [' '] m ++
        rest.flatMap fun m => ',' :: ((newline level).toList ++
          memberText (fun j => (prettyAt level j).toList) [' '] m) := by
  induction rest generalizing m with
  | nil => simp [prettyMembers, memberText]
  | cons next rest ih => simp [prettyMembers, memberText, ih next]

theorem blanks_newline (level : Nat) : Blanks (newline level).toList := by
  intro c hc
  have hc : c = '\n' ∨ c ∈ List.replicate (2 * level) ' ' := by
    simpa [newline] using hc
  rcases hc with rfl | hc
  · rfl
  · rw [List.eq_of_mem_replicate hc]
    rfl

theorem exactItems_iff {items : List Json} :
    exactItems items = true ↔ ∀ j ∈ items, exact j = true := by
  induction items with
  | nil => exact ⟨fun _ => nofun, fun _ => rfl⟩
  | cons j items ih => rw [exactItems, Bool.and_eq_true, ih, List.forall_mem_cons]

theorem exactMembers_iff {members : List (String × Json)} :
    exactMembers members = true ↔ ∀ m ∈ members, exact m.2 = true := by
  induction members with
  | nil => exact ⟨fun _ => nofun, fun _ => rfl⟩
  | cons m members ih => rw [exactMembers, Bool.and_eq_true, ih, List.forall_mem_cons]

theorem sizeOf_item {items : List Json} {j : Json} (h : j ∈ items) :
    sizeOf j < sizeOf (Json.array items) := by
  have := List.sizeOf_lt_of_mem h
  rw [Json.array.sizeOf_spec]
  omega

theorem sizeOf_member {members : List (String × Json)} {m : String × Json} (h : m ∈ members) :
    sizeOf m.2 < sizeOf (Json.object members) := by
  have := List.sizeOf_lt_of_mem h
  have hm : sizeOf m = 1 + sizeOf m.1 + sizeOf m.2 := by
    cases m
    rfl
  rw [Json.object.sizeOf_spec]
  omega

theorem spells_compact (j : Json) (hj : exact j = true) (r : List Char) (hr : EndsNumber r) :
    Spells ((compact j).toList ++ r) (written j) r := by
  have hnone : Blanks [] := nofun
  match j with
  | .null => exact .null
  | .bool true => exact .yes
  | .bool false => exact .no
  | .integer n => exact spells_integer n hr
  | .string s => exact spells_quote s
  | .array [] => exact .array (.close rfl)
  | .array (item :: rest) =>
    have hall : SpellsAll (fun j => (compact j).toList) (item :: rest) := fun j' hmem r hr =>
      spells_compact j' (exactItems_iff.1 hj j' hmem) r hr
    have h := spells_items (r := r) hnone hnone hall
    simpa [compact, toList_compactItems] using h
  | .object [] => exact .object (.close rfl)
  | .object (m :: rest) =>
    have hall : SpellsAll (fun j => (compact j).toList) ((m :: rest).map (·.2)) := by
      intro j' hmem r hr
      obtain ⟨m', hm', rfl⟩ := List.mem_map.1 hmem
      exact spells_compact m'.2 (exactMembers_iff.1 hj m' hm') r hr
    have h := spells_members (r := r) hnone hnone hnone hall
    simpa [compact, toList_compactMembers] using h
termination_by j
decreasing_by
  · exact sizeOf_item hmem
  · exact sizeOf_member hm'

theorem spells_prettyAt (level : Nat) (j : Json) (hj : exact j = true) (r : List Char)
    (hr : EndsNumber r) : Spells ((prettyAt level j).toList ++ r) (written j) r := by
  match j with
  | .null =>
    rw [prettyAt]
    exact .null
  | .bool true =>
    rw [prettyAt]
    exact .yes
  | .bool false =>
    rw [prettyAt]
    exact .no
  | .integer n =>
    rw [prettyAt]
    exact spells_integer n hr
  | .string s =>
    rw [prettyAt]
    exact spells_quote s
  | .array [] =>
    rw [prettyAt]
    exact .array (.close rfl)
  | .array (item :: rest) =>
    have hall : SpellsAll (fun j => (prettyAt (level + 1) j).toList) (item :: rest) :=
      fun j' hmem r hr => spells_prettyAt (level + 1) j' (exactItems_iff.1 hj j' hmem) r hr
    have h := spells_items (r := r) (blanks_newline (level + 1)) (blanks_newline level) hall
    simpa [prettyAt, toList_prettyItems] using h
  | .object [] =>
    rw [prettyAt]
    exact .object (.close rfl)
  | .object (m :: rest) =>
    have hall : SpellsAll (fun j => (prettyAt (level + 1) j).toList) ((m :: rest).map (·.2)) := by
      intro j' hmem r hr
      obtain ⟨m', hm', rfl⟩ := List.mem_map.1 hmem
      exact spells_prettyAt (level + 1) m'.2 (exactMembers_iff.1 hj m' hm') r hr
    have hspace : Blanks [' '] := fun c hc => by
      rw [List.mem_singleton.1 hc]
      rfl
    have h := spells_members (r := r) (blanks_newline (level + 1)) (blanks_newline level) hspace
      hall
    simpa [prettyAt, toList_prettyMembers] using h
termination_by j
decreasing_by
  · exact sizeOf_item hmem
  · exact sizeOf_member hm'

theorem isText_compact {j : Json} (hj : exact j = true) : IsText (compact j) (written j) := by
  have h := spells_compact j hj [] nofun
  rw [List.append_nil] at h
  exact ⟨[], by rwa [h.afterBlanks_eq], rfl⟩

theorem isText_pretty {j : Json} (hj : exact j = true) : IsText (pretty j) (written j) := by
  have h := spells_prettyAt 0 j hj [] nofun
  rw [List.append_nil] at h
  exact ⟨[], by rwa [pretty, h.afterBlanks_eq], rfl⟩

def Unbroken (cs : List Char) : Prop := '\n' ∉ cs ∧ '\r' ∉ cs

theorem unbroken_append {cs ds : List Char} :
    Unbroken (cs ++ ds) ↔ Unbroken cs ∧ Unbroken ds := by
  simp only [Unbroken, List.mem_append, not_or]
  tauto

theorem unbroken_flatMap {α : Type} {xs : List α} {f : α → List Char}
    (h : ∀ x ∈ xs, Unbroken (f x)) : Unbroken (xs.flatMap f) := by
  simp only [Unbroken, List.mem_flatMap, not_exists, not_and]
  exact ⟨fun x hx => (h x hx).1, fun x hx => (h x hx).2⟩

theorem unbroken_quote (s : String) : Unbroken (quote s).toList := by
  rw [toList_quote]
  have hchars : Unbroken (s.toList.flatMap escapeChar) :=
    unbroken_flatMap fun c _ => escapeChar_no_break c
  have hclose : Unbroken ['\x22'] := by
    unfold Unbroken
    decide
  exact unbroken_append.2 ⟨hclose, unbroken_append.2 ⟨hchars, hclose⟩⟩

theorem unbroken_integer (n : Int) : Unbroken (toString n).toList := by
  have hdigits (m : Nat) : Unbroken (toString m).toList := by
    rw [toList_natural]
    constructor <;> intro h <;>
      exact absurd (Nat.isDigit_of_mem_toDigits (by decide) (by decide) h) (by decide)
  cases n with
  | ofNat m => exact hdigits m
  | negSucc m =>
    rw [show toString (Int.negSucc m) = "-" ++ toString (m + 1) from rfl, String.toList_append]
    exact unbroken_append.2 ⟨by unfold Unbroken; decide, hdigits (m + 1)⟩

theorem unbroken_memberText {f : Json → List Char} {m : String × Json} (h : Unbroken (f m.2)) :
    Unbroken (memberText f [] m) := by
  have hcolon : Unbroken [':'] := by
    unfold Unbroken
    decide
  exact unbroken_append.2 ⟨unbroken_quote _, unbroken_append.2 ⟨hcolon, h⟩⟩

/-- A value on one line has no end of a line inside, whatever its texts hold. -/
theorem unbroken_compact (j : Json) (hj : exact j = true) : Unbroken (compact j).toList := by
  have hmark {c : Char} (hc : c ∈ ['[', ']', '\x7b', '\x7d', ',']) : Unbroken [c] := by
    simp only [List.mem_cons, List.not_mem_nil, or_false] at hc
    unfold Unbroken
    rcases hc with rfl | rfl | rfl | rfl | rfl <;> decide
  match j with
  | .null | .bool true | .bool false | .array [] | .object [] =>
    unfold Unbroken
    decide
  | .integer n => exact unbroken_integer n
  | .string s => exact unbroken_quote s
  | .array (item :: rest) =>
    have hall : ∀ j' ∈ item :: rest, Unbroken (compact j').toList := fun j' hmem =>
      unbroken_compact j' (exactItems_iff.1 hj j' hmem)
    have heq : (compact (.array (item :: rest))).toList = ['['] ++ ((compact item).toList ++
        ((rest.flatMap fun j => [','] ++ (compact j).toList) ++ [']'])) := by
      simp [compact, toList_compactItems]
    rw [heq]
    refine unbroken_append.2 ⟨hmark (by decide), unbroken_append.2 ⟨hall item List.mem_cons_self,
      unbroken_append.2 ⟨unbroken_flatMap fun j' hmem => ?_, hmark (by decide)⟩⟩⟩
    exact unbroken_append.2 ⟨hmark (by decide), hall j' (List.mem_cons_of_mem _ hmem)⟩
  | .object (m :: rest) =>
    have hall : ∀ m' ∈ m :: rest, Unbroken (memberText (fun j => (compact j).toList) [] m') :=
      fun m' hm' => unbroken_memberText (unbroken_compact m'.2 (exactMembers_iff.1 hj m' hm'))
    have heq : (compact (.object (m :: rest))).toList = ['\x7b'] ++
        (memberText (fun j => (compact j).toList) [] m ++
          ((rest.flatMap fun m => [','] ++ memberText (fun j => (compact j).toList) [] m) ++
            ['\x7d'])) := by
      simp [compact, toList_compactMembers]
    rw [heq]
    refine unbroken_append.2 ⟨hmark (by decide), unbroken_append.2 ⟨hall m List.mem_cons_self,
      unbroken_append.2 ⟨unbroken_flatMap fun m' hm' => ?_, hmark (by decide)⟩⟩⟩
    exact unbroken_append.2 ⟨hmark (by decide), hall m' (List.mem_cons_of_mem _ hm')⟩
termination_by j
decreasing_by
  · exact sizeOf_item hmem
  · exact sizeOf_member hm'

mutual

def normal : Json → Json
  | .array items => .array (normalItems items)
  | .object members => sortedObject (normalMembers members)
  | .null => .null
  | .bool b => .bool b
  | .integer n => .integer n
  | .double d => .double d
  | .string s => .string s

def normalItems : List Json → List Json
  | [] => []
  | item :: rest => normal item :: normalItems rest

def normalMembers : List (String × Json) → List (String × Json)
  | [] => []
  | (k, v) :: rest => (k, normal v) :: normalMembers rest

end

mutual

/-- Whether a value can be read back as it was written: at most so many levels of nesting, numbers
that are integers of 64 bits with or without sign. -/
def Fits (depth : Nat) : Json → Prop
  | .null | .bool _ | .string _ => True
  | .integer n => IsInteger n
  | .double _ => False
  | .array items => 0 < depth ∧ FitsItems (depth - 1) items
  | .object members => 0 < depth ∧ FitsMembers (depth - 1) members

def FitsItems (depth : Nat) : List Json → Prop
  | [] => True
  | item :: rest => Fits depth item ∧ FitsItems depth rest

def FitsMembers (depth : Nat) : List (String × Json) → Prop
  | [] => True
  | (_, v) :: rest => Fits depth v ∧ FitsMembers depth rest

end

mutual

theorem value?_written (depth : Nat) (j : Json) (h : Fits depth j) :
    (written j).value? depth = some (normal j) := by
  match j with
  | .null | .bool _ => rfl
  | .integer n => exact numeral_value? h
  | .double _ => exact h.elim
  | .string s =>
    rw [written, Written.value?, stringOf?_pieceOf]
    rfl
  | .array items =>
    rw [written, Written.value?, if_neg (Nat.pos_iff_ne_zero.1 h.1),
      valuesOf?_written (depth - 1) items h.2, normal]
    rfl
  | .object members =>
    rw [written, Written.value?, if_neg (Nat.pos_iff_ne_zero.1 h.1),
      membersOf?_written (depth - 1) members h.2, normal]
    rfl
termination_by structural j

theorem valuesOf?_written (depth : Nat) (items : List Json) (h : FitsItems depth items) :
    valuesOf? depth (writtenItems items) = some (normalItems items) := by
  match items with
  | [] => rfl
  | item :: rest =>
    exact valuesOf?_cons.2 ⟨_, _, value?_written depth item h.1,
      valuesOf?_written depth rest h.2, rfl⟩
termination_by structural items

theorem membersOf?_written (depth : Nat) (members : List (String × Json))
    (h : FitsMembers depth members) :
    membersOf? depth (writtenMembers members) = some (normalMembers members) := by
  match members with
  | [] => rfl
  | (k, v) :: rest =>
    exact membersOf?_cons.2 ⟨k, _, _, stringOf?_pieceOf k, value?_written depth v h.1,
      membersOf?_written depth rest h.2, rfl⟩
termination_by structural members

end

mutual

theorem Fits.exact {depth : Nat} {j : Json} (h : Fits depth j) : exact j = true := by
  match j with
  | .null | .bool _ | .integer _ | .string _ => rfl
  | .double _ => exact h.elim
  | .array items => exact FitsItems.exact h.2
  | .object members => exact FitsMembers.exact h.2
termination_by structural j

theorem FitsItems.exact {depth : Nat} {items : List Json} (h : FitsItems depth items) :
    exactItems items = true := by
  match items with
  | [] => rfl
  | item :: rest =>
    rw [exactItems, Fits.exact h.1, FitsItems.exact h.2]
    rfl
termination_by structural items

theorem FitsMembers.exact {depth : Nat} {members : List (String × Json)}
    (h : FitsMembers depth members) : exactMembers members = true := by
  match members with
  | [] => rfl
  | (_, v) :: rest =>
    rw [exactMembers, Fits.exact h.1, FitsMembers.exact h.2]
    rfl
termination_by structural members

end

/-- Both writers write the same value. -/
theorem parse_written {j : Json} (h : Fits Reader.depthLimit j) :
    parse (compact j) = .ok (normal j) ∧ parse (pretty j) = .ok (normal j) :=
  ⟨parse_iff.2 ⟨_, isText_compact h.exact, value?_written _ j h⟩,
    parse_iff.2 ⟨_, isText_pretty h.exact, value?_written _ j h⟩⟩

end RegexStudio.Json
