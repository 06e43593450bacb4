import Mathlib.Data.List.TakeWhile
import RegexStudio.Json.Reader

/-! The grammar of JSON texts. A text is taken apart into a tree that still holds what a reader may
refuse or lose: escapes that are no characters, numbers of any length, members with the same name.
Every relation here takes a text, what stands at its front, and the text behind that; it leaves no
choice, so a text has one tree at most. -/

namespace RegexStudio.Json

open Text (isDigit isHexDigit hexadecimalValue)

def afterBlanks (t : List Char) : List Char := t.dropWhile Cursor.isSpace

inductive Piece
  | char (c : Char)
  | unit (n : Nat)
deriving DecidableEq

def escaped? : Char → Option Char
  | '\x22' => some '\x22'
  | '\\' => some '\\'
  | '/' => some '/'
  | 'b' => some '\x08'
  | 'f' => some '\x0C'
  | 'n' => some '\n'
  | 'r' => some '\r'
  | 't' => some '\t'
  | _ => none

def HexUnit (t : List Char) (n : Nat) (r : List Char) : Prop :=
  ∃ a b d e, t = a :: b :: d :: e :: r ∧ [a, b, d, e].all isHexDigit = true ∧
    hexadecimalValue [a, b, d, e] = n

inductive Body : List Char → List Piece → List Char → Prop
  | close {r : List Char} : Body ('\x22' :: r) [] r
  | plain {t r : List Char} {c : Char} {ps : List Piece} (hquote : c ≠ '\x22')
      (hslash : c ≠ '\\') (hcontrol : 0x20 ≤ c.toNat) (h : Body t ps r) :
      Body (c :: t) (.char c :: ps) r
  | short {t r : List Char} {e c : Char} {ps : List Piece} (he : escaped? e = some c)
      (h : Body t ps r) : Body ('\\' :: e :: t) (.char c :: ps) r
  | unit {t u r : List Char} {n : Nat} {ps : List Piece} (hn : HexUnit t n u) (h : Body u ps r) :
      Body ('\\' :: 'u' :: t) (.unit n :: ps) r

def isLead (n : Nat) : Bool := 0xD800 ≤ n && n ≤ 0xDBFF

def isTrail (n : Nat) : Bool := 0xDC00 ≤ n && n ≤ 0xDFFF

def joined (lead trail : Nat) : Char :=
  Char.ofNat ((lead - 0xD800) * 0x400 + (trail - 0xDC00) + 0x10000)

def charsOf? : List Piece → Option (List Char)
  | [] => some []
  | .char c :: ps => (charsOf? ps).map (c :: ·)
  | .unit n :: ps =>
    if isTrail n then none
    else if isLead n then
      match ps with
      | .unit m :: ps => if isTrail m then (charsOf? ps).map (joined n m :: ·) else none
      | _ => none
    else (charsOf? ps).map (Char.ofNat n :: ·)

def stringOf? (ps : List Piece) : Option String := (charsOf? ps).map String.ofList

theorem HexUnit.unique {t r r' : List Char} {n n' : Nat} (h : HexUnit t n r)
    (h' : HexUnit t n' r') : n = n' ∧ r = r' := by
  obtain ⟨_, _, _, _, rfl, -, rfl⟩ := h
  obtain ⟨_, _, _, _, ⟨⟩, -, rfl⟩ := h'
  exact ⟨rfl, rfl⟩

theorem body_quote {t r : List Char} {ps : List Piece} :
    Body ('\x22' :: t) ps r ↔ ps = [] ∧ t = r := by
  constructor
  · intro h
    cases h with
    | close => exact ⟨rfl, rfl⟩
    | plain hquote => exact absurd rfl hquote
  · rintro ⟨rfl, rfl⟩
    exact .close

theorem body_char {t r : List Char} {c : Char} {ps : List Piece} (hquote : c ≠ '\x22')
    (hslash : c ≠ '\\') : Body (c :: t) ps r ↔
      0x20 ≤ c.toNat ∧ ∃ ps', ps = .char c :: ps' ∧ Body t ps' r := by
  constructor
  · intro h
    cases h with
    | close => exact absurd rfl hquote
    | plain _ _ hcontrol h => exact ⟨hcontrol, _, rfl, h⟩
    | short | unit => exact absurd rfl hslash
  · rintro ⟨hcontrol, ps', rfl, h⟩
    exact .plain hquote hslash hcontrol h

theorem body_unit {t r : List Char} {ps : List Piece} : Body ('\\' :: 'u' :: t) ps r ↔
    ∃ n u, HexUnit t n u ∧ ∃ ps', ps = .unit n :: ps' ∧ Body u ps' r := by
  constructor
  · intro h
    cases h with
    | plain _ hslash => exact absurd rfl hslash
    | short he => cases he
    | unit hn h => exact ⟨_, _, hn, _, rfl, h⟩
  · rintro ⟨n, u, hn, ps', rfl, h⟩
    exact .unit hn h

theorem Body.unique {t r r' : List Char} {ps ps' : List Piece} (h : Body t ps r)
    (h' : Body t ps' r') : ps = ps' ∧ r = r' := by
  induction h generalizing ps' with
  | close =>
    cases h' with
    | close => exact ⟨rfl, rfl⟩
    | plain hquote => exact absurd rfl hquote
  | plain hquote hslash hcontrol _ ih =>
    cases h' with
    | close => exact absurd rfl hquote
    | plain _ _ _ h' =>
      obtain ⟨rfl, rfl⟩ := ih h'
      exact ⟨rfl, rfl⟩
    | short | unit => exact absurd rfl hslash
  | short he _ ih =>
    cases h' with
    | plain _ hslash => exact absurd rfl hslash
    | short he' h' =>
      obtain ⟨rfl, rfl⟩ := ih h'
      cases he.symm.trans he'
      exact ⟨rfl, rfl⟩
    | unit => cases he
  | unit hn _ ih =>
    cases h' with
    | plain _ hslash => exact absurd rfl hslash
    | short he' => cases he'
    | unit hn' h' =>
      obtain ⟨rfl, rfl⟩ := hn.unique hn'
      obtain ⟨rfl, rfl⟩ := ih h'
      exact ⟨rfl, rfl⟩

structure Numeral where
  negative : Bool
  whole : List Char
  fraction : Option (List Char)
  exponent : Option (Bool × List Char)
deriving DecidableEq

def Digits (t ds r : List Char) : Prop :=
  ds ≠ [] ∧ ds = t.takeWhile isDigit ∧ r = t.dropWhile isDigit

def Whole (t ds r : List Char) : Prop := Digits t ds r ∧ (ds.head? = some '0' → ds = ['0'])

inductive Fraction : List Char → Option (List Char) → List Char → Prop
  | absent {t : List Char} (h : t.head? ≠ some '.') : Fraction t none t
  | digits {t ds r : List Char} (h : Digits t ds r) : Fraction ('.' :: t) (some ds) r

def exponentSign : List Char → Bool × List Char
  | '+' :: t => (false, t)
  | '-' :: t => (true, t)
  | t => (false, t)

inductive Exponent : List Char → Option (Bool × List Char) → List Char → Prop
  | absent {t : List Char} (hlower : t.head? ≠ some 'e') (hupper : t.head? ≠ some 'E') :
      Exponent t none t
  | digits {t ds r : List Char} {e : Char} (he : e = 'e' ∨ e = 'E')
      (h : Digits (exponentSign t).2 ds r) :
      Exponent (e :: t) (some ((exponentSign t).1, ds)) r

def Magnitude (t : List Char) (n : Numeral) (r : List Char) : Prop :=
  ∃ u v, Whole t n.whole u ∧ Fraction u n.fraction v ∧ Exponent v n.exponent r

def fitting (significand : Nat) : List Char → Nat × List Char
  | [] => (significand, [])
  | d :: ds =>
    let next := significand * 10 + (d.toNat - 48)
    if Reader.maxNatural < next then (significand, d :: ds) else fitting next ds

def exponentFrom? (value : Nat) : List Char → Option Nat
  | [] => some value
  | d :: ds =>
    let next := value * 10 + (d.toNat - 48)
    if 2147483647 < next then none else exponentFrom? next ds

def double? (negative : Bool) (significand : Nat) (exponent : Int) : Option Json :=
  (Double.ofParts negative significand exponent).map .double

def scaled? (negative : Bool) (significand : Nat) (scale : Int) :
    Option (Bool × List Char) → Option Json
  | none => double? negative significand scale
  | some (down, ds) =>
    match exponentFrom? 0 ds with
    | some e => double? negative significand (if down then scale - e else scale + e)
    | none =>
      if significand ≠ 0 ∧ down = false then none
      else some (.double (.ofFloat (if negative then -0.0 else 0.0)))

def wholeNumber (negative : Bool) (significand : Nat) : Json :=
  if negative = false then .natural significand
  else if significand = 0 ∨ Double.signBit < significand then
    .double (.ofFloat (-(Float.ofNat significand)))
  else .integer (-(significand : Int))

def finished? (negative : Bool) (significand : Nat) (excess : List Char)
    (fraction : Option (List Char)) (exponent : Option (Bool × List Char)) : Option Json :=
  match fraction, exponent, excess with
  | none, none, [] => some (wholeNumber negative significand)
  | none, exponent, excess => scaled? negative significand excess.length exponent
  | some ds, exponent, excess =>
    let (significand, left) := fitting significand ds
    scaled? negative significand (excess.length - (ds.length - left.length : Nat)) exponent

def Numeral.value? (n : Numeral) : Option Json :=
  let (significand, excess) := fitting 0 n.whole
  finished? n.negative significand excess n.fraction n.exponent

variable {t u r r' : List Char}

theorem Digits.unique {ds ds' : List Char} (h : Digits t ds r) (h' : Digits t ds' r') :
    ds = ds' ∧ r = r' := ⟨h.2.1.trans h'.2.1.symm, h.2.2.trans h'.2.2.symm⟩

theorem Digits.eq_append {ds : List Char} (h : Digits t ds r) : t = ds ++ r := by
  rw [h.2.1, h.2.2, List.takeWhile_append_dropWhile]

theorem Digits.length_lt {ds : List Char} (h : Digits t ds r) : r.length < t.length := by
  have hpos := List.length_pos_iff.2 h.1
  rw [h.eq_append, List.length_append]
  omega

theorem digits_append {ds : List Char} (hne : ds ≠ []) (hds : ∀ d ∈ ds, isDigit d = true)
    (hr : ∀ c ∈ r.head?, isDigit c = false) : Digits (ds ++ r) ds r := by
  have hstop : r.takeWhile isDigit = [] ∧ r.dropWhile isDigit = r := by
    cases r with
    | nil => exact ⟨rfl, rfl⟩
    | cons c r =>
      have hc := hr c rfl
      exact ⟨List.takeWhile_cons_of_neg (by simp [hc]), List.dropWhile_cons_of_neg (by simp [hc])⟩
  refine ⟨hne, ?_, ?_⟩
  · rw [List.takeWhile_append_of_pos hds, hstop.1, List.append_nil]
  · rw [List.dropWhile_append_of_pos hds, hstop.2]

theorem Digits.head_rest {ds : List Char} (h : Digits t ds r) :
    ∀ c ∈ r.head?, Text.isDigit c = false := by
  intro c hc
  have := List.head?_dropWhile_not Text.isDigit t
  rw [← h.2.2, Option.mem_def.1 hc] at this
  exact this

theorem Fraction.unique {fs fs' : Option (List Char)} (h : Fraction t fs r)
    (h' : Fraction t fs' r') : fs = fs' ∧ r = r' := by
  cases h with
  | absent h =>
    cases h' with
    | absent => exact ⟨rfl, rfl⟩
    | digits => exact absurd rfl h
  | digits h =>
    cases h' with
    | absent h' => exact absurd rfl h'
    | digits h' =>
      obtain ⟨rfl, rfl⟩ := h.unique h'
      exact ⟨rfl, rfl⟩

theorem Exponent.unique {ex ex' : Option (Bool × List Char)} (h : Exponent t ex r)
    (h' : Exponent t ex' r') : ex = ex' ∧ r = r' := by
  cases h with
  | absent hlower hupper =>
    cases h' with
    | absent => exact ⟨rfl, rfl⟩
    | digits he =>
      rcases he with rfl | rfl
      · exact absurd rfl hlower
      · exact absurd rfl hupper
  | digits he h =>
    cases h' with
    | absent hlower hupper =>
      rcases he with rfl | rfl
      · exact absurd rfl hlower
      · exact absurd rfl hupper
    | digits _ h' =>
      obtain ⟨rfl, rfl⟩ := h.unique h'
      exact ⟨rfl, rfl⟩

theorem Magnitude.unique {n n' : Numeral} (hsign : n.negative = n'.negative)
    (h : Magnitude t n r) (h' : Magnitude t n' r') : n = n' ∧ r = r' := by
  obtain ⟨negative, whole, fraction, exponent⟩ := n
  obtain ⟨negative', whole', fraction', exponent'⟩ := n'
  obtain ⟨u, v, hw, hf, he⟩ := h
  obtain ⟨u', v', hw', hf', he'⟩ := h'
  dsimp only at hsign hw hw' hf hf' he he'
  obtain ⟨rfl, rfl⟩ := hw.1.unique hw'.1
  obtain ⟨rfl, rfl⟩ := hf.unique hf'
  obtain ⟨rfl, rfl⟩ := he.unique he'
  exact ⟨by rw [hsign], rfl⟩

theorem Whole.head {ds : List Char} (h : Whole t ds r) :
    ∃ d t', t = d :: t' ∧ Text.isDigit d = true := by
  obtain ⟨hne, hds, -⟩ := h.1
  cases t with
  | nil => exact absurd hds hne
  | cons d t' =>
    refine ⟨d, t', rfl, ?_⟩
    by_contra hd
    rw [List.takeWhile_cons_of_neg hd] at hds
    exact hne hds

theorem Magnitude.head {n : Numeral} (h : Magnitude t n r) :
    ∃ d t', t = d :: t' ∧ isDigit d = true := by
  obtain ⟨_, _, hw, -⟩ := h
  exact hw.head

theorem Magnitude.false_of_head {n : Numeral} {c : Char} (h : Magnitude (c :: t) n r)
    (hc : isDigit c = false) : False := by
  obtain ⟨d, t', heq, hd⟩ := h.head
  cases heq
  rw [hc] at hd
  cases hd

inductive Written
  | null
  | bool (b : Bool)
  | number (n : Numeral)
  | string (ps : List Piece)
  | array (items : List Written)
  | object (members : List (List Piece × Written))

/-- Where the next item or member of a container begins: all but the first have a comma before
them. -/
inductive Starts : Bool → List Char → List Char → Prop
  | first {t : List Char} : Starts true t (afterBlanks t)
  | next {t s : List Char} (h : afterBlanks t = ',' :: s) : Starts false t (afterBlanks s)

theorem Starts.unique {first : Bool} {s s' : List Char} (h : Starts first t s)
    (h' : Starts first t s') : s = s' := by
  cases h with
  | first =>
    cases h'
    rfl
  | next h =>
    cases h' with
    | next h' => rw [List.tail_eq_of_cons_eq (h.symm.trans h')]

theorem Starts.eq_cons {first : Bool} {s : List Char} {c : Char} (h : Starts first t s)
    (hc : c ≠ ',') (hclose : afterBlanks t = c :: r) : s = c :: r := by
  cases h with
  | first => exact hclose
  | next h =>
    cases h.symm.trans hclose
    exact absurd rfl hc

mutual

inductive Spells : List Char → Written → List Char → Prop
  | null {r : List Char} : Spells ('n' :: 'u' :: 'l' :: 'l' :: r) .null r
  | yes {r : List Char} : Spells ('t' :: 'r' :: 'u' :: 'e' :: r) (.bool true) r
  | no {r : List Char} : Spells ('f' :: 'a' :: 'l' :: 's' :: 'e' :: r) (.bool false) r
  | number {t r : List Char} {n : Numeral} (hsign : n.negative = false) (h : Magnitude t n r) :
      Spells t (.number n) r
  | negative {t r : List Char} {n : Numeral} (hsign : n.negative = true) (h : Magnitude t n r) :
      Spells ('-' :: t) (.number n) r
  | string {t r : List Char} {ps : List Piece} (h : Body t ps r) :
      Spells ('\x22' :: t) (.string ps) r
  | array {t r : List Char} {items : List Written} (h : Items true t items r) :
      Spells ('[' :: t) (.array items) r
  | object {t r : List Char} {members : List (List Piece × Written)}
      (h : Members true t members r) : Spells ('\x7b' :: t) (.object members) r

inductive Items : Bool → List Char → List Written → List Char → Prop
  | close {first : Bool} {t r : List Char} (h : afterBlanks t = ']' :: r) : Items first t [] r
  | item {first : Bool} {t s u r : List Char} {x : Written} {xs : List Written}
      (hstart : Starts first t s) (hx : Spells s x u) (hs : Items false u xs r) :
      Items first t (x :: xs) r

inductive Members : Bool → List Char → List (List Piece × Written) → List Char → Prop
  | close {first : Bool} {t r : List Char} (h : afterBlanks t = '\x7d' :: r) :
      Members first t [] r
  | member {first : Bool} {t s u r : List Char} {m : List Piece × Written}
      {ms : List (List Piece × Written)} (hstart : Starts first t s) (hm : Member s m u)
      (hs : Members false u ms r) : Members first t (m :: ms) r

inductive Member : List Char → List Piece × Written → List Char → Prop
  | mk {t s u r : List Char} {k : List Piece} {x : Written} (hkey : Body t k s)
      (hcolon : afterBlanks s = ':' :: u) (hx : Spells (afterBlanks u) x r) :
      Member ('\x22' :: t) (k, x) r

end

/-! What a text spells shows in its first character. -/

section

variable {x : Written} {c : Char}

theorem spells_null : Spells ('n' :: t) x r ↔ x = .null ∧ t = 'u' :: 'l' :: 'l' :: r := by
  constructor
  · rintro (_ | _ | _ | ⟨-, h⟩)
    · exact ⟨rfl, rfl⟩
    · exact (h.false_of_head rfl).elim
  · rintro ⟨rfl, rfl⟩
    exact .null

theorem spells_true : Spells ('t' :: t) x r ↔ x = .bool true ∧ t = 'r' :: 'u' :: 'e' :: r := by
  constructor
  · rintro (_ | _ | _ | ⟨-, h⟩)
    · exact ⟨rfl, rfl⟩
    · exact (h.false_of_head rfl).elim
  · rintro ⟨rfl, rfl⟩
    exact .yes

theorem spells_false :
    Spells ('f' :: t) x r ↔ x = .bool false ∧ t = 'a' :: 'l' :: 's' :: 'e' :: r := by
  constructor
  · rintro (_ | _ | _ | ⟨-, h⟩)
    · exact ⟨rfl, rfl⟩
    · exact (h.false_of_head rfl).elim
  · rintro ⟨rfl, rfl⟩
    exact .no

theorem spells_negative :
    Spells ('-' :: t) x r ↔ ∃ n, x = .number n ∧ n.negative = true ∧ Magnitude t n r := by
  constructor
  · rintro (_ | _ | _ | ⟨-, h⟩ | ⟨hsign, h⟩)
    · exact (h.false_of_head rfl).elim
    · exact ⟨_, rfl, hsign, h⟩
  · rintro ⟨n, rfl, hsign, h⟩
    exact .negative hsign h

theorem spells_digit (hc : isDigit c = true) : Spells (c :: t) x r ↔
    ∃ n, x = .number n ∧ n.negative = false ∧ Magnitude (c :: t) n r := by
  constructor
  · rintro (_ | _ | _ | ⟨hsign, h⟩ | _ | _ | _ | _)
    case number => exact ⟨_, rfl, hsign, h⟩
    all_goals cases hc
  · rintro ⟨n, rfl, hsign, h⟩
    exact .number hsign h

theorem spells_string : Spells ('\x22' :: t) x r ↔ ∃ ps, x = .string ps ∧ Body t ps r := by
  constructor
  · rintro (_ | _ | _ | ⟨-, h⟩ | _ | h)
    · exact (h.false_of_head rfl).elim
    · exact ⟨_, rfl, h⟩
  · rintro ⟨ps, rfl, h⟩
    exact .string h

theorem spells_array :
    Spells ('[' :: t) x r ↔ ∃ items, x = .array items ∧ Items true t items r := by
  constructor
  · rintro (_ | _ | _ | ⟨-, h⟩ | _ | _ | h)
    · exact (h.false_of_head rfl).elim
    · exact ⟨_, rfl, h⟩
  · rintro ⟨items, rfl, h⟩
    exact .array h

theorem spells_object :
    Spells ('\x7b' :: t) x r ↔ ∃ ms, x = .object ms ∧ Members true t ms r := by
  constructor
  · rintro (_ | _ | _ | ⟨-, h⟩ | _ | _ | _ | h)
    · exact (h.false_of_head rfl).elim
    · exact ⟨_, rfl, h⟩
  · rintro ⟨ms, rfl, h⟩
    exact .object h

theorem Spells.head (h : Spells t x r) : ∃ c t', t = c :: t' ∧
    (c ∈ ['n', 't', 'f', '-', '\x22', '[', '\x7b'] ∨ isDigit c = true) := by
  cases h with
  | number _ h =>
    obtain ⟨d, t', rfl, hd⟩ := h.head
    exact ⟨d, t', rfl, .inr hd⟩
  | _ => exact ⟨_, _, rfl, .inl (by decide)⟩

theorem not_spells (hc : c ∉ ['n', 't', 'f', '-', '\x22', '[', '\x7b'])
    (hdigit : isDigit c = false) : ¬Spells (c :: t) x r := by
  intro h
  obtain ⟨_, _, heq, hmem | hd⟩ := h.head
  · cases heq
    exact hc hmem
  · cases heq
    rw [hdigit] at hd
    cases hd

theorem member_iff {m : List Piece × Written} : Member t m r ↔
    ∃ v s u, t = '\x22' :: v ∧ Body v m.1 s ∧ afterBlanks s = ':' :: u ∧
      Spells (afterBlanks u) m.2 r := by
  constructor
  · rintro ⟨hkey, hcolon, hx⟩
    exact ⟨_, _, _, rfl, hkey, hcolon, hx⟩
  · rintro ⟨_, _, _, rfl, hkey, hcolon, hx⟩
    exact .mk hkey hcolon hx

theorem items_iff {first : Bool} {xs : List Written} : Items first t xs r ↔
    (xs = [] ∧ afterBlanks t = ']' :: r) ∨
      ∃ x xs' s u, xs = x :: xs' ∧ Starts first t s ∧ Spells s x u ∧ Items false u xs' r := by
  constructor
  · rintro (h | ⟨hstart, hx, hs⟩)
    · exact .inl ⟨rfl, h⟩
    · exact .inr ⟨_, _, _, _, rfl, hstart, hx, hs⟩
  · rintro (⟨rfl, h⟩ | ⟨_, _, _, _, rfl, hstart, hx, hs⟩)
    · exact .close h
    · exact .item hstart hx hs

theorem members_iff {first : Bool} {ms : List (List Piece × Written)} : Members first t ms r ↔
    (ms = [] ∧ afterBlanks t = '\x7d' :: r) ∨
      ∃ m ms' s u, ms = m :: ms' ∧ Starts first t s ∧ Member s m u ∧ Members false u ms' r := by
  constructor
  · rintro (h | ⟨hstart, hm, hs⟩)
    · exact .inl ⟨rfl, h⟩
    · exact .inr ⟨_, _, _, _, rfl, hstart, hm, hs⟩
  · rintro (⟨rfl, h⟩ | ⟨_, _, _, _, rfl, hstart, hm, hs⟩)
    · exact .close h
    · exact .member hstart hm hs

theorem Starts.not_spells {first : Bool} {s : List Char} (hstart : Starts first t s)
    (h : afterBlanks t = ']' :: r) : ¬Spells s x r' := by
  rw [hstart.eq_cons (c := ']') (by decide) h]
  exact Json.not_spells (by decide) rfl

theorem Starts.not_member {first : Bool} {s : List Char} {m : List Piece × Written}
    (hstart : Starts first t s) (h : afterBlanks t = '\x7d' :: r) : ¬Member s m r' := by
  rw [hstart.eq_cons (c := '\x7d') (by decide) h]
  nofun

end

mutual

theorem Spells.unique {t r r' : List Char} {x x' : Written} (h : Spells t x r)
    (h' : Spells t x' r') : x = x' ∧ r = r' := by
  match h with
  | .null =>
    obtain ⟨rfl, heq⟩ := spells_null.1 h'
    cases heq
    exact ⟨rfl, rfl⟩
  | .yes =>
    obtain ⟨rfl, heq⟩ := spells_true.1 h'
    cases heq
    exact ⟨rfl, rfl⟩
  | .no =>
    obtain ⟨rfl, heq⟩ := spells_false.1 h'
    cases heq
    exact ⟨rfl, rfl⟩
  | .number hsign h =>
    obtain ⟨d, _, rfl, hd⟩ := h.head
    obtain ⟨n', rfl, hsign', hn'⟩ := (spells_digit hd).1 h'
    obtain ⟨rfl, rfl⟩ := h.unique (hsign.trans hsign'.symm) hn'
    exact ⟨rfl, rfl⟩
  | .negative hsign h =>
    obtain ⟨n', rfl, hsign', hn'⟩ := spells_negative.1 h'
    obtain ⟨rfl, rfl⟩ := h.unique (hsign.trans hsign'.symm) hn'
    exact ⟨rfl, rfl⟩
  | .string h =>
    obtain ⟨ps', rfl, hps'⟩ := spells_string.1 h'
    obtain ⟨rfl, rfl⟩ := h.unique hps'
    exact ⟨rfl, rfl⟩
  | .array h =>
    obtain ⟨items', rfl, hitems'⟩ := spells_array.1 h'
    obtain ⟨rfl, rfl⟩ := Items.unique h hitems'
    exact ⟨rfl, rfl⟩
  | .object h =>
    obtain ⟨ms', rfl, hms'⟩ := spells_object.1 h'
    obtain ⟨rfl, rfl⟩ := Members.unique h hms'
    exact ⟨rfl, rfl⟩
termination_by structural h

theorem Items.unique {first : Bool} {t r r' : List Char} {xs xs' : List Written}
    (h : Items first t xs r) (h' : Items first t xs' r') : xs = xs' ∧ r = r' := by
  match h with
  | .close h =>
    obtain ⟨rfl, hclose'⟩ | ⟨_, _, _, _, _, hstart', hx', -⟩ := items_iff.1 h'
    · cases h.symm.trans hclose'
      exact ⟨rfl, rfl⟩
    · exact (hstart'.not_spells h hx').elim
  | .item hstart hx hs =>
    obtain ⟨rfl, hclose'⟩ | ⟨_, _, _, _, rfl, hstart', hx', hs'⟩ := items_iff.1 h'
    · exact (hstart.not_spells hclose' hx).elim
    · obtain rfl := hstart.unique hstart'
      obtain ⟨rfl, rfl⟩ := Spells.unique hx hx'
      obtain ⟨rfl, rfl⟩ := Items.unique hs hs'
      exact ⟨rfl, rfl⟩
termination_by structural h

theorem Members.unique {first : Bool} {t r r' : List Char} {ms ms' : List (List Piece × Written)}
    (h : Members first t ms r) (h' : Members first t ms' r') : ms = ms' ∧ r = r' := by
  match h with
  | .close h =>
    obtain ⟨rfl, hclose'⟩ | ⟨_, _, _, _, _, hstart', hm', -⟩ := members_iff.1 h'
    · cases h.symm.trans hclose'
      exact ⟨rfl, rfl⟩
    · exact (hstart'.not_member h hm').elim
  | .member hstart hm hs =>
    obtain ⟨rfl, hclose'⟩ | ⟨_, _, _, _, rfl, hstart', hm', hs'⟩ := members_iff.1 h'
    · exact (hstart.not_member hclose' hm).elim
    · obtain rfl := hstart.unique hstart'
      obtain ⟨rfl, rfl⟩ := Member.unique hm hm'
      obtain ⟨rfl, rfl⟩ := Members.unique hs hs'
      exact ⟨rfl, rfl⟩
termination_by structural h

theorem Member.unique {t r r' : List Char} {m m' : List Piece × Written} (h : Member t m r)
    (h' : Member t m' r') : m = m' ∧ r = r' := by
  match h with
  | .mk hkey hcolon hx =>
    obtain ⟨_, _, _, heq, hkey', hcolon', hx'⟩ := member_iff.1 h'
    cases heq
    obtain ⟨hname, rfl⟩ := hkey.unique hkey'
    obtain rfl := List.tail_eq_of_cons_eq (hcolon.symm.trans hcolon')
    obtain ⟨hvalue, rfl⟩ := Spells.unique hx hx'
    exact ⟨Prod.ext hname hvalue, rfl⟩
termination_by structural h

end

mutual

/-- The value that is written, with `depth` more levels of nesting allowed; none if a number is too
large, a string breaks a surrogate pair, or the nesting is too deep. -/
def Written.value? (depth : Nat) : Written → Option Json
  | .null => some .null
  | .bool b => some (.bool b)
  | .number n => n.value?
  | .string ps => (stringOf? ps).map .string
  | .array items => if depth = 0 then none else (valuesOf? (depth - 1) items).map .array
  | .object members =>
    if depth = 0 then none else (membersOf? (depth - 1) members).map sortedObject

def valuesOf? (depth : Nat) : List Written → Option (List Json)
  | [] => some []
  | x :: xs => do
    let v ← x.value? depth
    let vs ← valuesOf? depth xs
    return v :: vs

def membersOf? (depth : Nat) : List (List Piece × Written) → Option (List (String × Json))
  | [] => some []
  | (k, x) :: ms => do
    let key ← stringOf? k
    let v ← x.value? depth
    let vs ← membersOf? depth ms
    return (key, v) :: vs

end

def IsText (text : String) (x : Written) : Prop :=
  ∃ r, Spells (afterBlanks text.toList) x r ∧ afterBlanks r = []

theorem IsText.unique {text : String} {x x' : Written} (h : IsText text x) (h' : IsText text x') :
    x = x' := by
  obtain ⟨_, h, -⟩ := h
  obtain ⟨_, h', -⟩ := h'
  exact (h.unique h').1

end RegexStudio.Json
