import RegexStudio.Proofs.Haystack
import RegexStudio.Proofs.SessionLines
import RegexStudio.Proofs.TemplatePrinting
import RegexStudio.Template.Offsets

/-! Reading a template by byte offsets. No cut goes past the end of the template or into a
character, and each round leaves a dollar sign behind, so there are no more rounds than dollar
signs; what the rounds come to is what reading by characters comes to. -/

namespace RegexStudio

open Text (byteLength byteLength_append)

namespace Text

variable {cs before : List Char} {c : Char}

theorem sliceFrom_append (before after : List Char) :
    sliceFrom (before ++ after) (byteLength before) = some after := by
  rw [sliceFrom, splitAtByte_byteLength]
  rfl

theorem slice_front (text after : List Char) :
    slice (text ++ after) 0 (byteLength text) = some text := by
  have h := slice_append [] text after
  rwa [List.nil_append, byteLength, Nat.zero_add] at h

theorem find?_of_not_mem (h : c ∉ cs) : find? c cs = none := if_neg h

theorem find?_append (h : c ∉ before) (after : List Char) :
    find? c (before ++ c :: after) = some (byteLength before) := by
  have hmem : c ∈ before ++ c :: after := List.mem_append_right _ List.mem_cons_self
  have hall : ∀ d ∈ before, (d != c) = true := by
    intro d hd
    exact bne_iff_ne.2 (ne_of_mem_of_not_mem hd h)
  have hfront : (before ++ c :: after).takeWhile (· != c) = before := by
    rw [List.takeWhile_append_of_pos hall, List.takeWhile_cons_of_neg (by simp), List.append_nil]
  rw [find?, if_pos hmem, hfront]

theorem split_of_find? {n : Nat} (h : find? c cs = some n) :
    ∃ before after, cs = before ++ c :: after ∧ c ∉ before ∧ byteLength before = n := by
  by_cases hmem : c ∈ cs
  · obtain ⟨before, after, rfl, hbefore⟩ := List.eq_append_cons_of_mem hmem
    rw [find?_append hbefore] at h
    exact ⟨before, after, rfl, hbefore, Option.some.inj h⟩
  · rw [find?_of_not_mem hmem] at h
    cases h

theorem bytes_cons (c : Char) (cs : List Char) :
    bytes (c :: cs) = String.utf8EncodeChar c ++ bytes cs := List.flatMap_cons

theorem byteLength_eq_utf8Len (cs : List Char) : byteLength cs = String.utf8Len cs := by
  induction cs with
  | nil => rfl
  | cons c cs ih => rw [byteLength, String.utf8Len_cons, ih, Nat.add_comm]

end Text

def IsPlace (t : String) (n : Nat) : Prop := (String.Pos.Raw.mk n).IsValid t

theorem isPlace_of_append {t : String} {before after : List Char} {n : Nat}
    (h : t.toList = before ++ after) (hn : n = byteLength before) : IsPlace t n := by
  refine String.Pos.Raw.isValid_iff_exists_append.2
    ⟨String.ofList before, String.ofList after, ?_, ?_⟩
  · rw [← String.ofList_append, ← h, String.ofList_toList]
  · rw [String.rawEndPos_ofList, hn, Text.byteLength_eq_utf8Len]

namespace Template

def IsNameCode (n : Nat) : Prop :=
  n = 95 ∨ (48 ≤ n ∧ n ≤ 57) ∨ (65 ≤ n ∧ n ≤ 90) ∨ (97 ≤ n ∧ n ≤ 122)

theorem IsNameCode.lt {n : Nat} (h : IsNameCode n) : n < 0x80 := by
  unfold IsNameCode at h
  omega

theorem isNameByte_iff {b : UInt8} : isNameByte b = true ↔ IsNameCode b.toNat := by
  simp [isNameByte, IsNameCode, UInt8.le_iff_toNat_le, ← UInt8.toNat_inj, or_assoc]

theorem isNameChar_iff {c : Char} : isNameChar c = true ↔ IsNameCode c.toNat := by
  have hle (d e : Char) : d ≤ e ↔ d.toNat ≤ e.toNat := Char.le_def.trans UInt32.le_iff_toNat_le
  have heq : c = '_' ↔ c.toNat = 95 := ⟨fun h => h ▸ rfl, fun h => Char.toNat_inj.1 h⟩
  have hrange (a b : Char) :
      (decide (a ≤ c) && decide (c ≤ b)) = true ↔ a.toNat ≤ c.toNat ∧ c.toNat ≤ b.toNat := by
    rw [Bool.and_eq_true, decide_eq_true_eq, decide_eq_true_eq, hle, hle]
  rw [isNameChar, Bool.or_eq_true, Bool.or_eq_true, Bool.or_eq_true, beq_iff_eq, heq, Text.isDigit,
    hrange, hrange, hrange, IsNameCode, show '0'.toNat = 48 from rfl, show '9'.toNat = 57 from rfl,
    show 'a'.toNat = 97 from rfl, show 'z'.toNat = 122 from rfl, show 'A'.toNat = 65 from rfl,
    show 'Z'.toNat = 90 from rfl]
  omega

theorem encode_of_isNameChar {c : Char} (h : isNameChar c = true) :
    c.utf8Size = 1 ∧ ∃ b, String.utf8EncodeChar c = [b] ∧ isNameByte b = true := by
  have hcode := isNameChar_iff.1 h
  have hlt := hcode.lt
  have hle : c.val ≤ 127 := UInt32.le_iff_toNat_le.2 (Nat.le_of_lt_succ hlt)
  have hsize : c.utf8Size = 1 := Char.utf8Size_eq_one_iff.2 hle
  have hbyte : c.val.toUInt8.toNat = c.toNat := by
    rw [UInt32.toNat_toUInt8]
    exact Nat.mod_eq_of_lt (Nat.lt_trans hlt (by decide))
  exact ⟨hsize, _, String.utf8EncodeChar_eq_singleton hsize, isNameByte_iff.2 (hbyte ▸ hcode)⟩

theorem encode_of_not_isNameChar {c : Char} (h : isNameChar c = false) :
    ∃ b bs, String.utf8EncodeChar c = b :: bs ∧ isNameByte b = false := by
  have hlen := String.length_utf8EncodeChar c
  obtain ⟨b, bs, hbs⟩ := List.exists_cons_of_length_pos (hlen ▸ c.utf8Size_pos)
  refine ⟨b, bs, hbs, Bool.eq_false_iff.2 fun hb => ?_⟩
  have hcode := isNameByte_iff.1 hb
  have hsame : c.toNat = b.toNat := toNat_eq_of_mem_encode (hbs ▸ List.mem_cons_self) hcode.lt
  rw [isNameChar_iff.2 (hsame ▸ hcode)] at h
  cases h

theorem nameLength_eq (rest : List Char) :
    nameLength rest = byteLength (rest.takeWhile isNameChar) := by
  induction rest with
  | nil => rfl
  | cons c rest ih =>
    rw [nameLength, Text.bytes_cons]
    cases hc : isNameChar c with
    | true =>
      obtain ⟨hsize, b, hb, hname⟩ := encode_of_isNameChar hc
      rw [hb, List.singleton_append, List.takeWhile_cons_of_pos hname,
        List.takeWhile_cons_of_pos hc, List.length_cons, byteLength, hsize, ← ih, nameLength,
        Nat.add_comm]
    | false =>
      obtain ⟨b, bs, hb, hname⟩ := encode_of_not_isNameChar hc
      rw [hb, List.cons_append, List.takeWhile_cons_of_neg (by simp [hname]),
        List.takeWhile_cons_of_neg (by simp [hc])]
      rfl

theorem afterDollar_split {position : Nat} {rest more : List Char} {p : Piece}
    (h : afterDollar position rest = .ok (p, more)) : ∃ name, rest = name ++ more := by
  obtain ⟨token, hread, -⟩ := Token.afterDollar_ok h
  have hwritten := (Token.fits_of_afterSign? hread).2
  rcases List.append_eq_cons_iff.1 hwritten with ⟨-, rfl⟩ | ⟨name, -, hrest⟩
  · have hle := length_afterDollar h
    rw [List.length_cons] at hle
    omega
  · exact ⟨name, hrest⟩

namespace Reading

variable {r r' : Reading} {before cs : List Char}

@[simp] theorem pos_add (r : Reading) (p : Piece) (pos : Nat) : (r.add p pos).pos = pos := by
  cases p <;> rfl

def passSign (r : Reading) (dollar : Nat) (rest : List Char) : Round :=
  match afterDollar dollar rest with
  | .error e => .failed e
  | .ok (p, more) => .next (r.add p (dollar + 1 + (byteLength rest - byteLength more)))

theorem sign_braced (r : Reading) (dollar : Nat) (braced : List Char) :
    r.sign dollar ('\x7b' :: braced) = some (r.passSign dollar ('\x7b' :: braced)) := by
  by_cases hmem : '\x7d' ∈ braced
  · obtain ⟨name, more, rfl, hname⟩ := List.eq_append_cons_of_mem hmem
    have hall : ∀ c ∈ name, (c != '\x7d') = true := by
      intro c hc
      exact bne_iff_ne.2 (ne_of_mem_of_not_mem hc hname)
    have htake : (name ++ '\x7d' :: more).takeWhile (· != '\x7d') = name := by
      rw [List.takeWhile_append_of_pos hall, List.takeWhile_cons_of_neg (by decide),
        List.append_nil]
    have hdrop : (name ++ '\x7d' :: more).dropWhile (· != '\x7d') = '\x7d' :: more := by
      rw [List.dropWhile_append_of_pos hall, List.dropWhile_cons_of_neg (by decide)]
    have hplace : dollar + 2 + byteLength name + 1 = dollar + 1 +
        (byteLength ('\x7b' :: (name ++ '\x7d' :: more)) - byteLength more) := by
      rw [byteLength, byteLength_append, byteLength, show '\x7b'.utf8Size = 1 from rfl,
        show '\x7d'.utf8Size = 1 from rfl]
      omega
    simp only [sign, Text.find?_append hname, Text.slice_front, passSign, afterDollar, htake,
      hdrop, hplace, Option.bind_eq_bind, Option.bind_some]
    split <;> rfl
  · have hdrop : braced.dropWhile (· != '\x7d') = [] := by
      refine List.dropWhile_eq_nil_iff.2 fun c hc => ?_
      exact bne_iff_ne.2 (ne_of_mem_of_not_mem hc hmem)
    simp only [sign, Text.find?_of_not_mem hmem, passSign, afterDollar, hdrop]

theorem sign_name {dollar : Nat} {rest : List Char} (r : Reading)
    (h : ∀ c ∈ rest.head?, c ≠ '$' ∧ c ≠ '\x7b') :
    r.sign dollar rest = some (r.passSign dollar rest) := by
  have hname := nameLength_eq rest
  have happend := List.takeWhile_append_dropWhile (p := isNameChar) (l := rest)
  have hslice := Text.slice_front (rest.takeWhile isNameChar) (rest.dropWhile isNameChar)
  have hbytes := byteLength_append (rest.takeWhile isNameChar) (rest.dropWhile isNameChar)
  rw [happend] at hslice hbytes
  have hsign := Token.afterSign?_name h
  unfold sign
  split
  · exact absurd rfl (h _ rfl).1
  · exact absurd rfl (h _ rfl).2
  dsimp only
  rw [hname]
  by_cases hnil : rest.takeWhile isNameChar = []
  · rw [if_pos (List.isEmpty_iff.2 hnil)] at hsign
    rw [hnil, byteLength, if_pos rfl, passSign, Token.afterDollar_eq hsign]
    dsimp only
    rw [Nat.sub_self]
    rfl
  · have hpos : byteLength (rest.takeWhile isNameChar) ≠ 0 :=
      Nat.ne_of_gt (Text.byteLength_pos hnil)
    have hplace : byteLength rest - byteLength (rest.dropWhile isNameChar) =
        byteLength (rest.takeWhile isNameChar) := by omega
    rw [if_neg (by simpa using hnil)] at hsign
    rw [if_neg hpos, hslice, passSign, Token.afterDollar_eq hsign]
    dsimp only
    rw [hplace]
    rfl

theorem sign_eq (r : Reading) (dollar : Nat) (rest : List Char) :
    r.sign dollar rest = some (r.passSign dollar rest) := by
  by_cases hdollar : ∃ more, rest = '$' :: more
  · obtain ⟨more, rfl⟩ := hdollar
    have hplace : dollar + 2 = dollar + 1 + (byteLength ('$' :: more) - byteLength more) := by
      rw [byteLength, show '$'.utf8Size = 1 from rfl]
      omega
    rw [sign, passSign, afterDollar, hplace]
  · by_cases hbrace : ∃ braced, rest = '\x7b' :: braced
    · obtain ⟨braced, rfl⟩ := hbrace
      exact sign_braced r dollar braced
    · refine sign_name r fun c hc => ?_
      obtain ⟨more, rfl⟩ := List.head?_eq_some_iff.1 hc
      constructor
      · rintro rfl
        exact hdollar ⟨more, rfl⟩
      · rintro rfl
        exact hbrace ⟨more, rfl⟩

theorem round_of_not_mem (hpos : r.pos = byteLength before) (h : '$' ∉ cs) :
    round (before ++ cs) r = some (.done ⟨(r.add (.literal cs) r.pos).flushed⟩) := by
  rw [round, hpos, Text.sliceFrom_append]
  simp only [Option.bind_eq_bind, Option.bind_some, Text.find?_of_not_mem h]

theorem round_of_append {plain : List Char} (rest : List Char) (hpos : r.pos = byteLength before)
    (h : '$' ∉ plain) : round (before ++ (plain ++ '$' :: rest)) r =
      some ((r.add (.literal plain) (r.pos + byteLength plain)).passSign
        (r.pos + byteLength plain) rest) := by
  have hslice := Text.slice_append before plain ('$' :: rest)
  have hrest := Text.sliceFrom_append (before ++ plain ++ ['$']) rest
  have hsign : byteLength (before ++ plain ++ ['$']) =
      byteLength before + byteLength plain + 1 := by
    rw [byteLength_append, byteLength_append]
    rfl
  rw [hsign] at hrest
  simp only [List.append_assoc, List.singleton_append] at hslice hrest
  rw [round, hpos, Text.sliceFrom_append]
  simp only [Option.bind_eq_bind, Option.bind_some, Text.find?_append h, hslice, hrest, sign_eq]

theorem passSign_next {dollar : Nat} {rest : List Char} (h : r.passSign dollar rest = .next r') :
    ∃ name more, rest = name ++ more ∧ r'.pos = dollar + 1 + byteLength name := by
  rw [passSign] at h
  cases hafter : afterDollar dollar rest with
  | error e =>
    rw [hafter] at h
    cases h
  | ok found =>
    obtain ⟨p, more⟩ := found
    rw [hafter] at h
    cases h
    obtain ⟨name, rfl⟩ := afterDollar_split hafter
    refine ⟨name, more, rfl, ?_⟩
    rw [pos_add, byteLength_append, Nat.add_sub_cancel]

theorem round_next (hpos : r.pos = byteLength before)
    (h : round (before ++ cs) r = some (.next r')) :
    ∃ plain name more, cs = plain ++ '$' :: (name ++ more) ∧
      r'.pos = byteLength (before ++ (plain ++ '$' :: name)) := by
  by_cases hmem : '$' ∈ cs
  · obtain ⟨plain, rest, rfl, hplain⟩ := List.eq_append_cons_of_mem hmem
    rw [round_of_append _ hpos hplain] at h
    obtain ⟨name, more, rfl, hnext⟩ := passSign_next (Option.some.inj h)
    refine ⟨plain, name, more, rfl, ?_⟩
    rw [hnext, hpos, byteLength_append, byteLength_append, byteLength,
      show '$'.utf8Size = 1 from rfl]
    omega
  · rw [round_of_not_mem hpos hmem] at h
    cases h

theorem exists_round (hpos : r.pos = byteLength before) (cs : List Char) :
    ∃ outcome, round (before ++ cs) r = some outcome := by
  by_cases hmem : '$' ∈ cs
  · obtain ⟨plain, rest, rfl, hplain⟩ := List.eq_append_cons_of_mem hmem
    exact ⟨_, round_of_append _ hpos hplain⟩
  · exact ⟨_, round_of_not_mem hpos hmem⟩

end Reading

/-- The places that a round works out from a dollar sign: those before and behind it, that behind
a second sign, the ends of a name in braces and of one without. -/
structure SignInPlace (t : String) (dollar : Nat) : Prop where
  sign : IsPlace t dollar
  next : IsPlace t (dollar + 1)
  doubled : ∀ more, Text.sliceFrom t.toList (dollar + 1) = some ('$' :: more) →
    IsPlace t (dollar + 2)
  braced : ∀ braced close, Text.sliceFrom t.toList (dollar + 1) = some ('\x7b' :: braced) →
    Text.find? '\x7d' braced = some close →
    IsPlace t (dollar + 2) ∧ IsPlace t (dollar + 2 + close) ∧ IsPlace t (dollar + 2 + close + 1)
  bare : ∀ rest, Text.sliceFrom t.toList (dollar + 1) = some rest →
    IsPlace t (dollar + 1 + nameLength rest)

theorem signInPlace {t : String} {before rest : List Char}
    (ht : t.toList = before ++ '$' :: rest) : SignInPlace t (byteLength before) := by
  have hsplit : t.toList = before ++ ['$'] ++ rest := by rw [ht, List.append_cons]
  have hsign : byteLength (before ++ ['$']) = byteLength before + 1 := byteLength_append _ _
  have hrest : ∀ rest', Text.sliceFrom t.toList (byteLength before + 1) = some rest' →
      rest = rest' := by
    intro rest' h
    rw [hsplit, ← hsign, Text.sliceFrom_append] at h
    exact Option.some.inj h
  have hplace : ∀ name more n, rest = name ++ more →
      n = byteLength before + 1 + byteLength name → IsPlace t n := by
    intro name more n hname hn
    have hcut : t.toList = before ++ ['$'] ++ name ++ more := by
      rw [hsplit, hname, ← List.append_assoc]
    exact isPlace_of_append hcut (by rw [hn, byteLength_append, hsign])
  refine ⟨isPlace_of_append ht rfl, hplace [] rest _ rfl rfl, fun more h => ?_,
    fun braced close h hfind => ?_, fun rest' h => ?_⟩
  · exact hplace ['$'] more _ (hrest _ h) rfl
  · obtain ⟨name, more, rfl, -, rfl⟩ := Text.split_of_find? hfind
    have hbraced := hrest _ h
    have hopened : byteLength ('\x7b' :: name) = 1 + byteLength name := rfl
    have hclosed : byteLength ('\x7b' :: name ++ ['\x7d']) = 1 + byteLength name + 1 := by
      rw [byteLength_append, hopened]
      rfl
    refine ⟨hplace ['\x7b'] _ _ hbraced rfl, hplace ('\x7b' :: name) _ _ hbraced ?_,
      hplace ('\x7b' :: name ++ ['\x7d']) more _ ?_ ?_⟩
    · omega
    · rw [hbraced, List.cons_append, List.cons_append, List.append_cons]
    · omega
  · obtain rfl := hrest rest' h
    have hname := (List.takeWhile_append_dropWhile (p := isNameChar) (l := rest)).symm
    exact hplace _ _ _ hname (by rw [nameLength_eq])

namespace Reading

def onto (r : Reading) (ps : List Piece) : Template :=
  ⟨r.pieces ++ attach (.literal r.literal) ps⟩

theorem mk_flushed (r : Reading) : ⟨r.flushed⟩ = r.onto [] := by
  unfold flushed onto
  cases r.literal with
  | nil => exact congrArg Template.mk (List.append_nil _).symm
  | cons c cs => rfl

theorem onto_add (r : Reading) (p : Piece) (pos : Nat) (ps : List Piece) :
    (r.add p pos).onto ps = r.onto (attach p ps) := by
  cases p with
  | literal cs => exact congrArg (fun qs => Template.mk (r.pieces ++ qs)) (attach_append _ _ _).symm
  | group ref =>
    have hflushed : r.flushed = r.pieces ++ attach (.literal r.literal) [] :=
      congrArg Template.pieces r.mk_flushed
    change Template.mk (r.flushed ++ [.group ref] ++ ps) = _
    rw [hflushed, onto]
    cases r.literal with
    | nil => simp [attach]
    | cons c cs => simp [attach]

inductive Reached (t : String) : Nat → Reading → Prop
  | start : Reached t 0 {}
  | next {n : Nat} {r r' : Reading} (h : Reached t n r)
      (hround : r.round t.toList = some (.next r')) : Reached t (n + 1) r'

inductive Runs (t : String) : Reading → Nat → Except ReplacementError Template → Prop
  | done {r : Reading} {read : Template} (h : r.round t.toList = some (.done read)) :
      Runs t r 0 (.ok read)
  | failed {r : Reading} {e : ReplacementError} (h : r.round t.toList = some (.failed e)) :
      Runs t r 1 (.error e)
  | next {r r' : Reading} {n : Nat} {result : Except ReplacementError Template}
      (h : r.round t.toList = some (.next r')) (hrest : Runs t r' n result) :
      Runs t r (n + 1) result

variable {t : String} {n : Nat} {r : Reading} {before cs : List Char}

theorem Reached.place (h : Reached t n r) : ∃ before cs, t.toList = before ++ cs ∧
    r.pos = byteLength before ∧ n + cs.count '$' ≤ t.toList.count '$' := by
  induction h with
  | start => exact ⟨[], t.toList, rfl, rfl, Nat.le_of_eq (Nat.zero_add _)⟩
  | next _ hround ih =>
    obtain ⟨before, cs, ht, hpos, hcount⟩ := ih
    rw [ht] at hround
    obtain ⟨plain, name, more, rfl, hnext⟩ := round_next hpos hround
    refine ⟨before ++ (plain ++ '$' :: name), more, ?_, hnext, ?_⟩
    · rw [ht]
      simp
    · rw [List.count_append, List.count_cons_self, List.count_append] at hcount
      omega

theorem exists_next {plain rest more : List Char} {p : Piece}
    (ht : t.toList = before ++ (plain ++ '$' :: rest)) (hpos : r.pos = byteLength before)
    (hplain : '$' ∉ plain) (hafter : afterDollar (r.pos + byteLength plain) rest = .ok (p, more)) :
    ∃ r' before', r.round t.toList = some (.next r') ∧ t.toList = before' ++ more ∧
      r'.pos = byteLength before' ∧
      r'.pos = r.pos + (byteLength (plain ++ '$' :: rest) - byteLength more) ∧
      (∀ ps, r'.onto ps = r.onto (attach (.literal plain) (attach p ps))) ∧
      more.count '$' < (plain ++ '$' :: rest).count '$' := by
  have hround := round_of_append rest hpos hplain
  rw [← ht, passSign, hafter] at hround
  obtain ⟨name, rfl⟩ := afterDollar_split hafter
  have hname : byteLength (name ++ more) - byteLength more = byteLength name := by
    rw [byteLength_append, Nat.add_sub_cancel]
  have hsign (cs : List Char) : byteLength ('$' :: cs) = 1 + byteLength cs := rfl
  have hbytes : byteLength (plain ++ '$' :: (name ++ more)) - byteLength more =
      byteLength plain + 1 + byteLength name := by
    rw [byteLength_append, hsign, byteLength_append]
    omega
  refine ⟨_, before ++ (plain ++ '$' :: name), hround, ?_, ?_, ?_, fun ps => ?_, ?_⟩
  · rw [ht]
    simp
  · rw [pos_add, hname, hpos, byteLength_append, byteLength_append, hsign]
    omega
  · rw [pos_add, hname, hbytes]
    omega
  · rw [onto_add, onto_add]
  · rw [List.count_append, List.count_cons_self, List.count_append]
    omega

/-- The rounds read what reading by characters reads, at most one for each dollar sign. -/
theorem runs_scan (position : Nat) (cs : List Char) : ∀ {before : List Char} {r : Reading},
    t.toList = before ++ cs → r.pos = byteLength before → r.pos = position →
    ∃ n ≤ cs.count '$', Runs t r n
      ((scan position cs).map fun ps => r.onto (ps.foldr attach [])) := by
  -- a round for each dollar sign, and one more where none is left
  fun_induction scan position cs
  case case1 position cs plain hdrop =>
    intro before r ht hpos hposition
    have happend := List.takeWhile_append_dropWhile (p := (· != '$')) (l := cs)
    have hplain : plain = cs := by rwa [hdrop, List.append_nil] at happend
    have hnone : '$' ∉ cs := fun hmem => by
      have hne := List.dropWhile_eq_nil_iff.1 hdrop _ hmem
      cases hne
    have hround := round_of_not_mem hpos hnone
    rw [← ht, mk_flushed, onto_add] at hround
    rw [hplain]
    exact ⟨0, Nat.zero_le _, .done hround⟩
  case case2 position cs plain c rest hdrop e hafter =>
    intro before r ht hpos hposition
    obtain ⟨-, happend, hnone⟩ := split_of_dropWhile hdrop
    have hcs := happend.symm
    have hround := round_of_append rest hpos hnone
    rw [← hcs, ← ht, passSign, hposition, hafter] at hround
    have hcount : 0 < cs.count '$' := by
      rw [hcs]
      exact List.count_pos_iff.2 (List.mem_append_right _ List.mem_cons_self)
    exact ⟨1, hcount, .failed hround⟩
  case case3 position cs plain c rest hdrop p more hafter hlt e hscan ih =>
    intro before r ht hpos hposition
    obtain ⟨-, happend, hnone⟩ := split_of_dropWhile hdrop
    have hcs := happend.symm
    obtain ⟨r', before', hround, ht', hpos', hposition', -, hcount⟩ :=
      exists_next (hcs ▸ ht) hpos hnone (hposition ▸ hafter)
    rw [← hcs] at hposition' hcount
    obtain ⟨n, hn, hruns⟩ := ih ht' hpos' (hposition ▸ hposition')
    rw [hscan] at hruns
    exact ⟨n + 1, Nat.lt_of_le_of_lt hn hcount, .next hround hruns⟩
  case case4 position cs plain c rest hdrop p more hafter hlt pieces hscan ih =>
    intro before r ht hpos hposition
    obtain ⟨-, happend, hnone⟩ := split_of_dropWhile hdrop
    have hcs := happend.symm
    obtain ⟨r', before', hround, ht', hpos', hposition', honto, hcount⟩ :=
      exists_next (hcs ▸ ht) hpos hnone (hposition ▸ hafter)
    rw [← hcs] at hposition' hcount
    obtain ⟨n, hn, hruns⟩ := ih ht' hpos' (hposition ▸ hposition')
    rw [hscan] at hruns
    have hresult : r'.onto (pieces.foldr attach []) =
        r.onto ((.literal plain :: p :: pieces).foldr attach []) := honto _
    refine ⟨n + 1, Nat.lt_of_le_of_lt hn hcount, .next hround ?_⟩
    rw [Except.map, ← hresult]
    exact hruns

theorem runs_parse (t : String) : ∃ n ≤ t.toList.count '$', Runs t {} n (parse t) :=
  runs_scan 0 t.toList (List.nil_append _).symm rfl rfl

end Reading

open Reading

/-- At every round the reading stands between two characters, nothing that it cuts lies outside of
the template or begins or ends in a character, and it moves on. There are at most as many rounds as
dollar signs, and they come to what the template is read as. What follows the digits of a name can
be cut off by their length. -/
theorem parse_in_place :
    (∀ t n r, Reached t n r →
      IsPlace t r.pos ∧ n ≤ t.toList.count '$' ∧ (∃ outcome, r.round t.toList = some outcome) ∧
      (∀ r', r.round t.toList = some (.next r') → r.pos < r'.pos) ∧
      ∀ ahead offset, Text.sliceFrom t.toList r.pos = some ahead →
        Text.find? '$' ahead = some offset → SignInPlace t (r.pos + offset)) ∧
    (∀ t, ∃ n ≤ t.toList.count '$', Runs t {} n (parse t)) ∧
    ∀ name : String, IsPlace name (byteLength (name.toList.takeWhile Text.isDigit)) ∧
      ReplacementError.respelling? name.toList =
        some (ReplacementError.respelling name.toList) := by
  refine ⟨fun t n r h => ?_, runs_parse, fun name => ?_⟩
  · obtain ⟨before, cs, ht, hpos, hcount⟩ := h.place
    refine ⟨isPlace_of_append ht hpos, ?_, ?_, fun r' hround => ?_, fun ahead offset h hfind => ?_⟩
    · omega
    · rw [ht]
      exact exists_round hpos cs
    · rw [ht] at hround
      obtain ⟨plain, name, more, rfl, hnext⟩ := round_next hpos hround
      have hmoved := Text.byteLength_pos (List.append_ne_nil_of_right_ne_nil plain
        (List.cons_ne_nil '$' name))
      rw [hnext, hpos, byteLength_append]
      omega
    · rw [ht, hpos, Text.sliceFrom_append] at h
      obtain rfl := Option.some.inj h
      obtain ⟨plain, rest, rfl, -, rfl⟩ := Text.split_of_find? hfind
      have hplace := signInPlace (ht.trans (List.append_assoc _ _ _).symm)
      rwa [byteLength_append, ← hpos] at hplace
  · have happend := (List.takeWhile_append_dropWhile (p := Text.isDigit) (l := name.toList)).symm
    refine ⟨isPlace_of_append happend rfl, ?_⟩
    have hcut := Text.sliceFrom_append (name.toList.takeWhile Text.isDigit)
      (name.toList.dropWhile Text.isDigit)
    rw [← happend] at hcut
    rw [ReplacementError.respelling?, hcut]
    rfl

theorem parse_in_place_braced :
    let t := "é$$ü$\x7bé\x7d"
    let r : Reading := { pos := 4, literal := ['é', '$'] }
    Reached t 1 r ∧ IsPlace t 4 ∧ IsPlace t 6 ∧ IsPlace t 8 ∧ IsPlace t 10 ∧ IsPlace t 11 ∧
      ∃ n ≤ 3, Runs t {} n (.ok ⟨[.literal ['é', '$', 'ü'], .group (.name "é")]⟩) := by
  intro t r
  have hround : Reading.round t.toList {} = some (.next r) := by cbv
  have hreached : Reached t 1 r := .next .start hround
  obtain ⟨hstep, hruns, -⟩ := parse_in_place
  obtain ⟨hplace, -, -, -, hsigns⟩ := hstep t 1 r hreached
  have hsign : SignInPlace t 6 := hsigns ['ü', '$', '\x7b', 'é', '\x7d'] 2 (by cbv) (by cbv)
  obtain ⟨hopened, hnamed, hclosed⟩ := hsign.braced ['é', '\x7d'] 2 (by cbv) (by cbv)
  have hparse : parse t = .ok ⟨[.literal ['é', '$', 'ü'], .group (.name "é")]⟩ := by cbv
  obtain ⟨n, hn, hrun⟩ := hruns t
  have hcount : t.toList.count '$' = 3 := by cbv
  rw [hcount] at hn
  exact ⟨hreached, hplace, hsign.sign, hopened, hnamed, hclosed, n, hn, hparse ▸ hrun⟩

end Template

end RegexStudio
