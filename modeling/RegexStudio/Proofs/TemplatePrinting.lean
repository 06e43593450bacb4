import RegexStudio.Proofs.TemplateGrammar

/-! Templates written out again from what was read. Dollar signs of the text are doubled and all
references get braces. Reading takes this back, and what it reads is normal: nothing in it is
written in two ways, so a template in normal form is read as it was. -/

namespace RegexStudio

namespace Template

def doubled (cs : List Char) : List Char := cs.flatMap fun c => if c = '$' then ['$', '$'] else [c]

def inBraces (name : List Char) : List Char := ['$', '\x7b'] ++ name ++ ['\x7d']

namespace Piece

def written : Piece → List Char
  | literal cs => doubled cs
  | group (.index n) => inBraces (Nat.toDigits 10 n)
  | group (.name s) => inBraces s.toList

def isLiteral : Piece → Bool
  | literal _ => true
  | group _ => false

/-- Whether a piece can come from a template: some text, a number that can be held, or a name that
braces can enclose and that is no such number. -/
def Normal : Piece → Prop
  | literal cs => cs ≠ []
  | group (.index n) => n < 2 ^ 64
  | group (.name s) => s ≠ "" ∧ '\x7d' ∉ s.toList ∧
      (s.toList.all Text.isDigit = true → 2 ^ 64 ≤ Text.decimalValue s.toList)

end Piece

/-- Normal pieces, no two of them literals that meet. -/
structure Normal (t : Template) : Prop where
  pieces : ∀ p ∈ t.pieces, p.Normal
  apart : t.pieces.IsChain fun p q => ¬(p.isLiteral = true ∧ q.isLiteral = true)

def print (t : Template) : String := String.ofList (t.pieces.flatMap Piece.written)

theorem attach_append (as bs : List Char) (ps : List Piece) :
    attach (.literal as) (attach (.literal bs) ps) = attach (.literal (as ++ bs)) ps := by
  match as, bs, ps with
  | [], bs, ps => rfl
  | a :: as, [], ps => rw [List.append_nil]; rfl
  | a :: as, b :: bs, [] => rfl
  | a :: as, b :: bs, .group r :: ps => rfl
  | a :: as, b :: bs, .literal t :: ps => simp [attach]

section Normal

variable {ps : List Piece} {p : Piece} {cs : List Char}

theorem normal_nil : Normal ⟨[]⟩ := ⟨fun _ h => (nomatch h), .nil⟩

theorem Normal.tail (h : Normal ⟨p :: ps⟩) : Normal ⟨ps⟩ :=
  ⟨fun q hq => h.pieces q (List.mem_cons_of_mem _ hq), h.apart.tail⟩

theorem Normal.group {r : GroupRef} (h : Normal ⟨ps⟩) (hr : (Piece.group r).Normal) :
    Normal ⟨.group r :: ps⟩ :=
  ⟨List.forall_mem_cons.2 ⟨hr, h.pieces⟩,
    List.isChain_cons.2 ⟨fun _ _ hboth => (nomatch hboth.1), h.apart⟩⟩

theorem Normal.attach (h : Normal ⟨ps⟩) (cs : List Char) :
    Normal ⟨Template.attach (.literal cs) ps⟩ := by
  cases cs with
  | nil => exact h
  | cons c cs =>
    have hc (more : List Char) : c :: more ≠ [] := List.cons_ne_nil c more
    match ps with
    | [] => exact ⟨List.forall_mem_singleton.2 (hc cs), .singleton _⟩
    | .literal t :: rest =>
      obtain ⟨hhead, hrest⟩ := List.isChain_cons.1 h.apart
      exact ⟨List.forall_mem_cons.2 ⟨hc _, h.tail.pieces⟩, List.isChain_cons.2 ⟨hhead, hrest⟩⟩
    | .group r :: rest =>
      refine ⟨List.forall_mem_cons.2 ⟨hc cs, h.pieces⟩, List.isChain_cons.2 ⟨?_, h.apart⟩⟩
      rintro _ ⟨⟩ hboth
      cases hboth.2

theorem normal_ofName (hnil : cs ≠ []) (hclose : '\x7d' ∉ cs) :
    (Piece.group (.ofName cs)).Normal := by
  unfold GroupRef.ofName
  split
  · rename_i hnumber
    rw [Bool.and_eq_true, decide_eq_true_eq, GroupRef.maxIndex] at hnumber
    change _ < 2 ^ 64
    omega
  · rename_i hnumber
    change _ ∧ _ ∧ _
    rw [String.toList_ofList]
    refine ⟨fun h => hnil (String.ofList_eq_empty_iff.1 h), hclose, fun hdigits => ?_⟩
    rw [hdigits, Bool.true_and, decide_eq_true_eq, GroupRef.maxIndex] at hnumber
    omega

theorem isNameChar_ne_close {c : Char} (h : isNameChar c = true) : c ≠ '\x7d' := by
  rintro rfl
  exact absurd h (by decide)

open Token in
theorem normal_of_allFit {after : List Char} {tokens : List Token} (h : AllFit after tokens) :
    Normal ⟨(tokens.map piece).foldr Template.attach []⟩ := by
  induction tokens with
  | nil => exact normal_nil
  | cons token rest ih =>
    have hrest := ih h.2
    have hfits := h.1
    cases token with
    | text cs => exact hrest.attach cs
    | doubledDollar | loneDollar => exact hrest.attach ['$']
    | bare name =>
      have hclose : '\x7d' ∉ name := fun hmem => isNameChar_ne_close (hfits.2.1 _ hmem) rfl
      exact hrest.group (normal_ofName hfits.1 hclose)
    | braced name => exact hrest.group (normal_ofName hfits.1 hfits.2)

theorem Normal.foldr_attach (h : Normal ⟨ps⟩) : ps.foldr Template.attach [] = ps := by
  induction ps with
  | nil => rfl
  | cons p rest ih =>
    rw [List.foldr_cons, ih h.tail]
    match p, rest, h with
    | .group r, rest, h => rfl
    | .literal (c :: cs), [], h => rfl
    | .literal (c :: cs), .group r :: rest, h => rfl
    | .literal [], rest, h => exact absurd rfl (h.pieces _ List.mem_cons_self)
    | .literal cs, .literal t :: rest, h =>
      exact absurd ⟨rfl, rfl⟩ ((List.isChain_cons.1 h.apart).1 _ rfl)

end Normal

def ReadsAs (cs : List Char) (ps : List Piece) : Prop :=
  ∃ tokens, Token.writtenAll tokens = cs ∧ Token.AllFit [] tokens ∧
    (tokens.map Token.piece).foldr attach [] = ps

namespace ReadsAs

open Token

variable {cs : List Char} {ps : List Piece}

theorem nil : ReadsAs [] [] := ⟨[], rfl, trivial, rfl⟩

theorem parse {t : String} (h : ReadsAs t.toList ps) : Template.parse t = .ok ⟨ps⟩ := by
  obtain ⟨tokens, htext, hfit, rfl⟩ := h
  exact parse_of_decomposes ⟨htext, hfit⟩

theorem dollar (h : ReadsAs cs ps) : ReadsAs ('$' :: '$' :: cs) (attach (.literal ['$']) ps) := by
  obtain ⟨tokens, rfl, hfit, rfl⟩ := h
  exact ⟨.doubledDollar :: tokens, rfl, ⟨trivial, hfit⟩, rfl⟩

theorem braced {name : List Char} (h : ReadsAs cs ps) (hnil : name ≠ []) (hclose : '\x7d' ∉ name) :
    ReadsAs (inBraces name ++ cs) (.group (.ofName name) :: ps) := by
  obtain ⟨tokens, rfl, hfit, rfl⟩ := h
  exact ⟨.braced name :: tokens, rfl, ⟨⟨hnil, hclose⟩, hfit⟩, rfl⟩

theorem char {c : Char} (h : ReadsAs cs ps) (hc : c ≠ '$') :
    ReadsAs (c :: cs) (attach (.literal [c]) ps) := by
  obtain ⟨tokens, rfl, hfit, rfl⟩ := h
  have hplain : (c != '$') = true := bne_iff_ne.2 hc
  have halone (hdollar : ∀ d ∈ (writtenAll tokens ++ []).head?, d = '$') :
      ReadsAs (c :: writtenAll tokens)
        (attach (.literal [c]) ((tokens.map piece).foldr attach [])) := by
    refine ⟨.text [c] :: tokens, rfl, ⟨⟨by simp, ?_, ?_⟩, hfit⟩, rfl⟩
    · exact List.forall_mem_singleton.2 hplain
    · intro d hd
      rw [hdollar d hd]
      rfl
  match tokens, hfit, halone with
  | .text plain :: rest, hfit, _ =>
    obtain ⟨⟨-, hall, hnext⟩, hrest⟩ := hfit
    refine ⟨.text (c :: plain) :: rest, rfl, ⟨⟨by simp, ?_, hnext⟩, hrest⟩, ?_⟩
    · exact List.forall_mem_cons.2 ⟨hplain, hall⟩
    · exact (attach_append [c] plain _).symm
  | [], _, halone => exact halone fun _ hd => nomatch hd
  | .doubledDollar :: _, _, halone | .loneDollar :: _, _, halone | .bare _ :: _, _, halone
  | .braced _ :: _, _, halone =>
    exact halone fun _ hd => (Option.some.inj hd).symm

theorem doubled (h : ReadsAs cs ps) (text : List Char) :
    ReadsAs (Template.doubled text ++ cs) (attach (.literal text) ps) := by
  induction text with
  | nil => exact h
  | cons c text ih =>
    have hjoin := attach_append [c] text ps
    rw [List.singleton_append] at hjoin
    rw [Template.doubled, List.flatMap_cons, List.append_assoc, ← hjoin]
    by_cases hc : c = '$'
    · rw [if_pos hc, hc]
      exact ih.dollar
    · rw [if_neg hc]
      exact ih.char hc

theorem ofName_toDigits {n : Nat} (h : n < 2 ^ 64) :
    GroupRef.ofName (Nat.toDigits 10 n) = .index n := by
  have hvalue : Text.decimalValue (Nat.toDigits 10 n) = n := by
    simp only [Text.decimalValue, Nat.mul_comm _ 10]
    exact Nat.ofDigitChars_ten_toDigits
  have hdigits : (Nat.toDigits 10 n).all Text.isDigit = true :=
    List.all_eq_true.2 fun _ => Nat.isDigit_of_mem_toDigits (by decide) (by decide)
  have hmax : n ≤ GroupRef.maxIndex := Nat.le_of_lt_succ h
  rw [GroupRef.ofName, hdigits, hvalue, Bool.true_and, decide_eq_true hmax, if_pos rfl]

theorem ofName_toList {s : String}
    (h : s.toList.all Text.isDigit = true → 2 ^ 64 ≤ Text.decimalValue s.toList) :
    GroupRef.ofName s.toList = .name s := by
  have hword : (s.toList.all Text.isDigit &&
      decide (Text.decimalValue s.toList ≤ GroupRef.maxIndex)) = false := by
    rw [Bool.and_eq_false_imp]
    exact fun hdigits => decide_eq_false (Nat.not_le.2 (h hdigits))
  rw [GroupRef.ofName, hword, if_neg Bool.false_ne_true, String.ofList_toList]

theorem written (hps : ∀ p ∈ ps, p.Normal) :
    ReadsAs (ps.flatMap Piece.written) (ps.foldr attach []) := by
  induction ps with
  | nil => exact nil
  | cons p rest ih =>
    obtain ⟨hp, hrest⟩ := List.forall_mem_cons.1 hps
    rw [List.flatMap_cons, List.foldr_cons]
    match p, hp with
    | .literal plain, _ => exact (ih hrest).doubled plain
    | .group (.index n), hn =>
      have hclose : '\x7d' ∉ Nat.toDigits 10 n := fun hmem =>
        absurd (Nat.isDigit_of_mem_toDigits (by decide) (by decide) hmem) (by decide)
      have hread := (ih hrest).braced Nat.toDigits_ne_nil hclose
      rwa [ofName_toDigits hn] at hread
    | .group (.name s), ⟨hnil, hclose, hword⟩ =>
      have hread := (ih hrest).braced (fun hs => hnil (String.toList_eq_nil_iff.1 hs)) hclose
      rwa [ofName_toList hword] at hread

end ReadsAs

theorem Normal.parse_written {t : Template} (h : t.Normal) : parse t.print = .ok t := by
  have hread := ReadsAs.written h.pieces
  rw [h.foldr_attach, ← String.toList_ofList (l := t.pieces.flatMap Piece.written)] at hread
  exact hread.parse

theorem normal_of_parse {t : String} {read : Template} (h : parse t = .ok read) : read.Normal := by
  have hscan := Token.scan_tokens 0 t.toList
  obtain ⟨pieces, hpieces, rfl⟩ := map_eq_ok.1 h
  rw [hpieces] at hscan
  obtain ⟨tokens, -, hfit, heq⟩ := hscan
  rw [heq]
  exact normal_of_allFit hfit

/-- Reading and writing undo each other: whatever is read is normal, and all that is normal is read
as it was once it is written out. Any text at all can be written as a template. -/
theorem parse_print :
    (∀ t read, parse t = .ok read → read.Normal ∧ parse read.print = .ok read) ∧
    (∀ read : Template, read.Normal → parse read.print = .ok read) ∧
    ∀ s : String, ∃ read, parse (String.ofList (doubled s.toList)) = .ok read ∧
      read.refs = [] ∧ ∀ lookup, read.expand lookup = s := by
  refine ⟨fun t read h => ?_, fun read h => h.parse_written, fun s => ?_⟩
  · have hnormal := normal_of_parse h
    exact ⟨hnormal, hnormal.parse_written⟩
  · have hread := ReadsAs.nil.doubled s.toList
    rw [List.append_nil, ← String.toList_ofList (l := doubled s.toList)] at hread
    refine ⟨_, hread.parse, Token.refs_attach _ [], fun lookup => ?_⟩
    rw [Token.expand_attach]
    simp [expand]

theorem parse_print_mixed :
    ∃ read, parse "a$$$\x7b007\x7d$18446744073709551616$" = .ok read ∧ read.Normal ∧
      read.print = "a$$$\x7b7\x7d$\x7b18446744073709551616\x7d$$" ∧
      parse read.print = .ok read := by
  have hparse : parse "a$$$\x7b007\x7d$18446744073709551616$" =
      .ok ⟨[.literal ['a', '$'], .group (.index 7), .group (.name "18446744073709551616"),
        .literal ['$']]⟩ := by cbv
  obtain ⟨hnormal, hback⟩ := parse_print.1 _ _ hparse
  exact ⟨_, hparse, hnormal, by cbv, hback⟩

end Template

end RegexStudio
