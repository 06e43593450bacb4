import Mathlib
import RegexStudio.Template
import RegexStudio.Proofs.Except

/-! The grammar of templates. A template is text, doubled or lone dollar signs and references, one
after another, and there is at most one way to take it apart so. Reading finds this way and gives
the template its meaning; where there is none, a single place of the template is to blame. -/

namespace RegexStudio

namespace Template

def IsRun (p : Char → Bool) (cs after : List Char) : Prop :=
  cs ≠ [] ∧ (∀ c ∈ cs, p c = true) ∧ ∀ c ∈ after.head?, p c = false

theorem IsRun.takeWhile {p : Char → Bool} {cs after : List Char} (h : IsRun p cs after) :
    (cs ++ after).takeWhile p = cs := by
  rw [List.takeWhile_append_of_pos h.2.1]
  cases after with
  | nil => exact List.append_nil cs
  | cons c after => rw [List.takeWhile_cons_of_neg (by simp [h.2.2 c rfl]), List.append_nil]

theorem isRun_takeWhile {p : Char → Bool} {cs : List Char} (h : cs.takeWhile p ≠ []) :
    IsRun p (cs.takeWhile p) (cs.dropWhile p) := by
  refine ⟨h, fun c hc => List.mem_takeWhile_imp hc, fun c hc => ?_⟩
  have hhead := List.head?_dropWhile_not p cs
  rwa [Option.mem_def.1 hc] at hhead

theorem IsRun.dropWhile {p : Char → Bool} {cs after : List Char} (h : IsRun p cs after) :
    (cs ++ after).dropWhile p = after := by
  have happend := List.takeWhile_append_dropWhile (p := p) (l := cs ++ after)
  rw [h.takeWhile] at happend
  exact List.append_cancel_left happend

theorem split_of_dropWhile {a c : Char} {cs rest : List Char}
    (h : cs.dropWhile (· != a) = c :: rest) :
    c = a ∧ cs.takeWhile (· != a) ++ a :: rest = cs ∧ a ∉ cs.takeWhile (· != a) := by
  have happend := List.takeWhile_append_dropWhile (p := (· != a)) (l := cs)
  have hhead := List.head?_dropWhile_not (· != a) cs
  rw [h] at happend hhead
  obtain rfl : c = a := by simpa using hhead
  refine ⟨rfl, happend, fun hmem => ?_⟩
  have hne := List.mem_takeWhile_imp hmem
  simp at hne

inductive Token
  | text (cs : List Char)
  | doubledDollar
  | loneDollar
  | bare (name : List Char)
  | braced (name : List Char)
deriving DecidableEq, Repr

namespace Token

def written : Token → List Char
  | text cs => cs
  | doubledDollar => ['$', '$']
  | loneDollar => ['$']
  | bare name => '$' :: name
  | braced name => '$' :: '\x7b' :: name ++ ['\x7d']

def Fits (after : List Char) : Token → Prop
  | text cs => IsRun (· != '$') cs after
  | doubledDollar => True
  | loneDollar => ∀ c ∈ after.head?, c ≠ '$' ∧ c ≠ '\x7b' ∧ isNameChar c = false
  | bare name => IsRun isNameChar name after
  | braced name => name ≠ [] ∧ '\x7d' ∉ name

/-- The group that a name means: digits alone are a number, if it is not too large for one. -/
def reference (name : List Char) : GroupRef :=
  let value := Nat.ofDigits 10 (name.reverse.map fun c => c.toNat - '0'.toNat)
  if (∀ c ∈ name, '0' ≤ c ∧ c ≤ '9') ∧ value < 2 ^ 64 then .index value
  else .name (String.ofList name)

def ref? : Token → Option GroupRef
  | bare name | braced name => some (reference name)
  | _ => none

def value (lookup : GroupRef → Option String) : Token → String
  | text cs => String.ofList cs
  | doubledDollar | loneDollar => "$"
  | bare name | braced name => (lookup (reference name)).getD ""

def afterSign? : List Char → Option (Token × List Char)
  | '$' :: rest => some (doubledDollar, rest)
  | '\x7b' :: rest =>
    match rest.dropWhile (· != '\x7d') with
    | [] => none
    | _ :: more =>
      let name := rest.takeWhile (· != '\x7d')
      if name.isEmpty then none else some (braced name, more)
  | rest =>
    let name := rest.takeWhile isNameChar
    if name.isEmpty then some (loneDollar, rest) else some (bare name, rest.dropWhile isNameChar)

def read? : List Char → Option (Token × List Char)
  | [] => none
  | c :: rest =>
    if c = '$' then afterSign? rest
    else some (text ((c :: rest).takeWhile (· != '$')), (c :: rest).dropWhile (· != '$'))

theorem isRun_closed {name : List Char} (hnil : name ≠ []) (hname : '\x7d' ∉ name)
    (rest : List Char) : IsRun (· != '\x7d') name ('\x7d' :: rest) := by
  refine ⟨hnil, fun c hc => bne_iff_ne.2 fun h => hname (h ▸ hc), fun c hc => ?_⟩
  obtain rfl := Option.some.inj hc
  rfl

theorem afterSign?_name {rest : List Char} (h : ∀ c ∈ rest.head?, c ≠ '$' ∧ c ≠ '\x7b') :
    afterSign? rest =
      if (rest.takeWhile isNameChar).isEmpty then some (loneDollar, rest)
      else some (bare (rest.takeWhile isNameChar), rest.dropWhile isNameChar) := by
  unfold afterSign?
  split
  · exact absurd rfl (h _ rfl).1
  · exact absurd rfl (h _ rfl).2
  · rfl

theorem read?_written {token : Token} {after : List Char} (h : token.Fits after) :
    read? (token.written ++ after) = some (token, after) := by
  cases token with
  | text cs =>
    have htake := IsRun.takeWhile h
    have hdrop := IsRun.dropWhile h
    obtain ⟨hnil, hall, -⟩ := h
    obtain ⟨c, cs, rfl⟩ := List.exists_cons_of_ne_nil hnil
    have hc : c ≠ '$' := bne_iff_ne.1 (hall c List.mem_cons_self)
    rw [List.cons_append] at htake hdrop
    rw [written, List.cons_append, read?, if_neg hc, htake, hdrop]
  | doubledDollar => rfl
  | loneDollar =>
    have hname : after.takeWhile isNameChar = [] := by
      cases after with
      | nil => rfl
      | cons c after => exact List.takeWhile_cons_of_neg (by simp [(h c rfl).2.2])
    have hread := afterSign?_name fun c hc => ⟨(h c hc).1, (h c hc).2.1⟩
    rwa [hname] at hread
  | bare name =>
    have htake := IsRun.takeWhile h
    have hdrop := IsRun.dropWhile h
    obtain ⟨hnil, hall, -⟩ := h
    have hhead : ∀ c ∈ (name ++ after).head?, c ≠ '$' ∧ c ≠ '\x7b' := by
      obtain ⟨c, name, rfl⟩ := List.exists_cons_of_ne_nil hnil
      have hc : isNameChar c = true := hall c List.mem_cons_self
      rintro d ⟨⟩
      constructor <;> rintro rfl <;> cases hc
    have hread := afterSign?_name hhead
    rwa [htake, hdrop, if_neg (by simpa using hnil)] at hread
  | braced name =>
    have hrun := isRun_closed h.1 h.2 after
    simp only [written, List.cons_append, List.append_assoc, List.nil_append, read?, afterSign?,
      if_true, hrun.takeWhile, hrun.dropWhile]
    rw [if_neg (by simpa using h.1)]

theorem fits_of_afterSign? {rest after : List Char} {token : Token}
    (h : afterSign? rest = some (token, after)) :
    token.Fits after ∧ token.written ++ after = '$' :: rest := by
  unfold afterSign? at h
  split at h
  · cases h
    exact ⟨trivial, rfl⟩
  · rename_i rest
    split at h
    · cases h
    · rename_i c more hdrop
      obtain ⟨rfl, happend, hnone⟩ := split_of_dropWhile hdrop
      dsimp only at h
      split at h
      · cases h
      · rename_i hname
        cases h
        exact ⟨⟨by simpa using hname, hnone⟩, by simp [written, happend]⟩
  · rename_i hdollar hbrace
    dsimp only at h
    split at h
    · rename_i hname
      cases h
      refine ⟨fun c hc => ?_, rfl⟩
      obtain ⟨cs, rfl⟩ := List.head?_eq_some_iff.1 hc
      refine ⟨?_, ?_, ?_⟩
      · rintro rfl
        exact hdollar cs rfl
      · rintro rfl
        exact hbrace cs rfl
      · cases hc : isNameChar c with
        | false => rfl
        | true => simp [hc] at hname
    · rename_i hname
      cases h
      exact ⟨isRun_takeWhile (by simpa using hname),
        congrArg ('$' :: ·) List.takeWhile_append_dropWhile⟩

theorem fits_unique {token token' : Token} {after after' : List Char} (h : token.Fits after)
    (h' : token'.Fits after') (heq : token.written ++ after = token'.written ++ after') :
    token = token' ∧ after = after' := by
  have hread := read?_written h
  rw [heq, read?_written h'] at hread
  obtain ⟨rfl, rfl⟩ := Prod.mk.inj (Option.some.inj hread)
  exact ⟨rfl, rfl⟩

inductive Broken : List Char → (Nat → ReplacementError) → Prop
  | unclosed {rest : List Char} (h : '\x7d' ∉ rest) :
    Broken ('$' :: '\x7b' :: rest) .unclosedBrace
  | unnamed (rest : List Char) : Broken ('$' :: '\x7b' :: '\x7d' :: rest) .emptyGroupName

def piece : Token → Piece
  | text cs => .literal cs
  | doubledDollar | loneDollar => .literal ['$']
  | bare name | braced name => .group (.ofName name)

theorem head?_ne {rest : List Char} {c : Char} (h : ∀ cs, rest = c :: cs → False) :
    ∀ d ∈ rest.head?, d ≠ c := by
  rintro d hd rfl
  obtain ⟨cs, rfl⟩ := List.head?_eq_some_iff.1 hd
  exact h cs rfl

theorem toOption_afterDollar (position : Nat) (rest : List Char) :
    (afterDollar position rest).toOption =
      (afterSign? rest).map fun (token, more) => (token.piece, more) := by
  unfold afterDollar
  split
  · rfl
  · rename_i rest
    rw [afterSign?]
    cases rest.dropWhile (· != '\x7d') with
    | nil => rfl
    | cons c more =>
      dsimp only
      split <;> rfl
  · rename_i hdollar hbrace
    rw [afterSign?_name fun c hc => ⟨head?_ne hdollar c hc, head?_ne hbrace c hc⟩]
    dsimp only
    split <;> rfl

theorem afterDollar_ok {position : Nat} {rest more : List Char} {p : Piece}
    (h : afterDollar position rest = .ok (p, more)) :
    ∃ token, afterSign? rest = some (token, more) ∧ p = token.piece := by
  have hoption := toOption_afterDollar position rest
  rw [h] at hoption
  obtain ⟨⟨token, more'⟩, htoken, heq⟩ := Option.map_eq_some_iff.1 hoption.symm
  cases heq
  exact ⟨token, htoken, rfl⟩

theorem afterDollar_eq {position : Nat} {rest more : List Char} {token : Token}
    (h : afterSign? rest = some (token, more)) :
    afterDollar position rest = .ok (token.piece, more) := by
  have hoption := toOption_afterDollar position rest
  rw [h] at hoption
  cases hafter : afterDollar position rest with
  | error e =>
    rw [hafter] at hoption
    cases hoption
  | ok x =>
    rw [hafter] at hoption
    exact congrArg Except.ok (Option.some.inj hoption)

theorem afterDollar_error {position : Nat} {rest : List Char} {e : ReplacementError}
    (h : afterDollar position rest = .error e) :
    ∃ fault, Broken ('$' :: rest) fault ∧ e = fault position := by
  unfold afterDollar at h
  split at h
  · cases h
  · rename_i rest
    split at h
    · rename_i hdrop
      cases h
      refine ⟨_, .unclosed fun hmem => ?_, rfl⟩
      have hall := List.dropWhile_eq_nil_iff.1 hdrop _ hmem
      cases hall
    · rename_i c more hdrop
      dsimp only at h
      split at h
      · rename_i hname
        cases h
        obtain ⟨rfl, happend, -⟩ := split_of_dropWhile hdrop
        rw [List.isEmpty_iff.1 hname] at happend
        rw [← happend]
        exact ⟨_, .unnamed more, rfl⟩
      · cases h
  · dsimp only at h
    split at h <;> cases h

def writtenAll (tokens : List Token) : List Char := tokens.flatMap written

def AllFit (after : List Char) : List Token → Prop
  | [] => True
  | token :: rest => token.Fits (writtenAll rest ++ after) ∧ AllFit after rest

theorem writtenAll_cons (token : Token) (tokens : List Token) :
    writtenAll (token :: tokens) = token.written ++ writtenAll tokens := List.flatMap_cons

theorem read?_of_broken {after : List Char} {fault : Nat → ReplacementError}
    (h : Broken after fault) : read? after = none := by
  cases h with
  | unclosed h =>
    have hdrop : List.dropWhile (· != '\x7d') _ = [] :=
      List.dropWhile_eq_nil_iff.2 fun c hc => bne_iff_ne.2 fun heq => h (heq ▸ hc)
    simp only [read?, if_true, afterSign?, hdrop]
  | unnamed rest => rfl

theorem allFit_unique {tokens tokens' : List Token} {after after' : List Char}
    (h : AllFit after tokens) (h' : AllFit after' tokens') (hstop : read? after = none)
    (hstop' : read? after' = none)
    (heq : writtenAll tokens ++ after = writtenAll tokens' ++ after') :
    tokens = tokens' ∧ after = after' := by
  induction tokens generalizing tokens' with
  | nil =>
    cases tokens' with
    | nil => exact ⟨rfl, heq⟩
    | cons token' rest' =>
      have hread := read?_written h'.1
      rw [← List.append_assoc, ← writtenAll_cons, ← heq] at hread
      exact absurd (hread.symm.trans hstop) (by simp)
  | cons token rest ih =>
    cases tokens' with
    | nil =>
      have hread := read?_written h.1
      rw [← List.append_assoc, ← writtenAll_cons, heq] at hread
      exact absurd (hread.symm.trans hstop') (by simp)
    | cons token' rest' =>
      rw [writtenAll_cons, writtenAll_cons, List.append_assoc, List.append_assoc] at heq
      obtain ⟨rfl, hrest⟩ := fits_unique h.1 h'.1 heq
      obtain ⟨rfl, hafter⟩ := ih h.2 h'.2 hrest
      exact ⟨rfl, hafter⟩

def withText (cs : List Char) (tokens : List Token) : List Token :=
  if cs = [] then tokens else text cs :: tokens

theorem foldr_withText (cs : List Char) (tokens : List Token) :
    ((withText cs tokens).map piece).foldr attach [] =
      attach (.literal cs) ((tokens.map piece).foldr attach []) := by
  unfold withText
  split
  · rename_i h
    rw [h]
    rfl
  · rfl

theorem writtenAll_withText (cs : List Char) (tokens : List Token) :
    writtenAll (withText cs tokens) = cs ++ writtenAll tokens := by
  unfold withText
  split
  · rename_i h
    rw [h, List.nil_append]
  · exact writtenAll_cons _ _

theorem allFit_withText {cs after : List Char} {tokens : List Token} (h : AllFit after tokens)
    (heq : writtenAll tokens ++ after = cs.dropWhile (· != '$')) :
    AllFit after (withText (cs.takeWhile (· != '$')) tokens) := by
  unfold withText
  split
  · exact h
  · rename_i hnil
    exact ⟨heq ▸ isRun_takeWhile hnil, h⟩

theorem afterDollar_written {position : Nat} {cs rest more : List Char} {c : Char} {p : Piece}
    (hdrop : cs.dropWhile (· != '$') = c :: rest)
    (hafter : afterDollar position rest = .ok (p, more)) :
    ∃ token : Token, token.Fits more ∧ token.written ++ more = c :: rest ∧ p = token.piece ∧
      Text.byteLength cs - Text.byteLength more =
        Text.byteLength (cs.takeWhile (· != '$')) + Text.byteLength token.written := by
  obtain ⟨rfl, happend, -⟩ := split_of_dropWhile hdrop
  obtain ⟨token, hread, hpiece⟩ := afterDollar_ok hafter
  obtain ⟨hfits, hwritten⟩ := fits_of_afterSign? hread
  refine ⟨token, hfits, hwritten, hpiece, ?_⟩
  rw [← hwritten] at happend
  have hbytes := congrArg Text.byteLength happend
  rw [Text.byteLength_append, Text.byteLength_append] at hbytes
  omega

theorem scan_tokens (position : Nat) (cs : List Char) :
    match scan position cs with
    | .ok pieces => ∃ tokens, writtenAll tokens = cs ∧ AllFit [] tokens ∧
        pieces.foldr attach [] = (tokens.map piece).foldr attach []
    | .error e => ∃ tokens after fault, writtenAll tokens ++ after = cs ∧ AllFit after tokens ∧
        Broken after fault ∧ e = fault (position + Text.byteLength (writtenAll tokens)) := by
  fun_induction scan position cs with
  | case1 position cs plain hdrop =>
    have happend := List.takeWhile_append_dropWhile (p := (· != '$')) (l := cs)
    refine ⟨withText plain [], ?_, allFit_withText trivial hdrop.symm, ?_⟩
    · rw [writtenAll_withText]
      rwa [hdrop] at happend
    · rw [foldr_withText]
      rfl
  | case2 position cs plain c rest hdrop e hafter =>
    obtain ⟨rfl, happend, -⟩ := split_of_dropWhile hdrop
    obtain ⟨fault, hbroken, rfl⟩ := afterDollar_error hafter
    refine ⟨withText plain [], _, fault, ?_, allFit_withText trivial hdrop.symm, hbroken, ?_⟩
    · rwa [writtenAll_withText, writtenAll, List.flatMap_nil, List.append_nil]
    · rw [writtenAll_withText, writtenAll, List.flatMap_nil, List.append_nil]
  | case3 position cs plain c rest hdrop p more hafter hlt e hscan ih =>
    obtain ⟨token, hfits, htext, hcs, hbytes⟩ := afterDollar_written hdrop hafter
    rw [hscan] at ih
    obtain ⟨tokens, after, fault, hmore, hall, hbroken, rfl⟩ := ih
    have hrest : writtenAll (token :: tokens) ++ after = cs.dropWhile (· != '$') := by
      rw [writtenAll_cons, List.append_assoc, hmore, htext, hdrop]
    refine ⟨withText plain (token :: tokens), after, fault, ?_,
      allFit_withText ⟨hmore ▸ hfits, hall⟩ hrest, hbroken, ?_⟩
    · rw [writtenAll_withText, List.append_assoc, hrest, List.takeWhile_append_dropWhile]
    · rw [writtenAll_withText, writtenAll_cons, Text.byteLength_append, Text.byteLength_append,
        hbytes, Nat.add_assoc, Nat.add_assoc]
  | case4 position cs plain c rest hdrop p more hafter hlt pieces hscan ih =>
    obtain ⟨token, hfits, htext, hcs, -⟩ := afterDollar_written hdrop hafter
    rw [hscan] at ih
    obtain ⟨tokens, hmore, hall, hpieces⟩ := ih
    have hrest : writtenAll (token :: tokens) ++ [] = cs.dropWhile (· != '$') := by
      rw [writtenAll_cons, List.append_nil, hmore, htext, hdrop]
    refine ⟨withText plain (token :: tokens), ?_,
      allFit_withText ⟨by rwa [hmore, List.append_nil], hall⟩ hrest, ?_⟩
    · rw [writtenAll_withText, ← List.append_nil (writtenAll _), hrest,
        List.takeWhile_append_dropWhile]
    · rw [foldr_withText, List.foldr_cons, List.foldr_cons, hpieces, hcs]
      rfl

theorem refs_attach (p : Piece) (ps : List Piece) :
    refs ⟨attach p ps⟩ = refs ⟨[p]⟩ ++ refs ⟨ps⟩ := by
  unfold attach
  split
  · rfl
  · rfl
  · exact List.filterMap_append (l := [p])

theorem expand_attach (lookup : GroupRef → Option String) (p : Piece) (ps : List Piece) :
    expand ⟨attach p ps⟩ lookup = expand ⟨[p]⟩ lookup ++ expand ⟨ps⟩ lookup := by
  unfold attach expand
  split <;>
    simp only [List.map_cons, List.map_nil, String.join_cons, String.join_nil, String.append_empty,
      String.empty_append, String.ofList_nil, String.ofList_append, String.append_assoc]

theorem foldl_decimal (cs : List Char) (n : Nat) :
    cs.foldl (fun n c => n * 10 + (c.toNat - 48)) n =
      Nat.ofDigits 10 (cs.reverse.map fun c => c.toNat - '0'.toNat) + 10 ^ cs.length * n := by
  induction cs generalizing n with
  | nil => simp
  | cons c cs ih =>
    have hzero : '0'.toNat = 48 := rfl
    rw [List.foldl_cons, ih, List.reverse_cons, List.map_append, Nat.ofDigits_append,
      List.length_map, List.length_reverse, List.map_singleton, Nat.ofDigits_singleton, hzero,
      List.length_cons]
    ring

theorem ofName_eq_reference (name : List Char) : GroupRef.ofName name = reference name := by
  have hvalue : Text.decimalValue name =
      Nat.ofDigits 10 (name.reverse.map fun c => c.toNat - '0'.toNat) := by
    rw [Text.decimalValue, foldl_decimal, Nat.mul_zero, Nat.add_zero]
  have hdigits : name.all Text.isDigit = true ↔ ∀ c ∈ name, '0' ≤ c ∧ c ≤ '9' := by
    simp [Text.isDigit]
  have hmax (n : Nat) : n ≤ GroupRef.maxIndex ↔ n < 2 ^ 64 := by
    rw [GroupRef.maxIndex]
    omega
  simp only [GroupRef.ofName, reference, Bool.and_eq_true, decide_eq_true_eq, hdigits, hmax, hvalue]

theorem refs_foldr (tokens : List Token) :
    refs ⟨(tokens.map piece).foldr attach []⟩ = tokens.filterMap ref? := by
  induction tokens with
  | nil => rfl
  | cons token rest ih =>
    rw [List.map_cons, List.foldr_cons, refs_attach, ih]
    cases token <;> simp [refs, piece, ref?, List.filterMap_cons, ofName_eq_reference]

theorem expand_foldr (tokens : List Token) (lookup : GroupRef → Option String) :
    expand ⟨(tokens.map piece).foldr attach []⟩ lookup =
      String.join (tokens.map (value lookup)) := by
  induction tokens with
  | nil => rfl
  | cons token rest ih =>
    rw [List.map_cons, List.foldr_cons, expand_attach, ih, List.map_cons, String.join_cons]
    cases token <;> simp [expand, piece, value, ofName_eq_reference]

end Token

open Token

/-- A template taken apart into tokens. -/
def Decomposes (t : String) (tokens : List Token) : Prop :=
  writtenAll tokens = t.toList ∧ AllFit [] tokens

/-- Whether a template is made of tokens up to a byte where a brace opens that makes no reference;
`rest` is the text after that brace. -/
def BreaksAt (t : String) (p : Nat) (rest : List Char) : Prop :=
  (¬∃ name more, name ≠ [] ∧ '\x7d' ∉ name ∧ rest = name ++ '\x7d' :: more) ∧
    ∃ tokens, writtenAll tokens ++ '$' :: '\x7b' :: rest = t.toList ∧
      AllFit ('$' :: '\x7b' :: rest) tokens ∧ Text.byteLength (writtenAll tokens) = p

/-- A brace that makes no reference is never closed, or closed at once. -/
theorem broken_iff {after : List Char} {fault : Nat → ReplacementError} :
    Broken after fault ↔ ∃ rest, after = '$' :: '\x7b' :: rest ∧
      (¬∃ name more, name ≠ [] ∧ '\x7d' ∉ name ∧ rest = name ++ '\x7d' :: more) ∧
      fault = if '\x7d' ∈ rest then .emptyGroupName else .unclosedBrace := by
  constructor
  · rintro (⟨h⟩ | rest)
    · refine ⟨_, rfl, ?_, by rw [if_neg h]⟩
      rintro ⟨name, more, -, -, rfl⟩
      exact h (by simp)
    · refine ⟨_, rfl, ?_, by rw [if_pos List.mem_cons_self]⟩
      rintro ⟨_ | ⟨c, name⟩, more, hnil, hname, heq⟩
      · exact hnil rfl
      · obtain ⟨rfl, -⟩ := List.cons.inj heq
        exact hname List.mem_cons_self
  · rintro ⟨rest, rfl, hnone, rfl⟩
    by_cases hmem : '\x7d' ∈ rest
    · rw [if_pos hmem]
      obtain ⟨name, more, rfl, hname⟩ := List.eq_append_cons_of_mem hmem
      cases name with
      | nil => exact .unnamed more
      | cons c name => exact absurd ⟨_, more, List.cons_ne_nil c name, hname, rfl⟩ hnone
    · rw [if_neg hmem]
      exact .unclosed hmem

theorem parse_of_decomposes {t : String} {tokens : List Token} (h : Decomposes t tokens) :
    parse t = .ok ⟨(tokens.map piece).foldr attach []⟩ := by
  have hscan := scan_tokens 0 t.toList
  rw [parse]
  cases hresult : scan 0 t.toList with
  | ok pieces =>
    rw [hresult] at hscan
    obtain ⟨tokens', htext, hfit, hpieces⟩ := hscan
    have heq : writtenAll tokens ++ [] = writtenAll tokens' ++ [] := by rw [h.1, htext]
    obtain ⟨rfl, -⟩ := allFit_unique h.2 hfit rfl rfl heq
    exact congrArg (fun pieces => Except.ok (Template.mk pieces)) hpieces
  | error e =>
    rw [hresult] at hscan
    obtain ⟨tokens', after, fault, htext, hfit, hbroken, -⟩ := hscan
    have heq : writtenAll tokens ++ [] = writtenAll tokens' ++ after := by
      rw [List.append_nil, h.1, htext]
    obtain ⟨-, rfl⟩ := allFit_unique h.2 hfit rfl (read?_of_broken hbroken) heq
    cases hbroken

/-- Reading accepts the templates that can be taken apart into tokens, always in one way only, and
gives them the meaning of their tokens. In any other template there is one byte up to which it is
made of tokens and where a brace opens that makes no reference, and that byte is reported. -/
theorem parse_iff_tokens (t : String) :
    (∀ tokens tokens', Decomposes t tokens → Decomposes t tokens' → tokens = tokens') ∧
    ((∃ read, parse t = .ok read) ↔ ∃ tokens, Decomposes t tokens) ∧
    (∀ tokens read, Decomposes t tokens → parse t = .ok read →
      read.refs = tokens.filterMap ref? ∧
      ∀ lookup, read.expand lookup = String.join (tokens.map (value lookup))) ∧
    ((¬∃ tokens, Decomposes t tokens) → ∃ p rest, BreaksAt t p rest ∧
      (∀ p' rest', BreaksAt t p' rest' → p' = p) ∧
      parse t = .error (if '\x7d' ∈ rest then .emptyGroupName p else .unclosedBrace p)) := by
  have hscan := scan_tokens 0 t.toList
  have hparse : parse t = (scan 0 t.toList).map fun pieces => ⟨pieces.foldr attach []⟩ := rfl
  have hunique : ∀ tokens tokens', Decomposes t tokens → Decomposes t tokens' →
      tokens = tokens' := fun tokens tokens' h h' =>
    (allFit_unique h.2 h'.2 rfl rfl (by rw [List.append_nil, List.append_nil, h.1, h'.1])).1
  have hstop : ∀ {p rest}, BreaksAt t p rest → read? ('$' :: '\x7b' :: rest) = none :=
    fun h => read?_of_broken (broken_iff.2 ⟨_, rfl, h.1, rfl⟩)
  -- a template with a breaking place is no row of tokens, for both would begin alike
  cases hresult : scan 0 t.toList with
  | ok pieces =>
    rw [hresult] at hscan hparse
    obtain ⟨tokens, htext, hfit, hpieces⟩ := hscan
    have hread : parse t = .ok ⟨(tokens.map piece).foldr attach []⟩ := hpieces ▸ hparse
    refine ⟨hunique, ⟨fun _ => ⟨tokens, htext, hfit⟩, fun _ => ⟨_, hread⟩⟩, ?_, ?_⟩
    · intro tokens' read htokens' hread'
      obtain rfl := hunique tokens tokens' ⟨htext, hfit⟩ htokens'
      obtain rfl := Except.ok.inj (hread.symm.trans hread')
      exact ⟨refs_foldr tokens, expand_foldr tokens⟩
    · exact fun hnone => absurd ⟨tokens, htext, hfit⟩ hnone
  | error e =>
    rw [hresult] at hscan hparse
    obtain ⟨tokens, after, fault, htext, hfit, hbroken, rfl⟩ := hscan
    obtain ⟨rest, rfl, hnone, rfl⟩ := broken_iff.1 hbroken
    have hbreaks : BreaksAt t (Text.byteLength (writtenAll tokens)) rest :=
      ⟨hnone, tokens, htext, hfit, rfl⟩
    have hno : ¬∃ tokens', Decomposes t tokens' := by
      rintro ⟨tokens', htext', hfit'⟩
      have heq : writtenAll tokens' ++ [] = writtenAll tokens ++ '$' :: '\x7b' :: rest := by
        rw [List.append_nil, htext', htext]
      have hafter := (allFit_unique hfit' hfit rfl (hstop hbreaks) heq).2
      cases hafter
    refine ⟨hunique, ⟨?_, fun h => absurd h hno⟩, fun tokens' _ h => absurd ⟨tokens', h⟩ hno,
      fun _ => ⟨_, rest, hbreaks, ?_, ?_⟩⟩
    · rintro ⟨read, hread⟩
      cases hparse.symm.trans hread
    · rintro p' rest' hbreaks'
      obtain ⟨-, tokens', htext', hfit', rfl⟩ := id hbreaks'
      have hsame := allFit_unique hfit' hfit (hstop hbreaks') (hstop hbreaks)
        (htext'.trans htext.symm)
      rw [hsame.1]
    · rw [hparse, Nat.zero_add]
      split <;> rfl

end Template

end RegexStudio
