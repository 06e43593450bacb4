import RegexStudio.Proofs.TemplateNumbers

/-! The spelling that is proposed for a name that begins with digits: a reference to the group with
that number, and the rest of the name as text. It is read so exactly if the number can be held and
each dollar sign of the rest stands for itself. -/

namespace RegexStudio

namespace Template

/-- Whether each dollar sign of a text stands for itself, with nothing behind it that it could make
something else of. -/
def LoneDollars (cs : List Char) : Prop :=
  ∀ before after, cs = before ++ '$' :: after → Token.loneDollar.Fits after

section LoneDollars

variable {cs ds : List Char} {c : Char}

theorem LoneDollars.tail (h : LoneDollars (c :: cs)) : LoneDollars cs := by
  rintro before after rfl
  exact h (c :: before) after rfl

theorem LoneDollars.cons (h : LoneDollars cs) (hc : c = '$' → Token.loneDollar.Fits cs) :
    LoneDollars (c :: cs) := by
  intro before after heq
  cases before with
  | nil =>
    obtain ⟨rfl, rfl⟩ := List.cons.inj heq
    exact hc rfl
  | cons b before => exact h before after (List.cons.inj heq).2

theorem LoneDollars.append (h : LoneDollars ds) (hcs : '$' ∉ cs) : LoneDollars (cs ++ ds) := by
  induction cs with
  | nil => exact h
  | cons c cs ih =>
    have hrest : '$' ∉ cs := fun hmem => hcs (List.mem_cons_of_mem c hmem)
    refine (ih hrest).cons fun hc => ?_
    subst hc
    exact absurd List.mem_cons_self hcs

end LoneDollars

open Token

theorem ReadsAs.loneDollar {cs : List Char} {ps : List Piece} (h : ReadsAs cs ps)
    (hfits : Token.loneDollar.Fits cs) :
    ReadsAs ('$' :: cs) (attach (.literal ['$']) ps) := by
  obtain ⟨tokens, rfl, hfit, rfl⟩ := h
  refine ⟨.loneDollar :: tokens, rfl, ⟨?_, hfit⟩, rfl⟩
  rwa [List.append_nil]

theorem LoneDollars.readsAs {cs : List Char} (h : LoneDollars cs) :
    ReadsAs cs (attach (.literal cs) []) := by
  induction cs with
  | nil => exact ReadsAs.nil
  | cons c cs ih =>
    have hrest := ih h.tail
    have hjoin : attach (.literal [c]) (attach (.literal cs) []) = attach (.literal (c :: cs)) [] :=
      attach_append [c] cs []
    by_cases hc : c = '$'
    · subst hc
      exact hjoin ▸ hrest.loneDollar (h [] cs rfl)
    · exact hjoin ▸ hrest.char hc

namespace Token

def ownText : Token → List Char
  | text cs => cs
  | doubledDollar | loneDollar => ['$']
  | bare _ | braced _ => []

theorem length_ownText_le (token : Token) : token.ownText.length ≤ token.written.length := by
  cases token with
  | text cs => exact Nat.le_refl _
  | doubledDollar => exact Nat.le_succ _
  | loneDollar => exact Nat.le_refl _
  | bare name => exact Nat.zero_le _
  | braced name => exact Nat.zero_le _

theorem length_ownTexts_le (tokens : List Token) :
    (tokens.flatMap ownText).length ≤ (writtenAll tokens).length := by
  induction tokens with
  | nil => exact Nat.le_refl _
  | cons token tokens ih =>
    rw [List.flatMap_cons, writtenAll_cons, List.length_append, List.length_append]
    exact Nat.add_le_add (length_ownText_le token) ih

theorem loneDollars_of_ownText {tokens : List Token} (hfit : AllFit [] tokens)
    (htext : tokens.flatMap ownText = writtenAll tokens) : LoneDollars (writtenAll tokens) := by
  induction tokens with
  | nil =>
    intro before after heq
    cases before <;> cases heq
  | cons token tokens ih =>
    obtain ⟨hfits, hrest⟩ := hfit
    have hle := length_ownTexts_le tokens
    have hlength := congrArg List.length htext
    rw [List.append_nil] at hfits
    rw [List.flatMap_cons, writtenAll_cons] at htext
    rw [List.flatMap_cons, writtenAll_cons, List.length_append, List.length_append] at hlength
    rw [writtenAll_cons]
    cases token with
    | text cs =>
      have hcs : '$' ∉ cs := fun hmem => by
        have hne := hfits.2.1 _ hmem
        cases hne
      exact (ih hrest (List.append_cancel_left htext)).append hcs
    | doubledDollar =>
      have hshort : ['$'].length + (tokens.flatMap ownText).length =
        ['$', '$'].length + (writtenAll tokens).length := hlength
      rw [List.length_singleton, List.length_cons, List.length_singleton] at hshort
      omega
    | loneDollar =>
      exact (ih hrest (List.append_cancel_left htext)).cons fun _ => hfits
    | bare name =>
      simp only [ownText, written, List.length_nil, List.length_cons] at hlength
      omega
    | braced name =>
      simp only [ownText, written, List.length_nil, List.cons_append, List.length_cons] at hlength
      omega

theorem join_value (tokens : List Token) :
    String.join (tokens.map (value fun _ => none)) = String.ofList (tokens.flatMap ownText) := by
  induction tokens with
  | nil => rfl
  | cons token tokens ih =>
    have hvalue : token.value (fun _ => none) = String.ofList token.ownText := by
      cases token <;> rfl
    rw [List.map_cons, String.join_cons, ih, hvalue, List.flatMap_cons, String.ofList_append]

theorem ownText_of_pieces {tokens : List Token}
    (h : (tokens.map piece).foldr attach [] = attach (.literal (writtenAll tokens)) []) :
    tokens.flatMap ownText = writtenAll tokens := by
  have hexpand := expand_foldr tokens fun _ => none
  rw [h, expand_attach, join_value] at hexpand
  have hliteral : expand ⟨[.literal (writtenAll tokens)]⟩ (fun _ => none) ++ expand ⟨[]⟩
      (fun _ => none) = String.ofList (writtenAll tokens) := by
    simp [expand]
  exact (String.ofList_injective (hliteral.symm.trans hexpand)).symm

end Token

def numbered (n : Nat) (text : List Char) : Template :=
  ⟨.group (.index n) :: if text = [] then [] else [.literal text]⟩

theorem attach_literal_nil (cs : List Char) :
    attach (.literal cs) [] = if cs = [] then [] else [.literal cs] := by
  cases cs <;> rfl

section Spelling

variable {digits rest : List Char}

theorem braced_fits (h : IsRun Text.isDigit digits rest) (after : List Char) :
    (Token.braced digits).Fits after := by
  refine ⟨h.1, fun hmem => ?_⟩
  have hdigit := h.2.1 _ hmem
  cases hdigit

theorem parse_numbered_iff (h : IsRun Text.isDigit digits rest) :
    parse (String.ofList (inBraces digits ++ rest)) =
        .ok (numbered (Text.decimalValue digits) rest) ↔
      Text.decimalValue digits < 2 ^ 64 ∧ LoneDollars rest := by
  have hname := ofName_numeral (List.all_eq_true.2 h.2.1)
  rw [numbered, ← attach_literal_nil]
  constructor
  · intro hparse
    obtain ⟨tokens, ⟨hwritten, hfit⟩, hpieces⟩ := decomposes_of_parse hparse
    rw [String.toList_ofList] at hwritten
    cases tokens with
    | nil => cases hwritten
    | cons token tokens =>
      have hsame : (Token.braced digits).written ++ rest =
          token.written ++ (writtenAll tokens ++ []) := by
        rw [List.append_nil, ← writtenAll_cons, hwritten]
        rfl
      obtain ⟨rfl, hrest⟩ := Token.fits_unique (braced_fits h rest) hfit.1 hsame
      rw [List.append_nil] at hrest
      obtain ⟨hindex, htext⟩ := List.cons.inj (Template.mk.inj hpieces)
      refine ⟨?_, ?_⟩
      · by_contra hlarge
        rw [piece, hname, if_neg hlarge] at hindex
        cases hindex
      · rw [hrest] at htext ⊢
        exact Token.loneDollars_of_ownText hfit.2 (Token.ownText_of_pieces htext.symm)
  · rintro ⟨hheld, hlone⟩
    have hread := hlone.readsAs.braced h.1 (braced_fits h rest).2
    rw [hname, if_pos hheld, ← String.toList_ofList (l := inBraces digits ++ rest)] at hread
    exact hread.parse

theorem compile_numbered_iff {template : String} {n : Nat} {text : List Char}
    (h : parse template = .ok (numbered n text)) (groups : List (Option String)) :
    compile template groups = .ok (numbered n text) ↔ n < groups.length := by
  have hrefs : (numbered n text).refs = [.index n] := by
    unfold numbered refs
    split <;> rfl
  rw [compile_eq_ok_iff, hrefs]
  constructor
  · rintro ⟨-, hall⟩
    exact hall _ List.mem_cons_self
  · intro hn
    exact ⟨h, List.forall_mem_singleton.2 hn⟩

end Spelling

/-- A spelling that is proposed for a name is one of a numbered group with the rest of the name as
text, and it is accepted where there is such a group, as long as the number can be held and no
dollar sign of the rest goes together with what follows it. It is not read so in any other case; in
particular not where there is no rest, for then it is the number that cannot be held. -/
theorem respelling_repairs {template name text : String} {groups : List (Option String)}
    (hunknown : compile template groups = .error (.unknownGroup name))
    (hsuggestion : (ReplacementError.unknownGroup name).suggestion = some text) :
    ∃ digits rest, name.toList = digits ++ rest ∧ IsRun Text.isDigit digits rest ∧
      let spelling := String.ofList (['$', '\x7b'] ++ digits ++ ['\x7d'] ++ rest)
      text = "Use '" ++ spelling ++ "' to follow a group number with text" ∧
      (parse spelling = .ok (numbered (Text.decimalValue digits) rest) ↔
        Text.decimalValue digits < 2 ^ 64 ∧ LoneDollars rest) ∧
      (parse spelling = .ok (numbered (Text.decimalValue digits) rest) → ∀ groups',
        compile spelling groups' = .ok (numbered (Text.decimalValue digits) rest) ↔
          Text.decimalValue digits < groups'.length) ∧
      ('$' ∉ rest → LoneDollars rest) ∧
      (rest = [] → 2 ^ 64 ≤ Text.decimalValue digits) := by
  have happend := (List.takeWhile_append_dropWhile (p := Text.isDigit) (l := name.toList)).symm
  rw [ReplacementError.suggestion] at hsuggestion
  split at hsuggestion
  · rename_i hhead
    have hnil : name.toList.takeWhile Text.isDigit ≠ [] := by
      cases hname : name.toList with
      | nil =>
        rw [hname] at hhead
        cases hhead
      | cons c cs =>
        rw [hname] at hhead
        have hdigit : Text.isDigit c = true := hhead
        rw [List.takeWhile_cons_of_pos hdigit]
        exact List.cons_ne_nil _ _
    have hrun := isRun_takeWhile hnil
    refine ⟨_, _, happend, hrun, (Option.some.inj hsuggestion).symm, parse_numbered_iff hrun,
      compile_numbered_iff, fun hnone => ?_, fun hrest => ?_⟩
    · intro before after heq
      rw [heq] at hnone
      exact absurd (List.mem_append_right _ List.mem_cons_self) hnone
    · rw [hrest, List.append_nil] at happend
      have hdigits : name.toList.all Text.isDigit = true := by
        rw [happend]
        exact List.all_eq_true.2 hrun.2.1
      rw [← happend]
      exact (normal_of_unknownGroup hunknown).2.2 hdigits
  · cases hsuggestion

theorem respelling_repairs_dollar :
    let groups : List (Option String) := [none, none]
    compile "$\x7b1$x\x7d" groups = .error (.unknownGroup "1$x") ∧
      (ReplacementError.unknownGroup "1$x").suggestion =
        some "Use '$\x7b1\x7d$x' to follow a group number with text" ∧
      parse "$\x7b1\x7d$x" = .ok ⟨[.group (.index 1), .group (.name "x")]⟩ ∧
      parse "$\x7b1\x7d$x" ≠ .ok (numbered 1 ['$', 'x']) ∧
      compile "$1st" groups = .error (.unknownGroup "1st") ∧
      (ReplacementError.unknownGroup "1st").suggestion =
        some "Use '$\x7b1\x7dst' to follow a group number with text" ∧
      compile "$\x7b1\x7dst" groups = .ok (numbered 1 ['s', 't']) := by
  intro groups
  have hdollar : compile "$\x7b1$x\x7d" groups = .error (.unknownGroup "1$x") := by cbv
  have hproposed : (ReplacementError.unknownGroup "1$x").suggestion =
      some "Use '$\x7b1\x7d$x' to follow a group number with text" := by cbv
  have hplain : compile "$1st" groups = .error (.unknownGroup "1st") := by cbv
  have hproposed' : (ReplacementError.unknownGroup "1st").suggestion =
      some "Use '$\x7b1\x7dst' to follow a group number with text" := by cbv
  refine ⟨hdollar, hproposed, by cbv, fun hparse => ?_, hplain, hproposed', ?_⟩
  · obtain ⟨digits, rest, hsplit, hrun, -, hiff, -⟩ := respelling_repairs hdollar hproposed
    obtain rfl : ['1'] = digits :=
      (congrArg (List.takeWhile Text.isDigit) hsplit).trans hrun.takeWhile
    obtain rfl : ['$', 'x'] = rest :=
      (congrArg (List.dropWhile Text.isDigit) hsplit).trans hrun.dropWhile
    have hfits := (hiff.1 hparse).2 [] ['x'] rfl
    exact absurd (hfits 'x' rfl).2.2 (by decide)
  · obtain ⟨digits, rest, hsplit, hrun, -, hiff, hcompile, hlone, -⟩ :=
      respelling_repairs hplain hproposed'
    obtain rfl : ['1'] = digits :=
      (congrArg (List.takeWhile Text.isDigit) hsplit).trans hrun.takeWhile
    obtain rfl : ['s', 't'] = rest :=
      (congrArg (List.dropWhile Text.isDigit) hsplit).trans hrun.dropWhile
    exact (hcompile (hiff.2 ⟨by decide, hlone (by decide)⟩) groups).2 (by decide)

end Template

end RegexStudio
