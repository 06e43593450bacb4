import RegexStudio.Proofs.TemplatePrinting
import RegexStudio.Proofs.TemplateReferences

/-! References written with digits alone. They mean groups by number as long as the number can be
held, and an error over such a reference tells the number; beyond that they are names. -/

namespace RegexStudio

namespace Template

namespace Token

def name? : Token → Option (List Char)
  | bare name | braced name => some name
  | _ => none

theorem ref?_eq (token : Token) : token.ref? = token.name?.map GroupRef.ofName := by
  cases token with
  | text cs => rfl
  | doubledDollar => rfl
  | loneDollar => rfl
  | bare name => exact congrArg some (ofName_eq_reference name).symm
  | braced name => exact congrArg some (ofName_eq_reference name).symm

def names (tokens : List Token) : List (List Char) := tokens.filterMap name?

def numerals (tokens : List Token) : List (List Char) :=
  (names tokens).filter (·.all Text.isDigit)

theorem filterMap_ref? (tokens : List Token) :
    tokens.filterMap ref? = (names tokens).map GroupRef.ofName := by
  have href : ref? = fun token => token.name?.map GroupRef.ofName := funext ref?_eq
  rw [href, names, List.map_filterMap]

end Token

/-- Whether digits stand for a group: for the one with their number, or for one of that name where
the number is too large to be held. -/
def NumeralResolves (groups : List (Option String)) (digits : List Char) : Prop :=
  if Text.decimalValue digits < 2 ^ 64 then Text.decimalValue digits < groups.length
  else some (String.ofList digits) ∈ groups

def numeralFault (groups : List (Option String)) (digits : List Char) : ReplacementError :=
  if Text.decimalValue digits < 2 ^ 64 then
    .groupOutOfRange (Text.decimalValue digits) (groups.length - 1)
  else .unknownGroup (String.ofList digits)

variable {template : String} {groups : List (Option String)} {t : Template} {name : List Char}

theorem ofName_numeral (h : name.all Text.isDigit = true) :
    GroupRef.ofName name =
      if Text.decimalValue name < 2 ^ 64 then .index (Text.decimalValue name)
      else .name (String.ofList name) := by
  have hmax : Text.decimalValue name ≤ GroupRef.maxIndex ↔ Text.decimalValue name < 2 ^ 64 := by
    rw [GroupRef.maxIndex]
    omega
  rw [GroupRef.ofName, h, Bool.true_and]
  simp only [decide_eq_true_eq, hmax]

theorem ofName_word (h : name.all Text.isDigit = false) :
    GroupRef.ofName name = .name (String.ofList name) := by
  rw [GroupRef.ofName, h, Bool.false_and, if_neg Bool.false_ne_true]

theorem resolves_numeral (h : name.all Text.isDigit = true) :
    (GroupRef.ofName name).Resolves groups ↔ NumeralResolves groups name := by
  rw [ofName_numeral h, NumeralResolves]
  split <;> rfl

theorem fault_numeral (h : name.all Text.isDigit = true) :
    (GroupRef.ofName name).fault groups = numeralFault groups name := by
  rw [ofName_numeral h, numeralFault]
  split <;> rfl

theorem decomposes_of_parse (h : parse template = .ok t) :
    ∃ tokens, Decomposes template tokens ∧ t = ⟨(tokens.map Token.piece).foldr attach []⟩ := by
  have hscan := Token.scan_tokens 0 template.toList
  obtain ⟨pieces, hpieces, rfl⟩ := map_eq_ok.1 h
  rw [hpieces] at hscan
  obtain ⟨tokens, hwritten, hfit, heq⟩ := hscan
  exact ⟨tokens, ⟨hwritten, hfit⟩, congrArg Template.mk heq⟩

theorem parse_ne_unknownGroup (template s : String) :
    parse template ≠ .error (.unknownGroup s) := by
  intro h
  have hscan := Token.scan_tokens 0 template.toList
  cases hresult : scan 0 template.toList with
  | ok pieces =>
    rw [parse, hresult] at h
    cases h
  | error e =>
    rw [hresult] at hscan
    obtain ⟨tokens, after, fault, -, -, hbroken, rfl⟩ := hscan
    rw [parse, hresult] at h
    cases hbroken <;> cases h

theorem unknownGroup_cases {s : String} (h : compile template groups = .error (.unknownGroup s)) :
    ∃ t, parse template = .ok t ∧ GroupRef.name s ∈ t.refs ∧ some s ∉ groups := by
  cases hparse : parse template with
  | error e =>
    rw [compile_of_parse_error hparse, ← hparse] at h
    exact absurd h (parse_ne_unknownGroup template s)
  | ok t =>
    rw [compile_of_parse hparse] at h
    split at h
    · rename_i e hfirst
      obtain ⟨r, hr, hfault⟩ := List.exists_of_findSome?_eq_some hfirst
      have hnot : ¬r.Resolves groups := fun hresolves => by
        rw [GroupRef.unresolved_of_resolves hresolves] at hfault
        cases hfault
      rw [GroupRef.unresolved_of_not_resolves hnot, Except.error.inj h] at hfault
      cases r with
      | index n => cases hfault
      | name s' =>
        obtain rfl : s' = s := ReplacementError.unknownGroup.inj (Option.some.inj hfault)
        exact ⟨t, rfl, hr, hnot⟩
    · cases h

theorem normal_of_unknownGroup {s : String}
    (h : compile template groups = .error (.unknownGroup s)) :
    (Piece.group (.name s)).Normal := by
  obtain ⟨t, hparse, hmem, -⟩ := unknownGroup_cases h
  obtain ⟨p, hp, hname⟩ := List.mem_filterMap.1 hmem
  have hnormal := (normal_of_parse hparse).pieces p hp
  cases p with
  | literal cs => cases hname
  | group r =>
    obtain rfl := Option.some.inj hname
    exact hnormal

section Numerals

variable {tokens : List Token} (hparse : parse template = .ok t)
  (hrefs : t.refs = (Token.names tokens).map GroupRef.ofName)
  (hnames : ∀ name ∈ Token.names tokens, name.all Text.isDigit = false →
    some (String.ofList name) ∈ groups)

include hparse hrefs hnames

theorem compile_iff_numerals : compile template groups = .ok t ↔
    ∀ digits ∈ Token.numerals tokens, NumeralResolves groups digits := by
  rw [compile_eq_ok_iff, hrefs]
  constructor
  · rintro ⟨-, hall⟩ digits hdigits
    obtain ⟨hmem, hnumeral⟩ := List.mem_filter.1 hdigits
    exact (resolves_numeral hnumeral).1 (hall _ (List.mem_map_of_mem hmem))
  · intro hall
    refine ⟨hparse, List.forall_mem_map.2 fun name hname => ?_⟩
    cases hnumeral : name.all Text.isDigit with
    | true => exact (resolves_numeral hnumeral).2 (hall _ (List.mem_filter.2 ⟨hname, hnumeral⟩))
    | false =>
      rw [ofName_word hnumeral]
      exact hnames name hname hnumeral

theorem compile_first_numeral {e : ReplacementError}
    (h : compile template groups = .error e) : ∃ before digits after,
      Token.numerals tokens = before ++ digits :: after ∧
      (∀ digits' ∈ before, NumeralResolves groups digits') ∧
      ¬NumeralResolves groups digits ∧ e = numeralFault groups digits := by
  rw [compile_of_parse hparse] at h
  split at h
  · rename_i e' hfirst
    obtain rfl := Except.error.inj h
    obtain ⟨refs, r, refs', hsplit, hr, hbefore⟩ := List.findSome?_eq_some_iff.1 hfirst
    obtain ⟨before, rest, hsame, rfl, hrest⟩ := List.map_eq_append_iff.1 (hrefs ▸ hsplit)
    obtain ⟨name, after, rfl, rfl, rfl⟩ := List.map_eq_cons_iff.1 hrest
    have hunresolved : ¬(GroupRef.ofName name).Resolves groups := fun hresolves => by
      rw [GroupRef.unresolved_of_resolves hresolves] at hr
      cases hr
    have hname : name ∈ Token.names tokens := by
      rw [hsame]
      exact List.mem_append_right _ List.mem_cons_self
    have hnumeral : name.all Text.isDigit = true := by
      by_contra hword
      rw [Bool.not_eq_true] at hword
      rw [ofName_word hword] at hunresolved
      exact hunresolved (hnames name hname hword)
    refine ⟨before.filter (·.all Text.isDigit), name, after.filter (·.all Text.isDigit), ?_, ?_,
      mt (resolves_numeral hnumeral).2 hunresolved, ?_⟩
    · rw [Token.numerals, hsame, List.filter_append, List.filter_cons, if_pos hnumeral]
    · intro digits hdigits
      obtain ⟨hmem, hdigits⟩ := List.mem_filter.1 hdigits
      have hnone := hbefore _ (List.mem_map_of_mem hmem)
      exact (resolves_numeral hdigits).1 (GroupRef.resolves_of_unresolved hnone)
    · rw [GroupRef.unresolved_of_not_resolves hunresolved, fault_numeral hnumeral] at hr
      exact (Option.some.inj hr).symm
  · cases h

end Numerals

/-- Where all names are known that are not digits alone, a template is accepted exactly if its
numerals stand for groups, and otherwise the first one that does not is reported. If all of them
can be held, each has to be less than the number of groups, and one that is not is reported by its
number. A name that is reported is never a number that can be held. -/
theorem compile_numerals (hparse : parse template = .ok t) :
    (∃ tokens, Decomposes template tokens ∧
      ∀ groups, (∀ name ∈ Token.names tokens, name.all Text.isDigit = false →
          some (String.ofList name) ∈ groups) →
        (compile template groups = .ok t ↔
          ∀ digits ∈ Token.numerals tokens, NumeralResolves groups digits) ∧
        (∀ e, compile template groups = .error e → ∃ before digits after,
          Token.numerals tokens = before ++ digits :: after ∧
          (∀ digits' ∈ before, NumeralResolves groups digits') ∧
          ¬NumeralResolves groups digits ∧ e = numeralFault groups digits) ∧
        ((∀ digits ∈ Token.numerals tokens, Text.decimalValue digits < 2 ^ 64) →
          (compile template groups = .ok t ↔
            ∀ digits ∈ Token.numerals tokens, Text.decimalValue digits < groups.length) ∧
          ∀ e, compile template groups = .error e → ∃ digits ∈ Token.numerals tokens,
            groups.length ≤ Text.decimalValue digits ∧
            e = .groupOutOfRange (Text.decimalValue digits) (groups.length - 1))) ∧
    ∀ groups s, compile template groups = .error (.unknownGroup s) →
      s.toList.all Text.isDigit = true → 2 ^ 64 ≤ Text.decimalValue s.toList := by
  obtain ⟨tokens, hread, hpieces⟩ := decomposes_of_parse hparse
  have hrefs : t.refs = (Token.names tokens).map GroupRef.ofName := by
    rw [hpieces, Token.refs_foldr, Token.filterMap_ref?]
  refine ⟨⟨tokens, hread, fun groups hnames => ?_⟩,
    fun groups s h => (normal_of_unknownGroup h).2.2⟩
  have hiff := compile_iff_numerals hparse hrefs hnames
  have hfirst := fun e => compile_first_numeral hparse hrefs hnames (e := e)
  refine ⟨hiff, hfirst, fun hheld => ⟨?_, fun e he => ?_⟩⟩
  · rw [hiff]
    refine forall₂_congr fun digits hdigits => ?_
    rw [NumeralResolves, if_pos (hheld digits hdigits)]
  · obtain ⟨before, digits, after, hsplit, -, hnot, rfl⟩ := hfirst e he
    have hmem : digits ∈ Token.numerals tokens := by
      rw [hsplit]
      exact List.mem_append_right _ List.mem_cons_self
    rw [NumeralResolves, if_pos (hheld digits hmem), Nat.not_lt] at hnot
    exact ⟨digits, hmem, hnot, if_pos (hheld digits hmem)⟩

theorem compile_numerals_beyond :
    let template := "$\x7b007\x7d$18446744073709551616"
    let digits := "18446744073709551616"
    ∃ t, parse template = .ok t ∧
      compile template (List.replicate 8 none) = .error (.unknownGroup digits) ∧
      2 ^ 64 ≤ Text.decimalValue digits.toList ∧
      ∃ tokens, Decomposes template tokens ∧
        Token.numerals tokens = [['0', '0', '7'], digits.toList] ∧
        (compile template [none] = .ok t ↔
          ∀ name ∈ Token.numerals tokens, NumeralResolves [none] name) := by
  intro template digits
  have hparse : parse template = .ok ⟨[.group (.index 7), .group (.name digits)]⟩ := by cbv
  have hcompile : compile template (List.replicate 8 none) = .error (.unknownGroup digits) := by
    cbv
  have hrun : IsRun isNameChar digits.toList [] :=
    ⟨by decide, List.all_eq_true.1 (by cbv), fun c hc => by cases hc⟩
  have hwritten : Decomposes template [.braced ['0', '0', '7'], .bare digits.toList] :=
    ⟨by decide, ⟨by decide, by decide⟩, hrun, trivial⟩
  obtain ⟨⟨tokens, hread, hall⟩, hbeyond⟩ := compile_numerals hparse
  obtain ⟨rfl, -⟩ := Token.allFit_unique hread.2 hwritten.2 rfl rfl
    (congrArg (· ++ []) (hread.1.trans hwritten.1.symm))
  have hnumerals : Token.numerals [.braced ['0', '0', '7'], .bare digits.toList] =
      [['0', '0', '7'], digits.toList] := by decide
  have hnames : ∀ name ∈ Token.names [.braced ['0', '0', '7'], .bare digits.toList],
      name.all Text.isDigit = false → some (String.ofList name) ∈ [none] := by
    have hdigits : ∀ name ∈ Token.names [.braced ['0', '0', '7'], .bare digits.toList],
        name.all Text.isDigit = true := by decide
    intro name hname hword
    rw [hdigits name hname] at hword
    cases hword
  have hlast : digits.toList.all Text.isDigit = true := by cbv
  exact ⟨_, hparse, hcompile, hbeyond _ _ hcompile hlast, _, hread, hnumerals,
    (hall [none] hnames).1⟩

end Template

end RegexStudio
