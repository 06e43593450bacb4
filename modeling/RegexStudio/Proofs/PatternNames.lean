import Mathlib
import RegexStudio.Pattern.Parser
import RegexStudio.Proofs.Except

/-! What an opening parenthesis begins: the numbers and the names of groups. A group gets the
number after those of the groups before it, and a name that none of them has. -/

namespace RegexStudio

namespace Pattern

def GroupKind.index? : GroupKind → Option Nat
  | .capture index | .named index _ => some index
  | .plain _ => none

def GroupKind.name? : GroupKind → Option String
  | .named _ name => some name
  | _ => none

theorem refuse_or_eq_ok {α β : Type} {p : Prop} [Decidable p] {reason : Reason} {span : Span}
    {f : α → Except Fault β} {x : Except Fault β} {b : β} :
    (if p then (refuse reason span >>= f) else x) = .ok b ↔ ¬p ∧ x = .ok b := by
  split
  · rename_i hp
    exact ⟨fun h => (nomatch h), fun h => absurd hp h.1⟩
  · rename_i hp
    exact ⟨fun h => ⟨hp, h⟩, And.right⟩

namespace Group

variable {verbose : Bool} {captures : Nat} {names names' : GroupNames} {c c' : Cursor}
  {text : String} {span : Span}

theorem nextIndex_eq_ok {index : Nat} :
    nextIndex captures span = .ok index ↔ captures < maxCaptures ∧ index = captures + 1 := by
  unfold nextIndex
  split
  · rename_i hlimit
    exact ⟨fun h => ⟨hlimit, (Except.ok.inj h).symm⟩, fun h => congrArg _ h.2.symm⟩
  · rename_i hlimit
    exact ⟨fun h => (nomatch h), fun h => absurd h.1 hlimit⟩

inductive Opens (verbose : Bool) (captures : Nat) (names : GroupNames) (c : Cursor) :
    Opening → GroupNames → Cursor → Prop
  | named (mark : List Char) (text : String) (span : Span) (c' : Cursor)
    (hmark : mark = ['?', 'P', '<'] ∨ mark = ['?', '<'])
    (hahead : (c.bumpSpace verbose).startsWith mark = true) (hlimit : captures < maxCaptures)
    (hname : name names ((c.bumpSpace verbose).bumpMany mark.length) = .ok (text, span, c')) :
    Opens verbose captures names c (.group c.spanChar (.named (captures + 1) text))
      (names ++ [(text, span)]) c'
  | flags (entries : List FlagEntry) (c' : Cursor)
    (hmark : (c.bumpSpace verbose).char? = some '?')
    (hflags : flags (c.bumpSpace verbose).bump [] = .ok (entries, c')) :
    Opens verbose captures names c (.flags ⟨c.pos, c'.bump.pos⟩ entries) names c'.bump
  | plain (entries : List FlagEntry) (c' : Cursor)
    (hmark : (c.bumpSpace verbose).char? = some '?')
    (hflags : flags (c.bumpSpace verbose).bump [] = .ok (entries, c')) :
    Opens verbose captures names c (.group c.spanChar (.plain entries)) names c'.bump
  | capture (hlimit : captures < maxCaptures) :
    Opens verbose captures names c (.group c.spanChar (.capture (captures + 1))) names
      (c.bumpSpace verbose)

theorem read_opens {opening : Opening}
    (h : read verbose captures names c = .ok (opening, names', c')) :
    Opens verbose captures names c opening names' c' := by
  unfold read at h
  dsimp only at h
  split at h
  · cases h
  split at h
  · rename_i hahead
    obtain ⟨index, hindex, h⟩ := bind_eq_ok.1 h
    obtain ⟨⟨text, span, c₁⟩, hname, h⟩ := bind_eq_ok.1 h
    obtain ⟨hlimit, rfl⟩ := nextIndex_eq_ok.1 hindex
    cases h
    exact .named _ _ _ _ (.inl rfl) hahead hlimit hname
  split at h
  · rename_i hahead
    obtain ⟨index, hindex, h⟩ := bind_eq_ok.1 h
    obtain ⟨⟨text, span, c₁⟩, hname, h⟩ := bind_eq_ok.1 h
    obtain ⟨hlimit, rfl⟩ := nextIndex_eq_ok.1 hindex
    cases h
    exact .named _ _ _ _ (.inr rfl) hahead hlimit hname
  split at h
  · rename_i hmark
    simp only [refuse_or_eq_ok, bind_eq_ok] at h
    obtain ⟨-, ⟨entries, c₁⟩, hflags, h⟩ := h
    split at h
    · cases ((refuse_or_eq_ok.1 h).2)
      exact .flags _ _ (beq_iff_eq.1 hmark) hflags
    · cases h
      exact .plain _ _ (beq_iff_eq.1 hmark) hflags
  · obtain ⟨index, hindex, h⟩ := bind_eq_ok.1 h
    obtain ⟨hlimit, rfl⟩ := nextIndex_eq_ok.1 hindex
    cases h
    exact .capture hlimit

theorem nameChars_append {start p : Position} {xs name name' : List Char}
    (h : nameChars start xs p name = .ok (name', c')) : ∃ more, name' = name.reverse ++ more := by
  induction xs generalizing p name with
  | nil =>
    cases h
    exact ⟨[], (List.append_nil _).symm⟩
  | cons x xs ih =>
    rw [nameChars] at h
    split at h
    · cases h
      exact ⟨[], (List.append_nil _).symm⟩
    generalize (if p == start then isNameStart x else isNameChar x) = valid at h
    split at h
    · obtain ⟨more, rfl⟩ := ih h
      exact ⟨x :: more, by rw [List.reverse_cons, List.append_assoc, List.singleton_append]⟩
    · cases h

theorem name_start (h : name names c = .ok (text, span, c')) :
    ∃ x xs, text.toList = x :: xs ∧ isNameStart x = true := by
  simp only [name, bind_eq_ok, refuse_or_eq_ok] at h
  obtain ⟨-, ⟨chars, c₁⟩, hchars, -, hfull, h⟩ := h
  split at h
  · cases h
  cases h
  rw [String.toList_ofList]
  cases hrest : c.rest with
  | nil =>
    rw [hrest] at hchars
    cases hchars
    exact absurd rfl hfull
  | cons x xs =>
    rw [hrest, nameChars, beq_self_eq_true, if_pos rfl] at hchars
    split at hchars
    · cases hchars
      exact absurd rfl hfull
    split at hchars
    · rename_i hstart
      obtain ⟨more, rfl⟩ := nameChars_append hchars
      exact ⟨x, more, rfl, hstart⟩
    · cases hchars

theorem isNameStart_eq_false_of_isDigit {x : Char} (h : Text.isDigit x = true) :
    isNameStart x = false := by
  have hdigit : 48 ≤ x.toNat ∧ x.toNat ≤ 57 := by
    simpa [Text.isDigit, Char.le_def, UInt32.le_iff_toNat_le] using h
  have hascii : x.toNat < 0x80 := by omega
  have hunderscore : (x == '_') = false := by
    rw [beq_eq_false_iff_ne]
    rintro rfl
    exact absurd hdigit.2 (by decide)
  rw [isNameStart, Unicode.isAlphabetic, if_pos hascii, hunderscore, Bool.false_or]
  simp only [Char.isAlpha, Char.isUpper, Char.isLower]
  simp [UInt32.le_iff_toNat_le]
  omega

theorem name_not_digits (h : name names c = .ok (text, span, c')) :
    text.toList.all Text.isDigit = false := by
  obtain ⟨x, xs, htext, hstart⟩ := name_start h
  rw [htext, List.all_cons]
  cases hdigit : Text.isDigit x with
  | false => rfl
  | true =>
    rw [isNameStart_eq_false_of_isDigit hdigit] at hstart
    cases hstart

theorem name_fresh (h : name names c = .ok (text, span, c')) : text ∉ names.map Prod.fst := by
  simp only [name, bind_eq_ok, refuse_or_eq_ok] at h
  obtain ⟨-, chars, -, -, -, h⟩ := h
  split at h
  · cases h
  · rename_i hfind
    obtain ⟨rfl, -⟩ := Prod.mk.inj (Except.ok.inj h)
    intro hmem
    obtain ⟨entry, hentry, htext⟩ := List.mem_map.1 hmem
    exact List.find?_eq_none.1 hfind entry hentry (beq_iff_eq.2 htext)

end Group

namespace Parser

theorem operand_items {s : ParseState} {item : Ast} {rest : List Ast}
    (h : operand s = .ok (item, rest)) : s.sequence.items = item :: rest := by
  unfold operand at h
  split at h
  · cases h
  · cases h
  · cases h
  · rename_i hitems
    cases h
    exact hitems

end Parser

end Pattern

end RegexStudio
