import RegexStudio.Text.Haystack
import RegexStudio.Unicode.Property

/-! What a pattern of the linear engine means: sets of characters, assertions, sequence, choice,
counted repetition and captures. -/

namespace RegexStudio.Linear

open Text (Haystack)

inductive Look
  | start
  | stop
  | startLine
  | endLine
  | startLineCrlf
  | endLineCrlf
  | word (unicode : Bool)
  | notWord (unicode : Bool)
  | wordStart (unicode : Bool)
  | wordEnd (unicode : Bool)
  | wordStartHalf (unicode : Bool)
  | wordEndHalf (unicode : Bool)
deriving DecidableEq, Inhabited, Repr

namespace Look

def isWordChar (unicode : Bool) (c? : Option Char) : Bool :=
  match c? with
  | none => false
  | some c =>
    if c.toNat < 0x80 || !unicode then Unicode.isAsciiWord c else Unicode.isWord c

def holds (h : Haystack) (i : Nat) (look : Look) : Bool :=
  let before := h.before? i
  let after := h.char? i
  match look with
  | start => i == 0
  | stop => i == h.size
  | startLine => i == 0 || before == some '\n'
  | endLine => i == h.size || after == some '\n'
  | startLineCrlf =>
    i == 0 || before == some '\n' || (before == some '\r' && after != some '\n')
  | endLineCrlf =>
    i == h.size || after == some '\r' || (after == some '\n' && before != some '\r')
  | word u => isWordChar u before != isWordChar u after
  | notWord u => isWordChar u before == isWordChar u after
  | wordStart u => !isWordChar u before && isWordChar u after
  | wordEnd u => isWordChar u before && !isWordChar u after
  | wordStartHalf u => !isWordChar u before
  | wordEndHalf u => !isWordChar u after

end Look

inductive Expr
  | empty
  | set (s : Unicode.CharSet)
  | look (l : Look)
  | cat (a b : Expr)
  | alt (a b : Expr)
  | rep (lo : Nat) (hi : Option Nat) (greedy : Bool) (sub : Expr)
  | cap (index : Nat) (name : Option String) (sub : Expr)
deriving Inhabited, Repr

namespace Expr

/-- Whether every match has length zero; a set, even an empty one, never counts. -/
def isZeroWidth : Expr → Bool
  | empty | look _ => true
  | set _ => false
  | cat a b | alt a b => a.isZeroWidth && b.isZeroWidth
  | rep _ hi _ sub => hi == some 0 || (sub.isZeroWidth && hi.isSome)
  | cap _ _ sub => sub.isZeroWidth

/-- A repetition; more than one round of an operand without width is one round. -/
def repeated (lo : Nat) (hi : Option Nat) (greedy : Bool) (sub : Expr) : Expr :=
  let zero := sub.isZeroWidth
  let lo := if zero then min lo 1 else lo
  let hi := if zero then some (min (hi.getD 1) 1) else hi
  if hi == some 0 && lo == 0 then .empty
  else if lo == 1 && hi == some 1 then sub
  else .rep lo hi greedy sub

def concat : List Expr → Expr
  | [] => .empty
  | [e] => e
  | e :: rest => .cat e (concat rest)

def choice : List Expr → Expr
  | [] => .set .empty
  | [e] => e
  | e :: rest => .alt e (choice rest)

def mirrored : Expr → Expr
  | cat a b => .cat b.mirrored a.mirrored
  | alt a b => .alt a.mirrored b.mirrored
  | rep lo hi greedy sub => .rep lo hi greedy sub.mirrored
  | cap index name sub => .cap index name sub.mirrored
  | e => e

def groupNames (e : Expr) : List (Option String) :=
  go e [none]
where
  go : Expr → List (Option String) → List (Option String)
    | empty, names | set _, names | look _, names => names
    | cat a b, names | alt a b, names => go b (go a names)
    | rep _ _ _ sub, names => go sub names
    | cap index name sub, names =>
      let names :=
        if index < names.length then names
        else names ++ List.replicate (index - names.length) none ++ [name]
      go sub names

end Expr

end RegexStudio.Linear
