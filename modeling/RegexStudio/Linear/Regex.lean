import RegexStudio.Linear.Footprint
import RegexStudio.Linear.Meaning
import RegexStudio.Linear.Search
import RegexStudio.Match

/-! Patterns of the linear engine: compiling them, and listing all their matches in a text. -/

namespace RegexStudio.Linear

open Pattern (Fault)
open Text (Haystack)

inductive Refusal
  | malformed (fault : Fault)
  | meaningless (fault : Fault)
  | tooLarge
deriving DecidableEq, Inhabited, Repr

namespace Refusal

def message (pattern : List Char) : Refusal → String
  | malformed fault | meaningless fault => fault.display pattern
  | tooLarge => "Compiled regex exceeds size limit of " ++ toString Footprint.limit ++ " bytes."

def position? : Refusal → Option Nat
  | malformed fault => some fault.span.start.offset
  | _ => none

end Refusal

structure Regex where
  program : Program
  groupNames : List (Option String)
deriving Inhabited, Repr

namespace Regex

def read (pattern : List Char) : Except Refusal Expr := do
  let ast ← (Pattern.parse pattern).mapError .malformed
  let e ← (meaning ast).mapError .meaningless
  if e.footprint ≤ Footprint.limit then .ok e else .error .tooLarge

def compile (pattern : List Char) : Except Refusal Regex := do
  let e ← read pattern
  .ok { program := .ofExpr e, groupNames := e.groupNames }

def hit (re : Regex) (start : Nat) (t : Thread) : Hit where
  start := start
  stop := t.pos
  groups := (List.range (re.groupNames.length - 1)).map fun i => t.group? (i + 1)

def find (re : Regex) (h : Haystack) (start : Nat) : Option Hit :=
  (re.program.search h start).map fun (i, t) => re.hit i t

/-- The next match from a place on; an empty one where the last match ended does not count. -/
def findNext (re : Regex) (h : Haystack) (start : Nat) (last : Option Nat) : Option Hit :=
  match re.find h start with
  | none => none
  | some m => if m.start == m.stop && last == some m.stop then re.find h (start + 1) else some m

def hitsFrom (re : Regex) (h : Haystack) : Nat → Nat → Option Nat → List Hit
  | 0, _, _ => []
  | fuel + 1, start, last =>
    match re.findNext h start last with
    | none => []
    | some m => m :: hitsFrom re h fuel m.stop (some m.stop)

/-- All matches from left to right, none overlapping another. Their ends strictly increase, so
there is at most one for each place. -/
def hits (re : Regex) (h : Haystack) : List Hit := re.hitsFrom h (h.size + 2) 0 none

end Regex

end RegexStudio.Linear
