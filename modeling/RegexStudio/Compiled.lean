import RegexStudio.Backtracking.Regex
import RegexStudio.Engine
import RegexStudio.Linear.Regex
import RegexStudio.PatternError
import RegexStudio.Template

/-! Patterns compiled by one of the two engines. Without a forced engine the linear one is tried
first, unless the pattern shows a feature that it lacks; where it refuses a pattern the other one
gets its chance, but if both refuse, the words of the linear engine stand. -/

namespace RegexStudio

open Text (Haystack)

inductive Compiled
  | linear (re : Linear.Regex)
  | backtracking (re : Backtracking.Regex)
deriving Inhabited, Repr

/-- Why there is no result: the program dies of it, or never comes to an end. -/
inductive Breakdown
  | outOfRange
  | endless
deriving DecidableEq, Inhabited, Repr

namespace Compiled

def engine : Compiled → Engine
  | linear _ => .linear
  | backtracking _ => .backtracking

def groupNames : Compiled → List (Option String)
  | linear re => re.groupNames
  | backtracking re => re.groupNames

def listing (c : Compiled) (h : Haystack) : Listing :=
  match c with
  | linear re => { hits := re.hits h, ending := .complete }
  | backtracking re => re.listing h

def groupOf? (c : Compiled) : GroupRef → Option Nat
  | .index n => some n
  | .name s => c.groupNames.findIdx? (· == some s)

def groupText (c : Compiled) (h : Haystack) (hit : Hit) (r : GroupRef) : Option String := do
  let n ← c.groupOf? r
  let (start, stop) ← hit.group? n
  some (h.slice start stop)

def cut (h : Haystack) (start stop : Nat) : Except Breakdown String :=
  match h.slice? start stop with
  | some text => .ok text
  | none => .error .outOfRange

/-- The text from a place on, with matches replaced as they come. -/
def replaceFrom (c : Compiled) (h : Haystack) (t : Template) (ending : Ending) :
    Nat → List Hit → Except Breakdown (Except ReplacementError String)
  | last, [] =>
    match ending with
    | .complete => (cut h last h.size).map .ok
    | .failed message => .ok (.error (.runtime message))
    | .endless => .error .endless
  | last, hit :: rest => do
    let before ← cut h last hit.start
    let after ← replaceFrom c h t ending hit.stop rest
    .ok (after.map fun text => before ++ t.expand (c.groupText h hit) ++ text)

def replace (c : Compiled) (h : Haystack) (t : Template) :
    Except Breakdown (Except ReplacementError String) :=
  let found := c.listing h
  c.replaceFrom h t found.ending 0 found.hits

end Compiled

namespace PatternError

def ofLinear (pattern : List Char) (r : Linear.Refusal) : PatternError where
  message := r.message pattern
  position := r.position?

def ofBacktracking (r : Backtracking.Refusal) : PatternError where
  message := r.message

end PatternError

namespace Compiled

def withEngine (engine : Engine) (pattern : List Char) : Except PatternError Compiled :=
  match engine with
  | .linear => match Linear.Regex.compile pattern with
    | .ok re => .ok (linear re)
    | .error r => .error (.ofLinear pattern r)
  | .backtracking => match Backtracking.Regex.compile pattern with
    | .ok re => .ok (backtracking re)
    | .error r => .error (.ofBacktracking r)

def automatic (pattern : List Char) : Except PatternError Compiled :=
  match Engine.select pattern with
  | .backtracking => withEngine .backtracking pattern
  | .linear => match withEngine .linear pattern with
    | .ok c => .ok c
    | .error e => match withEngine .backtracking pattern with
      | .ok c => .ok c
      | .error _ => .error e

def ofPattern (forced : Option Engine) (pattern : String) : Except PatternError Compiled :=
  match forced with
  | some engine => withEngine engine pattern.toList
  | none => automatic pattern.toList

end Compiled

end RegexStudio
