import RegexStudio.Backtracking.Facts
import RegexStudio.Backtracking.Printer
import RegexStudio.Linear.Regex

/-! Which parts of a pattern the machine with backtracking matches itself, and which it leaves to
the linear engine. A part is left to that engine when nothing inside needs backtracking and, where
something after it may fail, when it can match in one way only. -/

namespace RegexStudio.Backtracking

/-- A part left to the linear engine; its groups have the numbers from `first` on. -/
structure LinearPart where
  program : Linear.Program
  first : Nat
  count : Nat
deriving Inhabited, Repr

inductive Plan
  | nothing
  | any (newline : Bool)
  | text (cs : List Char)
  | assertion (a : Assertion)
  | both (a b : Plan)
  | either (a b : Plan)
  /-- Writes the place down. -/
  | save (slot : Nat)
  | optional (greedy : Bool) (sub : Plan)
  /-- Any number of rounds, or one at least, of a part that is never empty. -/
  | star (greedy : Bool) (sub : Plan)
  | plus (greedy : Bool) (sub : Plan)
  | counted (lo hi : Nat) (greedy : Bool) (sub : Plan)
  /-- Rounds without upper bound of a part that may be empty; an empty round ends them. -/
  | rounds (lo : Nat) (greedy : Bool) (sub : Plan)
  /-- Matches a part and returns to where it began. -/
  | peek (sub : Plan)
  | refute (sub : Plan)
  /-- Goes back over some characters. -/
  | back (n : Nat)
  | linear (part : LinearPart)
  /-- Goes back over a match of the mirrored part; then the part itself finds its groups. -/
  | linearBack (mirrored : Linear.Program) (part : LinearPart)
  | backref (group : Nat) (ignoreCase : Bool)
  | groupSet (group : Nat)
  /-- The place where the search begins; no later place has a match if it stands first. -/
  | lastEnd (first : Bool)
  | atomic (sub : Plan)
  | condition (test yes no : Plan)
deriving Inhabited, Repr

namespace Plan

def ofList : List Plan → Plan
  | [] => nothing
  | [p] => p
  | p :: rest => both p (ofList rest)

def ofBranches : List Plan → Plan
  | [] => nothing
  | [p] => p
  | p :: rest => either p (ofBranches rest)

def linearExpr (text : List Char) : Except Refusal Linear.Expr :=
  match Linear.Regex.read text with
  | .ok e => .ok e
  | .error .tooLarge => .error .partTooLarge
  | .error _ => .error .partRefused

def plainText? (a : Annotated) : Option (List Char) :=
  match a.node with
  | .literal c false => some [c]
  | .concat items => items.mapM fun
    | .literal c false => some c
    | _ => none
  | _ => none

def linearPart (program : Linear.Program) (parts : List Annotated) : LinearPart :=
  let first := (parts.head?.map (·.facts.firstGroup)).getD 0
  let stop := (parts.getLast?.map (·.facts.endGroup)).getD 0
  { program, first, count := stop - first }

def delegate (parts : List Annotated) : Except Refusal Plan :=
  if parts.isEmpty then .ok nothing
  else match parts.mapM plainText? with
    | some texts => .ok (text texts.flatten)
    | none => do
      let e ← linearExpr (parts.flatMap fun a => Printer.print .branch a.node)
      .ok (linear (linearPart (.ofExpr e) parts))

def delegateBack (a : Annotated) : Except Refusal Plan := do
  let e ← linearExpr (Printer.print .branch a.node)
  .ok (linearBack (.ofExpr e.mirrored) (linearPart (.ofExpr e) [a]))

def farBack (a : Annotated) : Except Refusal Plan :=
  if a.facts.hard then .error .lookbehindSize else delegateBack a

/-- How many parts at the start and at the end of a sequence are left to the linear engine. Where
something may fail after the sequence, parts at its end have to be of one size. -/
def ends (hard : Bool) (parts : List Annotated) : Nat × Nat :=
  let easy (a : Annotated) : Bool := a.facts.isConst && !a.facts.hard
  let last (a : Annotated) : Bool := if hard then easy a else !a.facts.hard
  let start := (parts.takeWhile easy).length
  (start, ((parts.drop start).reverse.takeWhile last).length)

def turn (kind : LookKind) (inside : Facts) (sub : Plan) : Plan :=
  match kind with
  | .ahead => peek sub
  | .notAhead => refute sub
  | .behind => peek (both (back inside.minSize) sub)
  | .notBehind => refute (both (back inside.minSize) sub)

mutual

/-- The plan of a part; `hard` tells that something after it may fail, and `branch` that it stands
in a branch of a choice. -/
def make (hard branch : Bool) : Annotated → Except Refusal Plan
  | .mk node facts children =>
    if !hard && !facts.hard then delegate [.mk node facts children]
    else match node, children with
      | .any newline, _ => .ok (any newline)
      | .literal c false, _ => .ok (text [c])
      | .literal .., _ | .charClass .., _ => delegate [.mk node facts children]
      | .assertion a, _ => .ok (assertion a)
      | .keepOut, _ => .ok (save 0)
      | .lastEnd, _ => .ok (lastEnd (facts.before == 0 && !branch))
      | .backref group ignoreCase, _ => .ok (backref group ignoreCase)
      | .groupSet group, _ => .ok (groupSet group)
      | .concat _, parts => do
        let (start, stop) := ends hard parts
        let middle := parts.length - start - stop
        let first ← delegate (parts.take start)
        let inner ← makeSome branch start middle parts
        let last ← delegate (parts.drop (start + middle))
        .ok (ofList (first :: (inner ++ [last])))
      | .choice _, branches => do
        .ok (ofBranches (← makeAll hard branches))
      | .group _, [sub] => do
        let inner ← make hard branch sub
        let n := facts.firstGroup
        .ok (ofList [save (2 * n), inner, save (2 * n + 1)])
      | .look kind _, [.mk (.choice branches) inner alternatives] =>
        let lookbehind := kind == .behind || kind == .notBehind
        if lookbehind && !inner.isConst then do
          let plans ← makeBehind (branch || kind == .behind) alternatives
          if kind == .behind then .ok (ofBranches (plans.map peek))
          else .ok (ofList (plans.map refute))
        else do
          let plan ← make false branch (.mk (.choice branches) inner alternatives)
          .ok (turn kind inner plan)
      | .look kind _, [sub] => do
        if (kind == .behind || kind == .notBehind) && !sub.facts.isConst then
          let plan ← farBack sub
          .ok (if kind == .behind then peek plan else refute plan)
        else
          let plan ← make false branch sub
          .ok (turn kind sub.facts plan)
      | .rep 0 (some 1) greedy _, [sub] => do
        .ok (optional greedy (← make hard branch sub))
      | .rep lo hi greedy _, [sub] => do
        let inner ← make (hard || facts.hard) branch sub
        match hi with
        | none =>
          if sub.facts.minSize == 0 then .ok (rounds lo greedy inner)
          else if lo == 0 then .ok (star greedy inner)
          else if lo == 1 then .ok (plus greedy inner)
          else .ok (counted lo Scan.maxNumber greedy inner)
        | some hi => .ok (counted lo hi greedy inner)
      | .atomic _, [sub] => do
        .ok (atomic (← make false branch sub))
      | .condition .., [test, yes, no] => do
        let test ← make hard branch test
        let yes ← make hard branch yes
        let no ← make hard branch no
        .ok (condition test yes no)
      | _, _ => .ok nothing

def makeAll (hard : Bool) : List Annotated → Except Refusal (List Plan)
  | [] => .ok []
  | a :: rest => do
    let plan ← make hard true a
    let plans ← makeAll hard rest
    .ok (plan :: plans)

def makeSome (branch : Bool) : Nat → Nat → List Annotated → Except Refusal (List Plan)
  | start + 1, count, _ :: rest => makeSome branch start count rest
  | 0, count + 1, a :: rest => do
    let plan ← make true branch a
    let plans ← makeSome branch 0 count rest
    .ok (plan :: plans)
  | _, _, _ => .ok []

def makeBehind (branch : Bool) : List Annotated → Except Refusal (List Plan)
  | [] => .ok []
  | a :: rest => do
    let plan ←
      if a.facts.isConst then (make false branch a).map (both (back a.facts.minSize))
      else farBack a
    let plans ← makeBehind branch rest
    .ok (plan :: plans)

end

end Plan

end RegexStudio.Backtracking
