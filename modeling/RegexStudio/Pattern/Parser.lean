import RegexStudio.Pattern.Bracket
import RegexStudio.Pattern.Group

/-! Patterns of the linear engine. Open groups and alternations wait on a stack of frames while
the items of the innermost sequence are collected. -/

namespace RegexStudio.Pattern

structure Sequence where
  start : Position
  items : List Ast
deriving Inhabited, Repr

namespace Sequence

def push (s : Sequence) (item : Ast) : Sequence := { s with items := item :: s.items }

def toAst (s : Sequence) (stop : Position) : Ast := .ofItems ⟨s.start, stop⟩ s.items.reverse

end Sequence

inductive Frame
  | group (outer : Sequence) (span : Span) (kind : GroupKind) (verbose : Bool)
  | alternation (start : Position) (branches : List Ast)
deriving Inhabited, Repr

structure ParseState where
  cursor : Cursor
  verbose : Bool
  sequence : Sequence
  frames : List Frame
  captures : Nat
  names : GroupNames
deriving Inhabited

namespace ParseState

def initial (cs : List Char) : ParseState :=
  ⟨.ofText cs, false, ⟨.origin, []⟩, [], 0, []⟩

def push (s : ParseState) (item : Ast) (c : Cursor) : ParseState :=
  { s with sequence := s.sequence.push item, cursor := c }

end ParseState

namespace Parser

def pushAlternate (s : ParseState) : ParseState :=
  let branch := s.sequence.toAst s.cursor.pos
  let frames := match s.frames with
    | .alternation start branches :: rest => .alternation start (branch :: branches) :: rest
    | frames => .alternation s.sequence.start [branch] :: frames
  let c := s.cursor.bump
  { s with cursor := c, sequence := ⟨c.pos, []⟩, frames }

def pushGroup (s : ParseState) : Except Fault ParseState := do
  let (opening, names, c) ← Group.read s.verbose s.captures s.names s.cursor
  match opening with
  | .flags span entries =>
    let s := s.push (.flags span entries) c
    .ok { s with verbose := (flagState .verbose entries).getD s.verbose }
  | .group span kind =>
    let inner := match kind with
      | .plain entries => (flagState .verbose entries).getD s.verbose
      | _ => s.verbose
    let captures := match kind with
      | .plain _ => s.captures
      | _ => s.captures + 1
    .ok { s with
      cursor := c, names, captures, verbose := inner
      sequence := ⟨c.pos, []⟩
      frames := .group s.sequence span kind s.verbose :: s.frames }

def popGroup (s : ParseState) : Except Fault ParseState :=
  let branch := s.sequence.toAst s.cursor.pos
  let after := s.cursor.bump
  let close (body : Ast) (frames : List Frame) : Except Fault ParseState :=
    match frames with
    | .group outer span kind verbose :: rest =>
      let group := Ast.group ⟨span.start, after.pos⟩ kind body
      .ok { s with cursor := after, verbose, sequence := outer.push group, frames := rest }
    | _ => refuse .groupUnopened s.cursor.spanChar
  match s.frames with
  | .alternation start branches :: rest =>
    close (.alternation ⟨start, s.cursor.pos⟩ (branch :: branches).reverse) rest
  | frames => close branch frames

def finish (s : ParseState) : Except Fault Ast :=
  let stop := s.cursor.pos
  let branch := s.sequence.toAst stop
  let close (body : Ast) : List Frame → Except Fault Ast
    | .group _ span _ _ :: _ => refuse .groupUnclosed span
    | _ => .ok body
  match s.frames with
  | .alternation start branches :: rest =>
    close (.alternation ⟨start, stop⟩ (branch :: branches).reverse) rest
  | frames => close branch frames

def operand (s : ParseState) : Except Fault (Ast × List Ast) :=
  match s.sequence.items with
  | [] | .empty _ :: _ | .flags _ _ :: _ => refuse .repetitionMissing (.point s.cursor.pos)
  | item :: rest => .ok (item, rest)

def pushRepetition (s : ParseState) (item : Ast) (rest : List Ast) (count : Count)
    (greedy : Bool) (c : Cursor) : ParseState :=
  let node := Ast.repetition ⟨item.span.start, c.pos⟩ count greedy item
  { s with cursor := c, sequence := { s.sequence with items := node :: rest } }

def laziness (c : Cursor) : Bool × Cursor :=
  if c.char? == some '?' then (false, c.bump) else (true, c)

def simpleRepetition (s : ParseState) (count : Count) : Except Fault ParseState := do
  let (item, rest) ← operand s
  let (greedy, c) := laziness s.cursor.bump
  .ok (pushRepetition s item rest count greedy c)

def skipBlanks (verbose : Bool) (c : Cursor) : Cursor :=
  match h : c.rest with
  | [] => c
  | x :: _ =>
    have := Cursor.length_bumpSpace_of_cons verbose h
    if Text.isBlank x then skipBlanks verbose (c.bumpSpace verbose) else c
termination_by c.rest.length

def digitRun (verbose : Bool) (c : Cursor) (digits : List Char) : List Char × Cursor :=
  match h : c.rest with
  | [] => (digits.reverse, c)
  | x :: _ =>
    have := Cursor.length_bumpSpace_of_cons verbose h
    if Text.isDigit x then digitRun verbose (c.bumpSpace verbose) (x :: digits)
    else (digits.reverse, c)
termination_by c.rest.length

def maxCount : Nat := 4294967295

def decimal (verbose : Bool) (c : Cursor) : Except Fault Nat × Cursor :=
  let c := skipBlanks false c
  let start := c.pos
  let (digits, c) := digitRun verbose c []
  let span : Span := ⟨start, c.pos⟩
  let after := skipBlanks verbose c
  if digits.isEmpty then (refuse .repetitionCountDecimalEmpty span, after)
  else if Text.decimalValue digits ≤ maxCount then (.ok (Text.decimalValue digits), after)
  else (refuse .decimalInvalid span, after)

def countedRepetition (s : ParseState) : Except Fault ParseState := do
  let start := s.cursor.pos
  let (item, rest) ← operand s
  let c := s.cursor.bumpSpace s.verbose
  if c.atEnd then refuse .repetitionCountUnclosed ⟨start, c.pos⟩
  let (lo, c) := decimal s.verbose c
  if c.atEnd then refuse .repetitionCountUnclosed ⟨start, c.pos⟩
  let (count, c) ← (do
    if c.char? == some ',' then
      let c := c.bumpSpace s.verbose
      if c.atEnd then refuse .repetitionCountUnclosed ⟨start, c.pos⟩
      let lo ← lo
      if c.char? == some '\x7d' then .ok (.atLeast lo, c)
      else
        let (hi, c) := decimal s.verbose c
        let hi ← hi
        .ok (.between lo hi, c)
    else
      let n ← lo
      .ok (.exactly n, c) : Except Fault (Count × Cursor))
  if c.char? != some '\x7d' then refuse .repetitionCountUnclosed ⟨start, c.pos⟩
  let (greedy, c) := laziness (c.bumpSpace s.verbose)
  if !count.isValid then refuse .repetitionCountInvalid ⟨start, c.pos⟩
  .ok (pushRepetition s item rest count greedy c)

def primitive (verbose : Bool) (x : Char) (c : Cursor) : Except Fault (Primitive × Cursor) :=
  match x with
  | '\\' => Escape.read verbose c
  | '.' => .ok (.dot c.spanChar, c.bump)
  | '^' => .ok (.assertion c.spanChar .startLine, c.bump)
  | '$' => .ok (.assertion c.spanChar .endLine, c.bump)
  | x => .ok (.literal ⟨c.spanChar, x, false⟩, c.bump)

def step (s : ParseState) (x : Char) : Except Fault ParseState :=
  match x with
  | '(' => pushGroup s
  | ')' => popGroup s
  | '|' => .ok (pushAlternate s)
  | '[' => do
    let (node, c) ← Bracket.read s.verbose s.cursor
    .ok (s.push node c)
  | '?' => simpleRepetition s .optional
  | '*' => simpleRepetition s .any
  | '+' => simpleRepetition s .some
  | '\x7b' => countedRepetition s
  | x => do
    let (p, c) ← primitive s.verbose x s.cursor
    .ok (s.push p.toAst c)

/-- Steps to the end of the pattern. Each step reads a character, so as many steps as there are
characters are enough. -/
def run : Nat → ParseState → Except Fault Ast
  | 0, s => finish s
  | fuel + 1, s =>
    let s := { s with cursor := s.cursor.skipSpace s.verbose }
    match s.cursor.char? with
    | none => finish s
    | some x => do
      let s ← step s x
      run fuel s

end Parser

/-- How deep groups, classes, repetitions, sequences and alternations may nest. -/
def nestLimit : Nat := 250

mutual

def ClassNode.tooDeep? (depth : Nat) : ClassNode → Option Span
  | .bracket span _ body =>
    if nestLimit ≤ depth then some span else body.tooDeep? (depth + 1)
  | .union span items =>
    if nestLimit ≤ depth then some span else ClassNode.anyTooDeep? (depth + 1) items
  | .operation span _ lhs rhs =>
    if nestLimit ≤ depth then some span
    else (lhs.tooDeep? (depth + 1)).or (rhs.tooDeep? (depth + 1))
  | _ => none

def ClassNode.anyTooDeep? (depth : Nat) : List ClassNode → Option Span
  | [] => none
  | item :: rest => (item.tooDeep? depth).or (ClassNode.anyTooDeep? depth rest)

end

mutual

def Ast.tooDeep? (depth : Nat) : Ast → Option Span
  | .bracket span _ body =>
    if nestLimit ≤ depth then some span else body.tooDeep? (depth + 1)
  | .repetition span _ _ sub | .group span _ sub =>
    if nestLimit ≤ depth then some span else sub.tooDeep? (depth + 1)
  | .alternation span items | .concat span items =>
    if nestLimit ≤ depth then some span else Ast.anyTooDeep? (depth + 1) items
  | _ => none

def Ast.anyTooDeep? (depth : Nat) : List Ast → Option Span
  | [] => none
  | item :: rest => (item.tooDeep? depth).or (Ast.anyTooDeep? depth rest)

end

def parse (pattern : List Char) : Except Fault Ast := do
  let ast ← Parser.run (pattern.length + 1) (.initial pattern)
  match ast.tooDeep? 0 with
  | some span => refuse (.nestLimitExceeded nestLimit) span
  | none => .ok ast

end RegexStudio.Pattern
