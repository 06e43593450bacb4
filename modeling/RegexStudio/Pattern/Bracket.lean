import RegexStudio.Pattern.Escape

/-! Bracketed character classes, with nesting and the set operations. Open brackets and pending
operations wait on a stack; the members read so far form a union. -/

namespace RegexStudio.Pattern

structure ClassUnion where
  span : Span
  items : List ClassNode
deriving Inhabited, Repr

namespace ClassUnion

def emptyAt (p : Position) : ClassUnion := ⟨.point p, []⟩

def push (u : ClassUnion) (item : ClassNode) : ClassUnion :=
  let start := if u.items.isEmpty then item.span.start else u.span.start
  ⟨⟨start, item.span.stop⟩, item :: u.items⟩

def toNode (u : ClassUnion) : ClassNode :=
  match u.items with
  | [] => .empty u.span
  | [item] => item
  | items => .union u.span items.reverse

end ClassUnion

inductive ClassFrame
  | bracket (outer : ClassUnion) (span : Span) (negated : Bool)
  | operation (op : SetOperation) (lhs : ClassNode)
deriving Inhabited, Repr

structure ClassState where
  cursor : Cursor
  stack : List ClassFrame
  union : ClassUnion
deriving Inhabited

namespace Bracket

/-- The fault of a class without end: it names the innermost open bracket. -/
def unclosed (stack : List ClassFrame) : Fault :=
  let open? := stack.findSome? fun
    | .bracket _ span _ => some span
    | .operation _ _ => none
  ⟨.classUnclosed, open?.getD default, none⟩

def leadingHyphens (verbose : Bool) (start : Position) (c : Cursor) (u : ClassUnion) :
    Except Fault (Cursor × ClassUnion) :=
  match h : c.rest with
  | [] => .ok (c, u)
  | x :: _ =>
    have := Cursor.length_bumpSpace_of_cons verbose h
    if x == '-' then
      let next := c.bumpSpace verbose
      if next.atEnd then refuse .classUnclosed (.point start)
      else leadingHyphens verbose start next (u.push (.literal ⟨c.spanChar, '-', false⟩))
    else .ok (c, u)
termination_by c.rest.length

/-- Reads an opening bracket, its negation and the members that only mean themselves there. -/
def openBracket (verbose : Bool) (s : ClassState) : Except Fault ClassState := do
  let start := s.cursor.pos
  let c := s.cursor.bumpSpace verbose
  if c.atEnd then refuse .classUnclosed ⟨start, c.pos⟩
  let negated := c.char? == some '^'
  let c := if negated then c.bumpSpace verbose else c
  if c.atEnd then refuse .classUnclosed ⟨start, c.pos⟩
  let (c, inner) ← leadingHyphens verbose start c (.emptyAt c.pos)
  if inner.items.isEmpty && c.char? == some ']' then
    let inner := inner.push (.literal ⟨c.spanChar, ']', false⟩)
    let c := c.bumpSpace verbose
    if c.atEnd then refuse .classUnclosed ⟨start, c.pos⟩
    .ok ⟨c, .bracket s.union ⟨start, c.pos⟩ negated :: s.stack, inner⟩
  else .ok ⟨c, .bracket s.union ⟨start, c.pos⟩ negated :: s.stack, inner⟩

def asciiClass? (c : Cursor) : Option (ClassNode × Cursor) := do
  let start := c.pos
  guard (c.startsWith ['[', ':'])
  let c := c.bumpMany 2
  let negated := c.char? == some '^'
  let c := if negated then c.bump else c
  let name := c.rest.takeWhile (· != ':')
  let c := c.bumpMany name.length
  guard (c.startsWith [':', ']'])
  let kind ← AsciiKind.ofName? name
  let c := c.bumpMany 2
  some (.ascii ⟨start, c.pos⟩ kind negated, c)

def item (verbose : Bool) (c : Cursor) : Except Fault (Primitive × Cursor) :=
  match c.char? with
  | some '\\' => Escape.read verbose c
  | some x => .ok (.literal ⟨c.spanChar, x, false⟩, c.bump)
  | none => .ok (.dot (.point c.pos), c)

/-- One member or a range of characters. A hyphen before `]` or before another hyphen makes no
range. -/
def range (verbose : Bool) (s : ClassState) : Except Fault (ClassNode × Cursor) := do
  let (first, c) ← item verbose s.cursor
  let c := c.skipSpace verbose
  if c.atEnd then .error (unclosed s.stack)
  let ahead := c.peekSpace? verbose
  if c.char? != some '-' || ahead == some ']' || ahead == some '-' then
    let node ← first.toClassNode
    .ok (node, c)
  else
    let c := c.bumpSpace verbose
    if c.atEnd then .error (unclosed s.stack)
    let (last, c) ← item verbose c
    let span : Span := ⟨first.span.start, last.span.stop⟩
    let lo ← first.toLiteral
    let hi ← last.toLiteral
    if hi.char < lo.char then refuse .classRangeInvalid span
    .ok (.range span lo hi, c)

def applyPending (rhs : ClassNode) : List ClassFrame → ClassNode × List ClassFrame
  | .operation op lhs :: rest => (.operation ⟨lhs.span.start, rhs.span.stop⟩ op lhs rhs, rest)
  | stack => (rhs, stack)

def pushOperation (op : SetOperation) (s : ClassState) : ClassState :=
  let c := s.cursor.bumpMany 2
  let (lhs, stack) := applyPending s.union.toNode s.stack
  ⟨c, .operation op lhs :: stack, .emptyAt c.pos⟩

inductive Progress
  | more (s : ClassState)
  | done (node : ClassNode) (span : Span) (negated : Bool) (cursor : Cursor)

def closeBracket (s : ClassState) : Except Fault Progress :=
  let (body, stack) := applyPending s.union.toNode s.stack
  let c := s.cursor.bump
  match stack with
  | .bracket outer span negated :: rest =>
    let span : Span := ⟨span.start, c.pos⟩
    if rest.isEmpty then .ok (.done body span negated c)
    else .ok (.more ⟨c, rest, outer.push (.bracket span negated body)⟩)
  | _ => .error (unclosed s.stack)

def operation? (c : Cursor) : Option SetOperation :=
  if c.startsWith ['&', '&'] then some .intersection
  else if c.startsWith ['-', '-'] then some .difference
  else if c.startsWith ['~', '~'] then some .symmetricDifference
  else none

def step (verbose : Bool) (s : ClassState) : Except Fault Progress := do
  let s := { s with cursor := s.cursor.skipSpace verbose }
  match s.cursor.char? with
  | none => .error (unclosed s.stack)
  | some '[' =>
    match (if s.stack.isEmpty then none else asciiClass? s.cursor) with
    | some (node, c) => .ok (.more { s with cursor := c, union := s.union.push node })
    | none => .more <$> openBracket verbose s
  | some ']' => closeBracket s
  | some _ =>
    match operation? s.cursor with
    | some op => .ok (.more (pushOperation op s))
    | none =>
      let (node, c) ← range verbose s
      .ok (.more { s with cursor := c, union := s.union.push node })

/-- Steps until the class is closed. Each step reads a character, so as many steps as there are
characters are enough. -/
def run (verbose : Bool) : Nat → ClassState → Except Fault (Ast × Cursor)
  | 0, s => .error (unclosed s.stack)
  | fuel + 1, s => do
    match ← step verbose s with
    | .more s => run verbose fuel s
    | .done body span negated c => .ok (.bracket span negated body, c)

def read (verbose : Bool) (c : Cursor) : Except Fault (Ast × Cursor) :=
  run verbose (c.rest.length + 1) ⟨c, [], .emptyAt c.pos⟩

end Bracket

end RegexStudio.Pattern
