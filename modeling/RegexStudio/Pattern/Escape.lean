import RegexStudio.Pattern.Ast
import RegexStudio.Pattern.Fault

/-! Escape sequences: what may follow a backslash, outside and inside a bracketed class. -/

namespace RegexStudio.Pattern

def refuse {α : Type} (reason : Reason) (span : Span) : Except Fault α :=
  .error { reason, span }

inductive Primitive
  | literal (lit : Literal)
  | assertion (span : Span) (kind : AssertionKind)
  | dot (span : Span)
  | perl (span : Span) (kind : PerlKind) (negated : Bool)
  | property (span : Span) (negated : Bool) (query : Unicode.Query)
deriving Inhabited, Repr

namespace Primitive

def span : Primitive → Span
  | .literal lit => lit.span
  | .assertion span _ | .dot span | .perl span _ _ | .property span _ _ => span

def toAst : Primitive → Ast
  | .literal lit => .literal lit
  | .assertion span kind => .assertion span kind
  | .dot span => .dot span
  | .perl span kind negated => .perl span kind negated
  | .property span negated query => .property span negated query

def toClassNode : Primitive → Except Fault ClassNode
  | .literal lit => .ok (.literal lit)
  | .perl span kind negated => .ok (.perl span kind negated)
  | .property span negated query => .ok (.property span negated query)
  | .assertion span _ | .dot span => refuse .classEscapeInvalid span

def toLiteral : Primitive → Except Fault Literal
  | .literal lit => .ok lit
  | p => refuse .classRangeLiteral p.span

end Primitive

def isMeta (c : Char) : Bool :=
  ['\\', '.', '+', '*', '?', '(', ')', '|', '[', ']', '\x7b', '\x7d', '^', '$', '#', '&', '-',
    '~'].contains c

def isEscapable (c : Char) : Bool :=
  c.toNat ≤ 0x7F && !c.isAlphanum && c != '<' && c != '>'

namespace Escape

def bracedDigits (verbose : Bool) (c : Cursor) (digits : List Char) :
    Except Fault (List Char × Cursor) :=
  match h : (c.bumpSpace verbose).rest with
  | [] => .ok (digits.reverse, c.bumpSpace verbose)
  | x :: _ =>
    have := Cursor.length_bumpSpace_of_ahead h
    if x == '\x7d' then .ok (digits.reverse, c.bumpSpace verbose)
    else if !Text.isHexDigit x then
      refuse .escapeHexInvalidDigit (c.bumpSpace verbose).spanChar
    else bracedDigits verbose (c.bumpSpace verbose) (x :: digits)
termination_by c.rest.length

def hexScalar? (digits : List Char) : Option Char := Text.scalar? (Text.hexadecimalValue digits)

def braced (verbose : Bool) (c : Cursor) : Except Fault (Literal × Cursor) := do
  let brace := c.pos
  let start := c.bump.pos
  let (digits, c) ← bracedDigits verbose c []
  if c.atEnd then refuse .escapeUnexpectedEnd ⟨brace, c.pos⟩
  let stop := c.pos
  let c := c.bumpSpace verbose
  if digits.isEmpty then refuse .escapeHexEmpty ⟨brace, c.pos⟩
  match hexScalar? digits with
  | none => refuse .escapeHexInvalid ⟨start, stop⟩
  | some x => .ok (⟨⟨start, c.pos⟩, x, false⟩, c)

def fixedDigits (verbose : Bool) : Nat → Cursor → List Char → Except Fault (List Char × Cursor)
  | 0, c, digits => .ok (digits.reverse, c)
  | n + 1, c, digits => do
    let c := if digits.isEmpty then c else c.bumpSpace verbose
    match c.char? with
    | none => refuse .escapeUnexpectedEnd (.point c.pos)
    | some x =>
      if !Text.isHexDigit x then refuse .escapeHexInvalidDigit c.spanChar
      fixedDigits verbose n c (x :: digits)

def fixed (verbose : Bool) (count : Nat) (c : Cursor) : Except Fault (Literal × Cursor) := do
  let start := c.pos
  let (digits, c) ← fixedDigits verbose count c []
  let c := c.bumpSpace verbose
  match hexScalar? digits with
  | none => refuse .escapeHexInvalid ⟨start, c.pos⟩
  | some x => .ok (⟨⟨start, c.pos⟩, x, count == 2⟩, c)

def hexadecimal (verbose : Bool) (letter : Char) (c : Cursor) :
    Except Fault (Literal × Cursor) := do
  let count := if letter == 'x' then 2 else if letter == 'u' then 4 else 8
  let c := c.bumpSpace verbose
  match c.char? with
  | none => refuse .escapeUnexpectedEnd (.point c.pos)
  | some '\x7b' => braced verbose c
  | some _ => fixed verbose count c

def bracedName (verbose : Bool) (c : Cursor) (name : List Char) : List Char × Cursor :=
  match h : (c.bumpSpace verbose).rest with
  | [] => (name.reverse, c.bumpSpace verbose)
  | x :: _ =>
    have := Cursor.length_bumpSpace_of_ahead h
    if x == '\x7d' then (name.reverse, c.bumpSpace verbose)
    else bracedName verbose (c.bumpSpace verbose) (x :: name)
termination_by c.rest.length

def cutAt (mark : List Char) : List Char → Option (List Char × List Char)
  | [] => none
  | x :: xs =>
    if mark.isPrefixOf (x :: xs) then some ([], (x :: xs).drop mark.length)
    else (cutAt mark xs).map fun (before, after) => (x :: before, after)

/-- How the inside of the braces is meant: `name!=value`, `name:value`, `name=value` or a name. -/
def queryOfName (name : List Char) : Unicode.Query :=
  match cutAt ['!', '='] name with
  | some (property, value) => .valued property value
  | none => match cutAt [':'] name with
    | some (property, value) => .valued property value
    | none => match cutAt ['='] name with
      | some (property, value) => .valued property value
      | none => .named name

def property (verbose : Bool) (start : Position) (letter : Char) (c : Cursor) :
    Except Fault (Primitive × Cursor) := do
  let negated := letter == 'P'
  let c := c.bumpSpace verbose
  match c.char? with
  | none => refuse .escapeUnexpectedEnd (.point c.pos)
  | some '\x7b' =>
    let (name, c) := bracedName verbose c []
    if c.atEnd then refuse .escapeUnexpectedEnd (.point c.pos)
    let c := c.bump
    .ok (.property ⟨start, c.pos⟩ negated (queryOfName name), c)
  | some '\\' => refuse .propertyEscaped c.spanChar
  | some x =>
    let c := c.bumpSpace verbose
    .ok (.property ⟨start, c.pos⟩ negated (.oneLetter x), c)

def isBoundaryNameChar (c : Char) : Bool :=
  ('A' ≤ c && c ≤ 'Z') || ('a' ≤ c && c ≤ 'z') || c == '-'

def boundaryName (verbose : Bool) (c : Cursor) (name : List Char) : List Char × Cursor :=
  match h : c.rest with
  | [] => (name.reverse, c)
  | x :: _ =>
    have := Cursor.length_bumpSpace_of_cons verbose h
    if isBoundaryNameChar x then boundaryName verbose (c.bumpSpace verbose) (x :: name)
    else (name.reverse, c)
termination_by c.rest.length

def boundaryOfName? (name : List Char) : Option AssertionKind :=
  match String.ofList name with
  | "start" => some .wordStart
  | "end" => some .wordEnd
  | "start-half" => some .wordStartHalf
  | "end-half" => some .wordEndHalf
  | _ => none

/-- What stands in braces after a word boundary; nothing when the braces hold a count. -/
def specialBoundary (verbose : Bool) (start : Position) (c : Cursor) :
    Except Fault (Option (AssertionKind × Cursor)) := do
  let brace := c.pos
  let inside := c.bumpSpace verbose
  match inside.char? with
  | none => refuse .wordBoundaryOrCountUnexpectedEnd ⟨start, inside.pos⟩
  | some x =>
    if !isBoundaryNameChar x then .ok none
    else
      let (name, c) := boundaryName verbose inside []
      if c.char? != some '\x7d' then refuse .wordBoundaryUnclosed ⟨brace, c.pos⟩
      match boundaryOfName? name with
      | none => refuse .wordBoundaryUnrecognized ⟨inside.pos, c.pos⟩
      | some kind => .ok (some (kind, c.bump))

def control? : Char → Option Char
  | 'a' => some '\x07'
  | 'f' => some '\x0C'
  | 't' => some '\t'
  | 'n' => some '\n'
  | 'r' => some '\r'
  | 'v' => some '\x0B'
  | _ => none

def perl? : Char → Option (PerlKind × Bool)
  | 'd' => some (.digit, false)
  | 'D' => some (.digit, true)
  | 's' => some (.space, false)
  | 'S' => some (.space, true)
  | 'w' => some (.word, false)
  | 'W' => some (.word, true)
  | _ => none

def assertion? : Char → Option AssertionKind
  | 'A' => some .startText
  | 'z' => some .endText
  | 'B' => some .notWordBoundary
  | '<' => some .wordStartAngle
  | '>' => some .wordEndAngle
  | _ => none

def read (verbose : Bool) (c : Cursor) : Except Fault (Primitive × Cursor) := do
  let start := c.pos
  let c := c.bump
  match c.char? with
  | none => refuse .escapeUnexpectedEnd ⟨start, c.pos⟩
  | some x =>
    if Text.isDigit x then refuse .backreference ⟨start, c.bump.pos⟩
    else if x == 'x' || x == 'u' || x == 'U' then
      let (lit, c) ← hexadecimal verbose x c
      .ok (.literal ⟨⟨start, lit.span.stop⟩, lit.char, lit.isByteEscape && x == 'x'⟩, c)
    else if x == 'p' || x == 'P' then property verbose start x c
    else
      let c := c.bump
      let span : Span := ⟨start, c.pos⟩
      match perl? x with
      | some (kind, negated) => .ok (.perl span kind negated, c)
      | none =>
        if isMeta x || isEscapable x then .ok (.literal ⟨span, x, false⟩, c)
        else match control? x, assertion? x with
          | some y, _ => .ok (.literal ⟨span, y, false⟩, c)
          | none, some kind => .ok (.assertion span kind, c)
          | none, none =>
            if x != 'b' then refuse .escapeUnrecognized span
            else if c.char? != some '\x7b' then .ok (.assertion span .wordBoundary, c)
            else match ← specialBoundary verbose start c with
              | none => .ok (.assertion span .wordBoundary, c)
              | some (kind, c) => .ok (.assertion ⟨start, c.pos⟩ kind, c)

end Escape

end RegexStudio.Pattern
