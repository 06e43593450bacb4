import RegexStudio.Linear.Expr
import RegexStudio.Pattern.Parser
import RegexStudio.Unicode.Folding

/-! The meaning of a written pattern. Flags hold from where they are set to the end of the
enclosing group. With Unicode off classes and escapes are refused that could match a part of a
character, so that every match is whole text. -/

namespace RegexStudio.Linear

open Pattern Unicode

structure Flags where
  ignoreCase : Bool := false
  multiLine : Bool := false
  dotAll : Bool := false
  swapGreed : Bool := false
  unicode : Bool := true
  crlf : Bool := false
deriving DecidableEq, Inhabited, Repr

namespace Flags

def set (flags : Flags) (flag : Flag) (on : Bool) : Flags :=
  match flag with
  | .ignoreCase => { flags with ignoreCase := on }
  | .multiLine => { flags with multiLine := on }
  | .dotAll => { flags with dotAll := on }
  | .swapGreed => { flags with swapGreed := on }
  | .unicode => { flags with unicode := on }
  | .crlf => { flags with crlf := on }
  | .verbose => flags

def update (flags : Flags) (entries : List FlagEntry) : Flags :=
  (entries.foldl (fun (state : Bool × Flags) e =>
    match e.item with
    | .negation => (false, state.2)
    | .flag f => (state.1, state.2.set f state.1)) (true, flags)).2

end Flags

namespace Meaning

/-- Negates a class; without Unicode the complement holds bytes that are no text. -/
def negate (flags : Flags) (span : Span) (negated : Bool) (s : CharSet) : Except Fault CharSet :=
  if !negated then .ok s
  else if flags.unicode then .ok s.complement
  else refuse .invalidUtf8 span

def fold (flags : Flags) (s : CharSet) : CharSet :=
  if !flags.ignoreCase then s
  else if flags.unicode then s.closeUnderCase else s.closeUnderAsciiCase

def foldAndNegate (flags : Flags) (span : Span) (negated : Bool) (s : CharSet) :
    Except Fault CharSet :=
  negate flags span negated (fold flags s)

def propertyClass (flags : Flags) (span : Span) (negated : Bool) (query : Query) :
    Except Fault CharSet :=
  if !flags.unicode then refuse .unicodeNotAllowed span
  else match Unicode.lookup query with
    | .error .propertyNotFound => refuse .propertyNotFound span
    | .error .valueNotFound => refuse .propertyValueNotFound span
    | .ok s => foldAndNegate flags span negated s

def perlClass (flags : Flags) (span : Span) (kind : PerlKind) (negated : Bool) :
    Except Fault CharSet :=
  let s := match kind, flags.unicode with
    | .digit, true => Unicode.digits
    | .space, true => Unicode.whiteSpace
    | .word, true => Unicode.wordChars
    | .digit, false => CharSet.ofRanges AsciiKind.digit.ranges
    | .space, false => CharSet.ofRanges AsciiKind.space.ranges
    | .word, false => CharSet.ofRanges AsciiKind.word.ranges
  negate flags span negated s

def classLiteral (flags : Flags) (lit : Literal) : Except Fault Nat :=
  if flags.unicode || lit.char.toNat ≤ 0x7F then .ok lit.char.toNat
  else if lit.isByteEscape then refuse .invalidUtf8 lit.span
  else refuse .unicodeNotAllowed lit.span

mutual

def classNode (flags : Flags) : ClassNode → Except Fault CharSet
  | .empty _ => .ok .empty
  | .literal lit => do
    let n ← classLiteral flags lit
    .ok ⟨#[(n, n)]⟩
  | .range _ lo hi => do
    let a ← classLiteral flags lo
    let b ← classLiteral flags hi
    .ok ⟨#[(a, b)]⟩
  | .ascii span kind negated => foldAndNegate flags span negated (.ofRanges kind.ranges)
  | .property span negated query => propertyClass flags span negated query
  | .perl span kind negated => perlClass flags span kind negated
  | .bracket span negated body => do
    let s ← classNode flags body
    foldAndNegate flags span negated s
  | .union _ items => do
    let ranges ← classRanges flags items
    .ok (.ofRanges ranges)
  | .operation _ op lhs rhs => do
    let a ← classNode flags lhs
    let b ← classNode flags rhs
    let a := fold flags a
    let b := fold flags b
    match op with
    | .intersection => .ok (a.inter b)
    | .difference => .ok (a.diff b)
    | .symmetricDifference => .ok (a.symmDiff b)

def classRanges (flags : Flags) : List ClassNode → Except Fault (List (Nat × Nat))
  | [] => .ok []
  | item :: rest => do
    let s ← classNode flags item
    let more ← classRanges flags rest
    .ok (s.ranges.toList ++ more)

end

/-- A literal outside of classes; without Unicode only ASCII letters have two cases. -/
def literal (flags : Flags) (lit : Literal) : Except Fault Expr :=
  let s := CharSet.singleton lit.char
  if flags.unicode then .ok (.set (if flags.ignoreCase then s.closeUnderCase else s))
  else if lit.char.toNat ≤ 0x7F then
    .ok (.set (if flags.ignoreCase then s.closeUnderAsciiCase else s))
  else if lit.isByteEscape then refuse .invalidUtf8 lit.span
  else .ok (.set s)

def dot (flags : Flags) (span : Span) : Except Fault Expr :=
  if !flags.unicode then refuse .invalidUtf8 span
  else if flags.dotAll then .ok (.set .all)
  else if flags.crlf then .ok (.set (CharSet.ofRanges [(0x0A, 0x0A), (0x0D, 0x0D)]).complement)
  else .ok (.set (CharSet.ofRanges [(0x0A, 0x0A)]).complement)

def assertion (flags : Flags) : AssertionKind → Look
  | .startLine =>
    if !flags.multiLine then .start else if flags.crlf then .startLineCrlf else .startLine
  | .endLine => if !flags.multiLine then .stop else if flags.crlf then .endLineCrlf else .endLine
  | .startText => .start
  | .endText => .stop
  | .wordBoundary => .word flags.unicode
  | .notWordBoundary => .notWord flags.unicode
  | .wordStart | .wordStartAngle => .wordStart flags.unicode
  | .wordEnd | .wordEndAngle => .wordEnd flags.unicode
  | .wordStartHalf => .wordStartHalf flags.unicode
  | .wordEndHalf => .wordEndHalf flags.unicode

mutual

def expr (flags : Flags) : Ast → Except Fault (Expr × Flags)
  | .empty _ => .ok (.empty, flags)
  | .flags _ entries => .ok (.empty, flags.update entries)
  | .literal lit => do .ok (← literal flags lit, flags)
  | .dot span => do .ok (← dot flags span, flags)
  | .assertion _ kind => .ok (.look (assertion flags kind), flags)
  | .property span negated query => do
    .ok (.set (← propertyClass flags span negated query), flags)
  | .perl span kind negated => do .ok (.set (← perlClass flags span kind negated), flags)
  | .bracket span negated body => do
    let s ← classNode flags body
    .ok (.set (← foldAndNegate flags span negated s), flags)
  | .repetition _ count greedy sub => do
    let (e, flags) ← expr flags sub
    .ok (.repeated count.min count.max? (greedy != flags.swapGreed) e, flags)
  | .group _ kind sub => do
    match kind with
    | .capture index =>
      let (e, _) ← expr flags sub
      .ok (.cap index none e, flags)
    | .named index name =>
      let (e, _) ← expr flags sub
      .ok (.cap index (some name) e, flags)
    | .plain entries =>
      let (e, _) ← expr (flags.update entries) sub
      .ok (e, flags)
  | .alternation _ branches => do
    let (es, flags) ← exprs flags branches
    .ok (.choice es, flags)
  | .concat _ items => do
    let (es, flags) ← exprs flags items
    .ok (.concat es, flags)

def exprs (flags : Flags) : List Ast → Except Fault (List Expr × Flags)
  | [] => .ok ([], flags)
  | item :: rest => do
    let (e, flags) ← expr flags item
    let (es, flags) ← exprs flags rest
    .ok (e :: es, flags)

end

end Meaning

def meaning (ast : Ast) : Except Fault Expr := do
  let (e, _) ← Meaning.expr {} ast
  .ok e

end RegexStudio.Linear
