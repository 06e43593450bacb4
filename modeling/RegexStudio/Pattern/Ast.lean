import RegexStudio.Pattern.Span
import RegexStudio.Unicode.Property

/-! The syntax of a pattern, as written: every part keeps the span it was read from. -/

namespace RegexStudio.Pattern

inductive Flag
  | ignoreCase
  | multiLine
  | dotAll
  | swapGreed
  | unicode
  | crlf
  | verbose
deriving DecidableEq, Inhabited, Repr

/-- One item of a flag group; the negation turns off every flag after it. -/
inductive FlagItem
  | negation
  | flag (f : Flag)
deriving DecidableEq, Inhabited, Repr

structure FlagEntry where
  span : Span
  item : FlagItem
deriving DecidableEq, Inhabited, Repr

def flagState (flag : Flag) (entries : List FlagEntry) : Option Bool :=
  (entries.foldl (fun (state : Bool × Option Bool) e =>
    match e.item with
    | .negation => (false, state.2)
    | .flag f => if f = flag && state.2.isNone then (state.1, some state.1) else state)
    (true, none)).2

structure Literal where
  span : Span
  char : Char
  /-- Whether it was written as two hexadecimal digits after `\x`, which names a byte where
  Unicode is off. -/
  isByteEscape : Bool
deriving DecidableEq, Inhabited, Repr

inductive AssertionKind
  | startLine
  | endLine
  | startText
  | endText
  | wordBoundary
  | notWordBoundary
  | wordStart
  | wordEnd
  | wordStartAngle
  | wordEndAngle
  | wordStartHalf
  | wordEndHalf
deriving DecidableEq, Inhabited, Repr

inductive PerlKind
  | digit
  | space
  | word
deriving DecidableEq, Inhabited, Repr

inductive AsciiKind
  | alnum | alpha | ascii | blank | cntrl | digit | graph | lower | print | punct | space
  | upper | word | xdigit
deriving DecidableEq, Inhabited, Repr

namespace AsciiKind

def ofName? (name : List Char) : Option AsciiKind :=
  match String.ofList name with
  | "alnum" => some .alnum
  | "alpha" => some .alpha
  | "ascii" => some .ascii
  | "blank" => some .blank
  | "cntrl" => some .cntrl
  | "digit" => some .digit
  | "graph" => some .graph
  | "lower" => some .lower
  | "print" => some .print
  | "punct" => some .punct
  | "space" => some .space
  | "upper" => some .upper
  | "word" => some .word
  | "xdigit" => some .xdigit
  | _ => none

def ranges : AsciiKind → List (Nat × Nat)
  | .alnum => [(0x30, 0x39), (0x41, 0x5A), (0x61, 0x7A)]
  | .alpha => [(0x41, 0x5A), (0x61, 0x7A)]
  | .ascii => [(0, 0x7F)]
  | .blank => [(0x09, 0x09), (0x20, 0x20)]
  | .cntrl => [(0, 0x1F), (0x7F, 0x7F)]
  | .digit => [(0x30, 0x39)]
  | .graph => [(0x21, 0x7E)]
  | .lower => [(0x61, 0x7A)]
  | .print => [(0x20, 0x7E)]
  | .punct => [(0x21, 0x2F), (0x3A, 0x40), (0x5B, 0x60), (0x7B, 0x7E)]
  | .space => [(0x09, 0x0D), (0x20, 0x20)]
  | .upper => [(0x41, 0x5A)]
  | .word => [(0x30, 0x39), (0x41, 0x5A), (0x5F, 0x5F), (0x61, 0x7A)]
  | .xdigit => [(0x30, 0x39), (0x41, 0x46), (0x61, 0x66)]

end AsciiKind

inductive SetOperation
  | intersection
  | difference
  | symmetricDifference
deriving DecidableEq, Inhabited, Repr

inductive ClassNode
  | empty (span : Span)
  | literal (lit : Literal)
  | range (span : Span) (lo hi : Literal)
  | ascii (span : Span) (kind : AsciiKind) (negated : Bool)
  | property (span : Span) (negated : Bool) (query : Unicode.Query)
  | perl (span : Span) (kind : PerlKind) (negated : Bool)
  | bracket (span : Span) (negated : Bool) (body : ClassNode)
  | union (span : Span) (items : List ClassNode)
  | operation (span : Span) (op : SetOperation) (lhs rhs : ClassNode)
deriving Inhabited, Repr

namespace ClassNode

def span : ClassNode → Span
  | .empty span | .range span _ _ | .ascii span _ _ | .property span _ _ | .perl span _ _
  | .bracket span _ _ | .union span _ | .operation span _ _ _ => span
  | .literal lit => lit.span

end ClassNode

inductive Count
  | optional
  | any
  | some
  | exactly (n : Nat)
  | atLeast (n : Nat)
  | between (lo hi : Nat)
deriving DecidableEq, Inhabited, Repr

namespace Count

def isValid : Count → Bool
  | .between lo hi => lo ≤ hi
  | _ => true

def min : Count → Nat
  | .optional | .any => 0
  | .some => 1
  | .exactly n | .atLeast n | .between n _ => n

def max? : Count → Option Nat
  | .optional => Option.some 1
  | .any | .some | .atLeast _ => none
  | .exactly n | .between _ n => Option.some n

end Count

inductive GroupKind
  | capture (index : Nat)
  | named (index : Nat) (name : String)
  | plain (flags : List FlagEntry)
deriving DecidableEq, Inhabited, Repr

inductive Ast
  | empty (span : Span)
  | flags (span : Span) (entries : List FlagEntry)
  | literal (lit : Literal)
  | dot (span : Span)
  | assertion (span : Span) (kind : AssertionKind)
  | property (span : Span) (negated : Bool) (query : Unicode.Query)
  | perl (span : Span) (kind : PerlKind) (negated : Bool)
  | bracket (span : Span) (negated : Bool) (body : ClassNode)
  | repetition (span : Span) (count : Count) (greedy : Bool) (sub : Ast)
  | group (span : Span) (kind : GroupKind) (sub : Ast)
  | alternation (span : Span) (branches : List Ast)
  | concat (span : Span) (items : List Ast)
deriving Inhabited, Repr

namespace Ast

def span : Ast → Span
  | .empty span | .flags span _ | .dot span | .assertion span _ | .property span _ _
  | .perl span _ _ | .bracket span _ _ | .repetition span _ _ _ | .group span _ _
  | .alternation span _ | .concat span _ => span
  | .literal lit => lit.span

def ofItems (span : Span) : List Ast → Ast
  | [] => .empty span
  | [item] => item
  | items => .concat span items

end Ast

end RegexStudio.Pattern
