import RegexStudio.Engine
import RegexStudio.Pattern.Parser

/-! The parts of a pattern as a tree for display. Every node shows the piece of the pattern that it
stands for and says in words what it does. A pattern that only the backtracking engine reads has a
flat tree of the features that call for that engine. -/

namespace RegexStudio

open Pattern (Ast AssertionKind Count FlagEntry Literal PerlKind)

namespace Outline

structure Range where
  start : Nat
  stop : Nat
deriving DecidableEq, Inhabited, Repr

structure Label where
  kind : String
  text : String
  span : Option Range := none
  detail : Option String := none
  group : Option Nat := none
deriving DecidableEq, Inhabited, Repr

inductive Node
  | mk (label : Label) (children : List Node)
deriving Inhabited, Repr

namespace Node

def label : Node → Label
  | mk label _ => label

def children : Node → List Node
  | mk _ children => children

end Node

def featureNodes (f : Features) : List Node :=
  let node (uses : Bool) (kind text detail : String) : List Node :=
    if uses then [.mk { kind, text, detail := some detail } []] else []
  node f.lookahead "lookahead" "(?=...) / (?!...)"
      "Checks what follows without consuming characters" ++
    node f.lookbehind "lookbehind" "(?<=...) / (?<!...)"
      "Checks what precedes without consuming characters" ++
    node f.backreference "backreference" "\\1, \\2, ..."
      "Matches the same text as a previous capturing group" ++
    node f.atomicGroup "atomic_group" "(?>...)"
      "Prevents backtracking into the group once matched"

/-- The tree of a pattern that is not well formed for the linear engine. -/
def flat (pattern : List Char) : Node :=
  let features := Features.ofPattern pattern
  .mk
    { kind := "backtracking"
      text := String.ofList pattern
      span := some ⟨0, Text.byteLength pattern⟩
      detail := some (features.reason.getD "Pattern requires the fancy-regex engine") }
    (featureNodes features)

def codePoint (c : Char) : String :=
  let digits := (Nat.toDigits 16 c.toNat).map Char.toUpper
  String.ofList (List.replicate (4 - digits.length) '0' ++ digits)

def describeLiteral (c : Char) : String :=
  let quoted := "Literal '" ++ String.singleton c ++ "'"
  if c.isAlphanum then quoted else quoted ++ " (U+" ++ codePoint c ++ ")"

def describeAssertion : AssertionKind → String
  | .startLine => "Start of line/string"
  | .endLine => "End of line/string"
  | .startText => "Start of text (absolute)"
  | .endText => "End of text (absolute)"
  | .wordBoundary => "Word boundary"
  | .notWordBoundary => "Non-word boundary"
  | .wordStart | .wordStartAngle => "Start of word"
  | .wordEnd | .wordEndAngle => "End of word"
  | .wordStartHalf => "Start of word boundary"
  | .wordEndHalf => "End of word boundary"

def describeLetter (c : Char) : String :=
  match c with
  | 'L' => "Unicode Letter"
  | 'N' => "Unicode Number"
  | 'P' => "Unicode Punctuation"
  | 'S' => "Unicode Symbol"
  | 'Z' => "Unicode Separator"
  | 'C' => "Unicode Other/Control"
  | 'M' => "Unicode Mark"
  | c => "Unicode category " ++ String.singleton c

def describeProperty (negated : Bool) (query : Unicode.Query) : String :=
  let detail := match query with
    | .oneLetter c => describeLetter c
    | .named name => "Unicode property: " ++ String.ofList name
    | .valued property value =>
      "Unicode " ++ String.ofList property ++ "=" ++ String.ofList value
  if negated then "Not " ++ detail else detail

def describePerl : PerlKind → Bool → String
  | .digit, false => "Digit character [0-9]"
  | .digit, true => "Non-digit character"
  | .space, false => "Whitespace character"
  | .space, true => "Non-whitespace character"
  | .word, false => "Word character [a-zA-Z0-9_]"
  | .word, true => "Non-word character"

def describeCount (count : Count) (greedy : Bool) : String :=
  let times := match count with
    | .optional => "Zero or one"
    | .any => "Zero or more"
    | .some => "One or more"
    | .exactly n => "Exactly " ++ toString n
    | .atLeast n => toString n ++ " or more"
    | .between lo hi => "Between " ++ toString lo ++ " and " ++ toString hi
  if greedy then times else times ++ " (non-greedy)"

def describeFlag : Pattern.Flag → String
  | .ignoreCase => "case-insensitive"
  | .multiLine => "multi-line mode"
  | .dotAll => "dot matches newline"
  | .swapGreed => "swap greedy/non-greedy"
  | .unicode => "unicode mode"
  | .verbose => "ignore whitespace"
  | .crlf => "CRLF mode"

def splitFlags (entries : List FlagEntry) : List Pattern.Flag × List Pattern.Flag :=
  let flags (es : List FlagEntry) : List Pattern.Flag := es.filterMap fun e =>
    match e.item with
    | .flag f => some f
    | .negation => none
  let isFlag (e : FlagEntry) : Bool := e.item != .negation
  (flags (entries.takeWhile isFlag), flags (entries.dropWhile isFlag))

def describeFlags (entries : List FlagEntry) : String :=
  let names (flags : List Pattern.Flag) : String := ", ".intercalate (flags.map describeFlag)
  match splitFlags entries with
  | ([], []) => "No flags"
  | (on, []) => "Enable " ++ names on
  | ([], off) => "Disable " ++ names off
  | (on, off) => "Enable " ++ names on ++ "; disable " ++ names off

def describe : Ast → String × Option String × Option Nat
  | .empty _ => ("empty", some "Matches the empty string", none)
  | .flags _ entries => ("flags", some (describeFlags entries), none)
  | .literal lit => ("literal", some (describeLiteral lit.char), none)
  | .dot _ => ("any_char", some "Matches any character (except newline by default)", none)
  | .assertion _ kind => ("assertion", some (describeAssertion kind), none)
  | .property _ negated query =>
    ("unicode_class", some (describeProperty negated query), none)
  | .perl _ kind negated => ("perl_class", some (describePerl kind negated), none)
  | .bracket _ negated _ =>
    ("bracketed_class",
      some ("Matches " ++ (if negated then "not " else "") ++ "one of the specified characters"),
      none)
  | .repetition _ count greedy _ => ("repetition", some (describeCount count greedy), none)
  | .group _ (.capture index) _ => ("capturing_group", some "Capturing group", some index)
  | .group _ (.named index name) _ =>
    ("named_group", some ("Named capture: " ++ name), some index)
  | .group _ (.plain []) _ => ("non_capturing_group", some "Non-capturing group", none)
  | .group _ (.plain flags) _ =>
    ("non_capturing_group", some ("Non-capturing group; " ++ describeFlags flags), none)
  | .alternation _ branches =>
    ("alternation", some ("Match one of " ++ toString branches.length ++ " alternatives"), none)
  | .concat _ _ => ("concat", none, none)

def labelOf (pattern : List Char) (ast : Ast) : Label :=
  let (start, stop) := (ast.span.start.offset, ast.span.stop.offset)
  let (kind, detail, group) := describe ast
  { kind, text := String.ofList ((Text.slice pattern start stop).getD []),
    span := some ⟨start, stop⟩, detail, group }

mutual

def nodeOf (pattern : List Char) : Ast → Node
  | .repetition span count greedy sub =>
    .mk (labelOf pattern (.repetition span count greedy sub)) [nodeOf pattern sub]
  | .group span kind sub => .mk (labelOf pattern (.group span kind sub)) [nodeOf pattern sub]
  | .alternation span branches =>
    .mk (labelOf pattern (.alternation span branches)) (nodesOf pattern branches)
  | .concat span items => .mk (labelOf pattern (.concat span items)) (nodesOf pattern items)
  | ast => .mk (labelOf pattern ast) []

def nodesOf (pattern : List Char) : List Ast → List Node
  | [] => []
  | ast :: rest => nodeOf pattern ast :: nodesOf pattern rest

end

end Outline

structure Outline where
  engine : String
  root : Outline.Node
deriving Inhabited, Repr

def Outline.ofPattern (pattern : String) (engine : Engine) : Outline where
  engine := engine.name
  root := match Pattern.parse pattern.toList with
    | .ok ast => nodeOf pattern.toList ast
    | .error _ => flat pattern.toList

end RegexStudio
