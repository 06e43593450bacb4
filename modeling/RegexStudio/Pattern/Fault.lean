import RegexStudio.Pattern.Span

/-! Why a pattern is refused by the linear engine, and the text that shows the place: the pattern
with carets under the faulty spans, then the reason. -/

namespace RegexStudio.Pattern

/-- Causes of a refusal: the first group arises while reading, the second while giving a meaning
to what was read. -/
inductive Reason
  | captureLimitExceeded (limit : Nat)
  | classEscapeInvalid
  | classRangeInvalid
  | classRangeLiteral
  | classUnclosed
  | decimalEmpty
  | decimalInvalid
  | escapeHexEmpty
  | escapeHexInvalid
  | escapeHexInvalidDigit
  | escapeUnexpectedEnd
  | escapeUnrecognized
  | flagDanglingNegation
  | flagDuplicate
  | flagRepeatedNegation
  | flagUnexpectedEnd
  | flagUnrecognized
  | groupNameDuplicate
  | groupNameEmpty
  | groupNameInvalid
  | groupNameUnexpectedEnd
  | groupUnclosed
  | groupUnopened
  | nestLimitExceeded (limit : Nat)
  | repetitionCountInvalid
  | repetitionCountDecimalEmpty
  | repetitionCountUnclosed
  | repetitionMissing
  | wordBoundaryUnclosed
  | wordBoundaryUnrecognized
  | wordBoundaryOrCountUnexpectedEnd
  | propertyEscaped
  | backreference
  | lookAround
  | unicodeNotAllowed
  | invalidUtf8
  | propertyNotFound
  | propertyValueNotFound
deriving DecidableEq, Inhabited, Repr

namespace Reason

def message : Reason → String
  | captureLimitExceeded limit =>
    "exceeded the maximum number of capturing groups (" ++ toString limit ++ ")"
  | classEscapeInvalid => "invalid escape sequence found in character class"
  | classRangeInvalid => "invalid character class range, the start must be <= the end"
  | classRangeLiteral => "invalid range boundary, must be a literal"
  | classUnclosed => "unclosed character class"
  | decimalEmpty => "decimal literal empty"
  | decimalInvalid => "decimal literal invalid"
  | escapeHexEmpty => "hexadecimal literal empty"
  | escapeHexInvalid => "hexadecimal literal is not a Unicode scalar value"
  | escapeHexInvalidDigit => "invalid hexadecimal digit"
  | escapeUnexpectedEnd => "incomplete escape sequence, reached end of pattern prematurely"
  | escapeUnrecognized => "unrecognized escape sequence"
  | flagDanglingNegation => "dangling flag negation operator"
  | flagDuplicate => "duplicate flag"
  | flagRepeatedNegation => "flag negation operator repeated"
  | flagUnexpectedEnd => "expected flag but got end of regex"
  | flagUnrecognized => "unrecognized flag"
  | groupNameDuplicate => "duplicate capture group name"
  | groupNameEmpty => "empty capture group name"
  | groupNameInvalid => "invalid capture group character"
  | groupNameUnexpectedEnd => "unclosed capture group name"
  | groupUnclosed => "unclosed group"
  | groupUnopened => "unopened group"
  | nestLimitExceeded limit =>
    "exceed the maximum number of nested parentheses/brackets (" ++ toString limit ++ ")"
  | repetitionCountInvalid =>
    "invalid repetition count range, the start must be <= the end"
  | repetitionCountDecimalEmpty => "repetition quantifier expects a valid decimal"
  | repetitionCountUnclosed => "unclosed counted repetition"
  | repetitionMissing => "repetition operator missing expression"
  | wordBoundaryUnclosed =>
    "special word boundary assertion is either unclosed or contains an invalid character"
  | wordBoundaryUnrecognized =>
    "unrecognized special word boundary assertion, valid choices are: start, end, start-half " ++
      "or end-half"
  | wordBoundaryOrCountUnexpectedEnd =>
    "found either the beginning of a special word boundary or a bounded repetition on a \\b " ++
      "with an opening brace, but no closing brace"
  | propertyEscaped => "invalid Unicode character class"
  | backreference => "backreferences are not supported"
  | lookAround => "look-around, including look-ahead and look-behind, is not supported"
  | unicodeNotAllowed => "Unicode not allowed here"
  | invalidUtf8 => "pattern can match invalid UTF-8"
  | propertyNotFound => "Unicode property not found"
  | propertyValueNotFound => "Unicode property value not found"

end Reason

structure Fault where
  reason : Reason
  span : Span
  earlier? : Option Span := none
deriving DecidableEq, Inhabited, Repr

namespace Diagnostic

/-- Lines shown, plus one when the pattern ends in a line feed. -/
def lineCount (pattern : List Char) : Nat :=
  (Text.lines pattern).length + (if pattern.getLast? = some '\n' then 1 else 0)

def numberWidth (pattern : List Char) : Nat :=
  let n := lineCount pattern
  if n ≤ 1 then 0 else (toString n).length

def spaces (n : Nat) : String := String.ofList (List.replicate n ' ')

def padLeft (width : Nat) (s : String) : String := spaces (width - s.length) ++ s

/-- Carets under the columns of the spans, which come sorted and lie on one line. -/
def carets (column : Nat) : List Span → String
  | [] => ""
  | s :: rest =>
    let blank := s.start.column - 1 - column
    let width := max 1 (s.stop.column - s.start.column)
    spaces blank ++ String.ofList (List.replicate width '^') ++
      carets (column + blank + width) rest

def annotate (pattern : List Char) (spans : List Span) : String :=
  let width := numberWidth pattern
  let margin := if width = 0 then 4 else width + 2
  let line (entry : List Char × Nat) : String :=
    let number := entry.2 + 1
    let lead := if width = 0 then "    " else padLeft width (toString number) ++ ": "
    let own := spans.filter fun s => s.start.line == number
    let notes := if own.isEmpty then "" else spaces margin ++ carets 0 own ++ "\n"
    lead ++ String.ofList entry.1 ++ "\n" ++ notes
  String.join ((Text.lines pattern).zipIdx.map line)

def divider : String := String.ofList (List.replicate 79 '~')

def sortSpans (spans : List Span) : List Span :=
  spans.mergeSort fun a b =>
    decide (a.start.offset < b.start.offset) ||
      (a.start.offset == b.start.offset && decide (a.stop.offset ≤ b.stop.offset))

def describe (s : Span) : String :=
  "on line " ++ toString s.start.line ++ " (column " ++ toString s.start.column ++
    ") through line " ++ toString s.stop.line ++ " (column " ++ toString (s.stop.column - 1) ++ ")"

end Diagnostic

namespace Fault

def display (pattern : List Char) (fault : Fault) : String :=
  let spans := Diagnostic.sortSpans (fault.span :: fault.earlier?.toList)
  let body := Diagnostic.annotate pattern (spans.filter Span.isOneLine)
  let reason := "error: " ++ fault.reason.message
  if pattern.contains '\n' then
    let long := spans.filter fun s => !s.isOneLine
    let notes :=
      if long.isEmpty then "" else "\n".intercalate (long.map Diagnostic.describe) ++ "\n"
    "regex parse error:\n" ++ Diagnostic.divider ++ "\n" ++ body ++ Diagnostic.divider ++ "\n" ++
      notes ++ reason
  else
    "regex parse error:\n" ++ body ++ reason

end Fault

end RegexStudio.Pattern
