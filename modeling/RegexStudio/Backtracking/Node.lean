/-! Patterns of the backtracking engine. Parts that need no backtracking are kept as text in the
linear engine's notation wherever they stand for one character. -/

namespace RegexStudio.Backtracking

inductive Assertion
  | startText
  | endText
  | startLine
  | endLine
  | wordBoundary
  | notWordBoundary
  | wordStart
  | wordEnd
  | wordStartHalf
  | wordEndHalf
deriving DecidableEq, Inhabited, Repr

inductive LookKind
  | ahead
  | notAhead
  | behind
  | notBehind
deriving DecidableEq, Inhabited, Repr

inductive Node
  | empty
  | any (newline : Bool)
  | assertion (a : Assertion)
  | literal (c : Char) (ignoreCase : Bool)
  | charClass (text : List Char) (ignoreCase : Bool)
  | concat (items : List Node)
  | choice (branches : List Node)
  | group (sub : Node)
  | look (kind : LookKind) (sub : Node)
  | rep (lo : Nat) (hi : Option Nat) (greedy : Bool) (sub : Node)
  | atomic (sub : Node)
  | backref (group : Nat) (ignoreCase : Bool)
  | leveledBackref (group : Nat)
  | keepOut
  | lastEnd
  | groupSet (group : Nat)
  | condition (test yes no : Node)
  | call (group : Nat)
  | callByName (name : List Char) (position : Nat)
deriving Inhabited, Repr

namespace Node

def isEmpty : Node → Bool
  | empty => true
  | _ => false

def isRepeatable : Node → Bool
  | empty | look .. | lastEnd | keepOut | groupSet _ => false
  | _ => true

/-- The end, or a place with nothing but line feeds after it. -/
def endBeforeLineFeeds : Node :=
  look .ahead (concat [rep 0 none true (literal '\n' false), assertion .endText])

def ofItems : List Node → Node
  | [] => empty
  | [item] => item
  | items => concat items

end Node

inductive Reason
  | endNotReached
  | closeExpected
  | branchExpected
  | unclosedGroup
  | nestedTooDeep
  | trailingBackslash
  | invalidEscape (text : List Char)
  | unclosedProperty
  | invalidHex
  | invalidCodePoint
  | invalidClass
  | unknownFlag (text : List Char)
  | unicodeOff
  | invalidBackref
  | invalidGroupName
  | unknownGroupName (name : List Char)
  | notRepeatable
deriving DecidableEq, Inhabited, Repr

namespace Reason

def message : Reason → String
  | endNotReached => "General parsing error: end of string not reached"
  | closeExpected => "General parsing error: expected close paren"
  | branchExpected =>
    "General parsing error: expected conditional to be a backreference or at least an " ++
      "expression for when the condition is true"
  | unclosedGroup => "Opening parenthesis without closing parenthesis"
  | nestedTooDeep => "Pattern too deeply nested"
  | trailingBackslash => "Backslash without following character"
  | invalidEscape text => "Invalid escape: " ++ String.ofList text
  | unclosedProperty => "Unicode escape not closed"
  | invalidHex => "Invalid hex escape"
  | invalidCodePoint => "Invalid codepoint for hex or unicode escape"
  | invalidClass => "Invalid character class"
  | unknownFlag text => "Unknown group flag: " ++ String.ofList text
  | unicodeOff => "Disabling Unicode not supported"
  | invalidBackref => "Invalid back reference"
  | invalidGroupName => "Could not parse group name"
  | unknownGroupName name => "Invalid group name in back reference: " ++ String.ofList name
  | notRepeatable => "Target of repeat operator is invalid"

end Reason

inductive Refusal
  | malformed (position : Nat) (reason : Reason)
  | partRefused
  | partTooLarge
  | lookbehindSize
  | noSuchGroup (group : Nat)
  | numberAmongNames
  | noCalls
  | noLevels
  | noSuchCall (name : List Char) (position : Nat)
deriving DecidableEq, Inhabited, Repr

namespace Refusal

def message : Refusal → String
  | malformed position reason =>
    "Parsing error at position " ++ toString position ++ ": " ++ reason.message
  | partRefused => "Error compiling regex: Regex error: error parsing pattern 0"
  | partTooLarge => "Error compiling regex: Regex error: error building NFA"
  | lookbehindSize => "Error compiling regex: Look-behind assertion without constant size"
  | noSuchGroup group =>
    "Error compiling regex: Invalid back reference to group " ++ toString group
  | numberAmongNames =>
    "Error compiling regex: Numbered backref/call not allowed because named group was used, " ++
      "use a named backref instead"
  | noCalls =>
    "Error compiling regex: Regex uses currently unimplemented feature: Subroutine Call"
  | noLevels =>
    "Error compiling regex: Regex uses currently unimplemented feature: Backref at recursion level"
  | noSuchCall name position =>
    "Error compiling regex: Subroutine call target not found at position " ++
      toString position ++ ": " ++ String.ofList name

end Refusal

end RegexStudio.Backtracking
