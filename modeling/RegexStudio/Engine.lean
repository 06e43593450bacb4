import RegexStudio.Text.Bytes

/-! The two engines, and what in a pattern calls for which. The linear one refuses look-around,
backreferences and atomic groups. -/

namespace RegexStudio

inductive Engine
  | linear
  | backtracking
deriving DecidableEq, Inhabited, Repr

namespace Engine

def name : Engine → String
  | linear => "regex"
  | backtracking => "fancy-regex"

def ofName? : String → Option Engine
  | "regex" => some linear
  | "fancy-regex" => some backtracking
  | _ => none

end Engine

structure Features where
  lookahead : Bool := false
  lookbehind : Bool := false
  backreference : Bool := false
  atomicGroup : Bool := false
deriving DecidableEq, Inhabited, Repr

namespace Features

def hasNumberedReference : List Char → Bool
  | '\\' :: c :: rest => ('1' ≤ c && c ≤ '9') || hasNumberedReference (c :: rest)
  | _ :: rest => hasNumberedReference rest
  | [] => false

/-- Looks for the spellings of the features, wherever in the pattern they stand. -/
def ofPattern (pattern : List Char) : Features :=
  let uses (s : String) := Text.occurs s.toList pattern
  { lookahead := uses "(?=" || uses "(?!"
    lookbehind := uses "(?<=" || uses "(?<!"
    backreference := hasNumberedReference pattern
    atomicGroup := uses "(?>" }

def needsBacktracking (f : Features) : Bool :=
  f.lookahead || f.lookbehind || f.backreference || f.atomicGroup

def reason (f : Features) : Option String :=
  let reasons := [(f.lookahead, "lookahead assertion"), (f.lookbehind, "lookbehind assertion"),
    (f.backreference, "backreference"), (f.atomicGroup, "atomic group")]
  match (reasons.filter (·.1)).map (·.2) with
  | [] => none
  | names => some ("Pattern uses " ++ ", ".intercalate names)

end Features

def Engine.select (pattern : List Char) : Engine :=
  if (Features.ofPattern pattern).needsBacktracking then .backtracking else .linear

end RegexStudio
