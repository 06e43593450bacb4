import RegexStudio.Text.Bytes

/-! What is asked of a pattern: its tree, its matches, or a text with them replaced. -/

namespace RegexStudio

inductive Mode
  | tree
  | find
  | replace
deriving DecidableEq, Inhabited, Repr

namespace Mode

def standard : Mode := find

def name : Mode → String
  | tree => "syntax"
  | find => "find"
  | replace => "replace"

def ofName? : String → Option Mode
  | "syntax" => some tree
  | "find" => some find
  | "replace" => some replace
  | _ => none

/-- The mode that a name means; case and blanks around the name do not count. -/
def parse (name : String) : Option Mode :=
  ofName? (String.ofList ((Text.trim name.toList).map Text.lowerAscii))

end Mode

end RegexStudio
