import RegexStudio.Text.Bytes

/-! Replacement templates: text with references to groups, written `$1`, `$name` or `${name}`; `$$`
is a dollar sign. References are checked against the groups of a pattern before they are used, so
a misspelt one is an error and not an empty text. -/

namespace RegexStudio

inductive ReplacementError
  | unclosedBrace (position : Nat)
  | emptyGroupName (position : Nat)
  | groupOutOfRange (index max : Nat)
  | unknownGroup (name : String)
  | runtime (message : String)
deriving DecidableEq, Inhabited, Repr

namespace ReplacementError

def message : ReplacementError → String
  | unclosedBrace position => "unclosed '$\x7b' at position " ++ toString position
  | emptyGroupName position => "empty group name '$\x7b\x7d' at position " ++ toString position
  | groupOutOfRange index max =>
    "group " ++ toString index ++ " does not exist (highest group is " ++ toString max ++ ")"
  | unknownGroup name => "no group named '" ++ name ++ "'"
  | runtime message => "replacement failed: " ++ message

/-- The name of a group that starts with digits, as a reference to a number with text after it. -/
def respelling (name : List Char) : List Char :=
  ['$', '\x7b'] ++ name.takeWhile Text.isDigit ++ ['\x7d'] ++ name.dropWhile Text.isDigit

def suggestion : ReplacementError → Option String
  | unclosedBrace _ => some "Add a closing '\x7d' or write '$$' for a literal dollar sign"
  | unknownGroup name =>
    if name.toList.head?.any Text.isDigit then
      some ("Use '" ++ String.ofList (respelling name.toList) ++
        "' to follow a group number with text")
    else none
  | _ => none

end ReplacementError

inductive GroupRef
  | index (n : Nat)
  | name (s : String)
deriving DecidableEq, Inhabited, Repr

namespace GroupRef

def maxIndex : Nat := 18446744073709551615

def ofName (cs : List Char) : GroupRef :=
  if cs.all Text.isDigit && Text.decimalValue cs ≤ maxIndex then .index (Text.decimalValue cs)
  else .name (String.ofList cs)

end GroupRef

namespace Template

inductive Piece
  | literal (s : List Char)
  | group (r : GroupRef)
deriving DecidableEq, Inhabited, Repr

end Template

structure Template where
  pieces : List Template.Piece
deriving DecidableEq, Inhabited, Repr

namespace Template

def isNameChar (c : Char) : Bool :=
  c == '_' || Text.isDigit c || ('a' ≤ c && c ≤ 'z') || ('A' ≤ c && c ≤ 'Z')

/-- What the dollar sign at a position stands for, given the text after it, and what follows. -/
def afterDollar (position : Nat) : List Char → Except ReplacementError (Piece × List Char)
  | '$' :: rest => .ok (.literal ['$'], rest)
  | '\x7b' :: rest =>
    match rest.dropWhile (· != '\x7d') with
    | [] => .error (.unclosedBrace position)
    | _ :: more =>
      let name := rest.takeWhile (· != '\x7d')
      if name.isEmpty then .error (.emptyGroupName position)
      else .ok (.group (.ofName name), more)
  | rest =>
    let name := rest.takeWhile isNameChar
    if name.isEmpty then .ok (.literal ['$'], rest)
    else .ok (.group (.ofName name), rest.dropWhile isNameChar)

theorem length_afterDollar {position : Nat} {cs rest : List Char} {piece : Piece}
    (h : afterDollar position cs = .ok (piece, rest)) : rest.length ≤ cs.length := by
  unfold afterDollar at h
  split at h
  · cases h
    simp
  · rename_i more
    have hle := (List.dropWhile_sublist (· != '\x7d') (l := more)).length_le
    split at h
    · cases h
    · rename_i heq
      rw [heq] at hle
      dsimp only at h
      split at h
      · cases h
      · cases h
        simp only [List.length_cons] at hle ⊢
        omega
  · dsimp only at h
    split at h
    · cases h
      exact Nat.le_refl _
    · cases h
      exact (List.dropWhile_sublist _).length_le

/-- The pieces of a template from a position on, one for each dollar sign and each stretch of text
between them. -/
def scan (position : Nat) (cs : List Char) : Except ReplacementError (List Piece) :=
  let plain := cs.takeWhile (· != '$')
  match h : cs.dropWhile (· != '$') with
  | [] => .ok [.literal plain]
  | _ :: rest =>
    match hd : afterDollar (position + Text.byteLength plain) rest with
    | .error e => .error e
    | .ok (piece, more) =>
      have : more.length < cs.length := by
        have hle := (List.dropWhile_sublist (· != '$') (l := cs)).length_le
        have hmore := length_afterDollar hd
        rw [h, List.length_cons] at hle
        omega
      match scan (position + (Text.byteLength cs - Text.byteLength more)) more with
      | .error e => .error e
      | .ok pieces => .ok (.literal plain :: piece :: pieces)
termination_by cs.length

/-- Puts a piece in front of others; literals that meet become one, and empty ones vanish. -/
def attach : Piece → List Piece → List Piece
  | .literal [], pieces => pieces
  | .literal s, .literal t :: pieces => .literal (s ++ t) :: pieces
  | piece, pieces => piece :: pieces

def parse (template : String) : Except ReplacementError Template :=
  (scan 0 template.toList).map fun pieces => ⟨pieces.foldr attach []⟩

def refs (t : Template) : List GroupRef :=
  t.pieces.filterMap fun
    | .group r => some r
    | .literal _ => none

def unresolved (groups : List (Option String)) : GroupRef → Option ReplacementError
  | .index n => if n < groups.length then none else some (.groupOutOfRange n (groups.length - 1))
  | .name s => if groups.contains (some s) then none else some (.unknownGroup s)

def validate (t : Template) (groups : List (Option String)) : Except ReplacementError Unit :=
  match t.refs.findSome? (unresolved groups) with
  | some e => .error e
  | none => .ok ()

def compile (template : String) (groups : List (Option String)) :
    Except ReplacementError Template := do
  let t ← parse template
  t.validate groups
  .ok t

def expand (t : Template) (lookup : GroupRef → Option String) : String :=
  String.join (t.pieces.map fun
    | .literal s => String.ofList s
    | .group r => (lookup r).getD "")

end Template

end RegexStudio
