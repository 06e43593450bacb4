import RegexStudio.Backtracking.Scan

/-! Patterns of the backtracking engine. Flags hold from where they are set to the end of the
group that names flags around it; groups that capture do not bound them. -/

namespace RegexStudio.Backtracking

open Pattern (Cursor)

structure Flags where
  ignoreCase : Bool := false
  multiLine : Bool := false
  dotAll : Bool := false
  swapGreed : Bool := false
  verbose : Bool := false
deriving DecidableEq, Inhabited, Repr

def Flags.set? (flags : Flags) (on : Bool) : Char → Option Flags
  | 'i' => some { flags with ignoreCase := on }
  | 'm' => some { flags with multiLine := on }
  | 's' => some { flags with dotAll := on }
  | 'U' => some { flags with swapGreed := on }
  | 'x' => some { flags with verbose := on }
  | _ => none

structure ParseState where
  cursor : Cursor
  size : Nat
  flags : Flags
  groups : Nat
  names : List (List Char × Nat)
  refs : List Nat
  numbered : Bool
deriving Inhabited

namespace ParseState

def initial (pattern : List Char) : ParseState where
  cursor := .ofText pattern
  size := Text.byteLength pattern
  flags := {}
  groups := 0
  names := []
  refs := []
  numbered := false

def offset (s : ParseState) : Nat := s.cursor.pos.offset

def char? (s : ParseState) : Option Char := s.cursor.char?

def atEnd (s : ParseState) : Bool := s.cursor.atEnd

def bump (s : ParseState) : ParseState := { s with cursor := s.cursor.bump }

def skip (s : ParseState) : Except Refusal ParseState := do
  let c ← Scan.skip s.flags.verbose s.cursor
  .ok { s with cursor := c }

def fail {α : Type} (s : ParseState) (reason : Reason) : Except Refusal α :=
  refuseAt s.offset reason

def close (s : ParseState) : Except Refusal ParseState := do
  let s ← s.skip
  if s.atEnd then s.fail .unclosedGroup
  else if s.char? == some ')' then .ok s.bump
  else s.fail .closeExpected

end ParseState

namespace Parser

open Scan

def nestLimit : Nat := 64

/-- The group that a name stands for: one that has this name, one with this number, or one counted
from the last group opened. -/
def groupOf? (s : ParseState) (name : Name) : Option Nat :=
  match s.names.lookup name.text with
  | some n => some n
  | none => match numberOfName? name.text with
    | some n => some n
    | none => match name.offset with
      | some k =>
        let n : Int := s.groups + (if k < 0 then k + 1 else k)
        if name.text.isEmpty && 0 ≤ n then some n.toNat else none
      | none => none

def namedBackref (opening closing : List Char) (relative : Bool) (s : ParseState) :
    Except Refusal (Node × ParseState) :=
  match name? opening closing relative s.cursor with
  | none => s.fail .invalidGroupName
  | some (name, c) =>
    match groupOf? s name with
    | none => s.fail (.unknownGroupName name.text)
    | some group =>
      let s := { s with cursor := c, refs := group :: s.refs }
      if name.offset.isSome && !name.text.isEmpty then .ok (.leveledBackref group, s)
      else .ok (.backref group s.flags.ignoreCase, s)

def groupNumber (s : ParseState) : Except Refusal (Nat × ParseState) :=
  match number? s.cursor with
  | some (n, c) =>
    if n < s.size / 2 then .ok (n, { s with cursor := c, numbered := true })
    else s.fail .invalidBackref
  | none => s.fail .invalidBackref

def numberedBackref (s : ParseState) : Except Refusal (Node × ParseState) := do
  let (n, s) ← groupNumber s
  .ok (.backref n s.flags.ignoreCase, { s with refs := n :: s.refs })

def namedCall (opening closing : List Char) (relative : Bool) (s : ParseState) :
    Except Refusal (Node × ParseState) :=
  match name? opening closing relative s.cursor with
  | none => s.fail .invalidGroupName
  | some (name, c) =>
    let after := { s with cursor := c }
    if name.offset.isSome && !name.text.isEmpty then s.fail .invalidGroupName
    else match groupOf? s name with
      | some group => .ok (.call group, after)
      | none => .ok (.callByName name.text s.offset, after)

def boundaryOf? (name : List Char) : Option Assertion :=
  match String.ofList name with
  | "start" => some .wordStart
  | "end" => some .wordEnd
  | "start-half" => some .wordStartHalf
  | "end-half" => some .wordEndHalf
  | _ => none

/-- The text up to a closing brace, comments left out, and white space too where it does not count;
nothing if there is no such brace. Of each character the lead byte is kept, so that no character
outside ASCII passes for another. -/
def bracedText (verbose : Bool) : Nat → List Char → Cursor →
    Except Refusal (Option (List Char × Cursor))
  | 0, _, _ => .ok none
  | fuel + 1, text, c => do
    let c ← Scan.skip verbose c
    match c.char? with
    | none => .ok none
    | some x =>
      if x == '\x7d' then .ok (some (text.reverse, c.bump))
      else bracedText verbose fuel (Text.leadByte x :: text) c.bump

def boundary (start : Nat) (letter : Char) (plain : Assertion) (s : ParseState) :
    Except Refusal (Node × ParseState) := do
  let bare := (Node.assertion plain, s)
  let open? ← s.skip
  if open?.char? != some '\x7b' then .ok bare
  else
    let inside ← open?.bump.skip
    if inside.char?.any fun x => Text.isDigit x || x == ',' then .ok bare
    else
      let shown (letter : Char) (text : List Char) : List Char :=
        ['\\', letter, '\x7b'] ++ text ++ ['\x7d']
      let c := inside.cursor
      match ← bracedText s.flags.verbose (c.rest.length + 1) [] c with
      | none => refuseAt start (.invalidEscape (shown 'b' ['.', '.', '.']))
      | some (name, c) =>
        match if letter == 'b' then boundaryOf? name else none with
        | some a => .ok (.assertion a, { inside with cursor := c })
        | none => refuseAt start (.invalidEscape (shown letter name))

def escape (s : ParseState) : Except Refusal (Node × ParseState) := do
  let start := s.offset
  let s := s.bump
  let simple (node : Node) : Except Refusal (Node × ParseState) := .ok (node, s.bump)
  match s.char? with
  | some 'k' =>
    let s := s.bump
    if s.char? == some '\'' then namedBackref ['\''] ['\''] true s
    else namedBackref ['<'] ['>'] true s
  | some 'g' =>
    let s := s.bump
    match s.char? with
    | none => refuseAt start (.invalidEscape ['\\', 'g'])
    | some x =>
      if Text.isDigit x then do
        let (n, s) ← groupNumber s
        .ok (.call n, s)
      else if x == '\'' then namedCall ['\''] ['\''] true s
      else namedCall ['<'] ['>'] true s
  | some 'b' => boundary start 'b' .wordBoundary s.bump
  | some 'B' => boundary start 'B' .notWordBoundary s.bump
  | some 'A' => simple (.assertion .startText)
  | some 'z' => simple (.assertion .endText)
  | some 'Z' => simple .endBeforeLineFeeds
  | some '<' => simple (.assertion .wordStart)
  | some '>' => simple (.assertion .wordEnd)
  | some 'K' => simple .keepOut
  | some 'G' => simple .lastEnd
  | some 'O' => simple (.any true)
  | some x =>
    if Text.isDigit x then numberedBackref s
    else
      let (u, c) ← unit s.flags.verbose start false s.cursor
      let s := { s with cursor := c }
      match u with
      | .char y fixedCase => .ok (.literal y (s.flags.ignoreCase && !fixedCase), s)
      | .charClass text fixedCase =>
        .ok (.charClass text (s.flags.ignoreCase && !fixedCase), s)
  | none => refuseAt start .trailingBackslash

inductive Opening
  | capture
  | atomic
  | look (kind : LookKind)

def Opening.wrap (body : Node) : Opening → Node
  | capture => .group body
  | atomic => .atomic body
  | look kind => .look kind body

def groupName (opening closing : List Char) (start : Nat) (s : ParseState) :
    Except Refusal ParseState :=
  match name? opening closing false s.cursor with
  | none => refuseAt start .invalidGroupName
  | some (name, c) =>
    let n := s.groups + 1
    .ok { s with cursor := c, groups := n, names := (name.text, n) :: s.names }

def lookOf? (s : ParseState) : Option (Opening × Nat) :=
  let starts (mark : String) : Bool := s.cursor.startsWith mark.toList
  if starts "?=" then some (.look .ahead, 2)
  else if starts "?!" then some (.look .notAhead, 2)
  else if starts "?<=" then some (.look .behind, 3)
  else if starts "?<!" then some (.look .notBehind, 3)
  else if starts "?>" then some (.atomic, 2)
  else none

inductive FlagEnd
  | here
  | colon

/-- The flags of a group up to the mark that ends them; `start` is the offset of the first, and
`text` holds what was read from there, the last character first. -/
def flagsFrom (start : Nat) : Nat → Bool → List Char → ParseState →
    Except Refusal (FlagEnd × ParseState)
  | 0, _, _, s => s.fail .unclosedGroup
  | fuel + 1, negated, text, s => do
    let before := s
    let s ← s.skip
    let text := (before.cursor.rest.take (before.cursor.rest.length - s.cursor.rest.length)).reverse
      ++ text
    match s.char? with
    | none => s.fail .unclosedGroup
    | some x =>
      let unknown : Except Refusal (FlagEnd × ParseState) :=
        refuseAt start (.unknownFlag ("(?".toList ++ (x :: text).reverse))
      let offset := s.offset
      match s.flags.set? (!negated) x with
      | some flags => flagsFrom start fuel negated (x :: text) { s.bump with flags }
      | none =>
        if x == 'u' then
          if negated then s.fail .unicodeOff
          else flagsFrom start fuel negated (x :: text) s.bump
        else if x == '-' then
          if negated then unknown else flagsFrom start fuel true (x :: text) s.bump
        else if x == ')' then
          if offset == start || (negated && offset == start + 1) then unknown
          else .ok (.here, s.bump)
        else if x == ':' then
          if negated && offset == start + 1 then unknown else .ok (.colon, s.bump)
        else unknown

mutual

def alternatives : Nat → Nat → ParseState → Except Refusal (Node × ParseState)
  | 0, _, s => s.fail .nestedTooDeep
  | fuel + 1, depth, s => do
    let (first, s) ← sequence fuel depth [] s
    let s ← s.skip
    if s.char? == some '|' then moreAlternatives fuel depth [first] s
    else if s.numbered && !s.names.isEmpty then .error .numberAmongNames
    else .ok (first, s)

def moreAlternatives : Nat → Nat → List Node → ParseState → Except Refusal (Node × ParseState)
  | 0, _, _, s => s.fail .nestedTooDeep
  | fuel + 1, depth, branches, s => do
    if s.char? == some '|' then
      let (branch, s) ← sequence fuel depth [] s.bump
      let s ← s.skip
      moreAlternatives fuel depth (branch :: branches) s
    else .ok (.choice branches.reverse, s)

def sequence : Nat → Nat → List Node → ParseState → Except Refusal (Node × ParseState)
  | 0, _, _, s => s.fail .nestedTooDeep
  | fuel + 1, depth, items, s => do
    if s.atEnd then .ok (.ofItems items.reverse, s)
    else
      let (item, next) ← piece fuel depth s
      if next.offset == s.offset then .ok (.ofItems items.reverse, s)
      else sequence fuel depth (if item.isEmpty then items else item :: items) next

def piece : Nat → Nat → ParseState → Except Refusal (Node × ParseState)
  | 0, _, s => s.fail .nestedTooDeep
  | fuel + 1, depth, s => do
    let (sub, s) ← atom fuel depth s
    let s ← s.skip
    let bounds := match s.char? with
      | some '?' => some ((0, some 1), s)
      | some '*' => some ((0, none), s)
      | some '+' => some ((1, none), s)
      | some '\x7b' =>
        (bounds? s.flags.verbose s.cursor).map fun (b, c) => (b, { s with cursor := c })
      | _ => none
    match bounds with
    | none => .ok (sub, s)
    | some ((lo, hi), s) =>
      if !sub.isRepeatable then s.fail .notRepeatable
      else
        let s ← s.bump.skip
        let lazy := s.char? == some '?'
        let s := if lazy then s.bump else s
        let node := Node.rep lo hi (!lazy != s.flags.swapGreed) sub
        if s.char? == some '+' then .ok (.atomic node, s.bump) else .ok (node, s)

def atom : Nat → Nat → ParseState → Except Refusal (Node × ParseState)
  | 0, _, s => s.fail .nestedTooDeep
  | fuel + 1, depth, s => do
    let s ← s.skip
    match s.char? with
    | none => .ok (.empty, s)
    | some '.' => .ok (.any s.flags.dotAll, s.bump)
    | some '^' =>
      .ok (.assertion (if s.flags.multiLine then .startLine else .startText), s.bump)
    | some '$' => .ok (.assertion (if s.flags.multiLine then .endLine else .endText), s.bump)
    | some '(' => group fuel (depth + 1) s
    | some '\\' => escape s
    | some '[' =>
      let (text, c) ← bracket s.flags.verbose s.size s.cursor
      .ok (.charClass text s.flags.ignoreCase, { s with cursor := c })
    | some x =>
      if x == '+' || x == '*' || x == '?' || x == '|' || x == ')' then .ok (.empty, s)
      else .ok (.literal x s.flags.ignoreCase, s.bump)

def group : Nat → Nat → ParseState → Except Refusal (Node × ParseState)
  | 0, _, s => s.fail .nestedTooDeep
  | fuel + 1, depth, s => do
    if nestLimit ≤ depth then s.fail .nestedTooDeep
    else
      let s ← s.bump.skip
      let starts (mark : String) : Bool := s.cursor.startsWith mark.toList
      let past (n : Nat) : ParseState := { s with cursor := s.cursor.bumpMany n }
      match lookOf? s with
      | some (opening, n) => body fuel depth opening (past n)
      | none =>
        if starts "?<" then
          body fuel depth .capture (← groupName ['<'] ['>'] s.offset (past 1))
        else if starts "?'" then
          body fuel depth .capture (← groupName ['\''] ['\''] s.offset (past 1))
        else if starts "?P<" then
          body fuel depth .capture (← groupName ['<'] ['>'] s.offset (past 2))
        else if starts "?P=" then namedBackref [] [')'] false (past 3)
        else if starts "?P>" then namedCall [] [')'] false (past 3)
        else if starts "?(" then conditional fuel depth (past 2)
        else if starts "?" then
          let flags := s.flags
          let s := past 1
          let (ending, s) ← flagsFrom s.offset (s.cursor.rest.length + 1) false [] s
          match ending with
          | .here => .ok (.empty, s)
          | .colon =>
            let (node, s) ← alternatives fuel depth s
            if s.atEnd then s.fail .unclosedGroup
            else if s.char? != some ')' then s.fail .closeExpected
            else .ok (node, { s.bump with flags })
        else body fuel depth .capture { s with groups := s.groups + 1 }

def body : Nat → Nat → Opening → ParseState → Except Refusal (Node × ParseState)
  | 0, _, _, s => s.fail .nestedTooDeep
  | fuel + 1, depth, opening, s => do
    let (node, s) ← alternatives fuel depth s
    let s ← s.close
    .ok (opening.wrap node, s)

/-- A group with a condition; the cursor stands after the parenthesis of the condition. -/
def conditional : Nat → Nat → ParseState → Except Refusal (Node × ParseState)
  | 0, _, s => s.fail .nestedTooDeep
  | fuel + 1, depth, s => do
    let (test, s) ← (match s.char? with
      | none => s.fail .unclosedGroup
      | some '\'' => namedBackref ['\''] ['\'', ')'] true s
      | some '<' => namedBackref ['<'] ['>', ')'] true s
      | some x =>
        if x == '+' || x == '-' || Text.isDigit x then namedBackref [] [')'] true s
        else do
          let (test, s) ← alternatives fuel depth s
          .ok (test, ← s.close) : Except Refusal (Node × ParseState))
    let (node, next) ← alternatives fuel depth s
    let test? := match test with
      | .backref n _ => some (Node.groupSet n)
      | _ => none
    if next.offset == s.offset then
      match test? with
      | some test => .ok (test, ← next.close)
      | none => next.fail .branchExpected
    else
      let test := test?.getD test
      let (yes, no) := match node with
        | .choice [yes, no] => (yes, no)
        | .choice (yes :: rest) => (yes, .choice rest)
        | node => (node, .empty)
      let next ← next.close
      if yes.isEmpty && no.isEmpty then .ok (test, next)
      else .ok (.condition test yes no, next)

end

/-- Enough steps for a pattern: fewer than ten lie between two characters read. -/
def enough (pattern : List Char) : Nat := 10 * (pattern.length + 2)

end Parser

structure Parsed where
  node : Node
  names : List (List Char × Nat)
  refs : List Nat
deriving Inhabited, Repr

def parse (pattern : List Char) : Except Refusal Parsed := do
  let (node, s) ← Parser.alternatives (Parser.enough pattern) 0 (.initial pattern)
  if s.atEnd then .ok { node, names := s.names, refs := s.refs } else s.fail .endNotReached

end RegexStudio.Backtracking
