import RegexStudio.Pattern.Escape

/-! What an opening parenthesis begins: a capturing, named or plain group, or flags for the rest
of the enclosing group. -/

namespace RegexStudio.Pattern

abbrev GroupNames := List (String × Span)

inductive Opening
  | flags (span : Span) (entries : List FlagEntry)
  | group (span : Span) (kind : GroupKind)
deriving Inhabited, Repr

namespace Group

def flag? : Char → Option Flag
  | 'i' => some .ignoreCase
  | 'm' => some .multiLine
  | 's' => some .dotAll
  | 'U' => some .swapGreed
  | 'u' => some .unicode
  | 'R' => some .crlf
  | 'x' => some .verbose
  | _ => none

def flags (c : Cursor) (entries : List FlagEntry) : Except Fault (List FlagEntry × Cursor) :=
  match c with
  | ⟨[], p⟩ => .ok (entries.reverse, ⟨[], p⟩)
  | ⟨x :: xs, p⟩ =>
    let here : Span := ⟨p, p.advance x⟩
    if x == ':' || x == ')' then
      match entries with
      | ⟨span, .negation⟩ :: _ => refuse .flagDanglingNegation span
      | _ => .ok (entries.reverse, c)
    else
      let read : Except Fault FlagItem :=
        if x == '-' then .ok .negation
        else match flag? x with
          | some f => .ok (.flag f)
          | none => refuse .flagUnrecognized here
      match read with
      | .error fault => .error fault
      | .ok item =>
        match entries.find? (·.item = item) with
        | some earlier =>
          let reason := if item = .negation then Reason.flagRepeatedNegation else .flagDuplicate
          .error ⟨reason, here, some earlier.span⟩
        | none =>
          if xs.isEmpty then refuse .flagUnexpectedEnd (.point (p.advance x))
          else flags ⟨xs, p.advance x⟩ (⟨here, item⟩ :: entries)
termination_by c.rest.length

def isNameStart (c : Char) : Bool := c == '_' || Unicode.isAlphabetic c

def isNameChar (c : Char) : Bool :=
  c == '_' || c == '.' || c == '[' || c == ']' || Unicode.isAlphanumeric c

def nameChars (start : Position) : List Char → Position → List Char →
    Except Fault (List Char × Cursor)
  | [], p, name => .ok (name.reverse, ⟨[], p⟩)
  | x :: xs, p, name =>
    if x == '>' then .ok (name.reverse, ⟨x :: xs, p⟩)
    else if (if p == start then isNameStart x else isNameChar x) then
      nameChars start xs (p.advance x) (x :: name)
    else refuse .groupNameInvalid ⟨p, p.advance x⟩

def name (names : GroupNames) (c : Cursor) : Except Fault (String × Span × Cursor) := do
  if c.atEnd then refuse .groupNameUnexpectedEnd (.point c.pos)
  let start := c.pos
  let (chars, c) ← nameChars start c.rest c.pos []
  let stop := c.pos
  if c.atEnd then refuse .groupNameUnexpectedEnd (.point stop)
  if chars.isEmpty then refuse .groupNameEmpty (.point start)
  let text := String.ofList chars
  let span : Span := ⟨start, stop⟩
  match names.find? (·.1 == text) with
  | some earlier => .error ⟨.groupNameDuplicate, span, some earlier.2⟩
  | none => .ok (text, span, c.bump)

def isLookAround (c : Cursor) : Option Nat :=
  if c.startsWith ['?', '='] || c.startsWith ['?', '!'] then some 2
  else if c.startsWith ['?', '<', '='] || c.startsWith ['?', '<', '!'] then some 3
  else none

def maxCaptures : Nat := 4294967295

def nextIndex (captures : Nat) (opening : Span) : Except Fault Nat :=
  if captures < maxCaptures then .ok (captures + 1)
  else refuse (.captureLimitExceeded maxCaptures) opening

/-- Reads what follows the opening parenthesis under the cursor. Capturing groups take the number
after the given count. -/
def read (verbose : Bool) (captures : Nat) (names : GroupNames) (c : Cursor) :
    Except Fault (Opening × GroupNames × Cursor) := do
  let opening := c.spanChar
  let c := c.bumpSpace verbose
  match isLookAround c with
  | some n => refuse .lookAround ⟨opening.start, (c.bumpMany n).pos⟩
  | none =>
    let inner : Span := .point c.pos
    let named (n : Nat) : Except Fault (Opening × GroupNames × Cursor) := do
      let index ← nextIndex captures opening
      let (text, span, c) ← name names (c.bumpMany n)
      .ok (.group opening (.named index text), names ++ [(text, span)], c)
    if c.startsWith ['?', 'P', '<'] then named 3
    else if c.startsWith ['?', '<'] then named 2
    else if c.char? == some '?' then
      let c := c.bump
      if c.atEnd then refuse .groupUnclosed opening
      let (entries, c) ← flags c []
      let closed := c.char? == some ')'
      let c := c.bump
      if closed then
        if entries.isEmpty then refuse .repetitionMissing inner
        .ok (.flags ⟨opening.start, c.pos⟩ entries, names, c)
      else .ok (.group opening (.plain entries), names, c)
    else
      let index ← nextIndex captures opening
      .ok (.group opening (.capture index), names, c)

end Group

end RegexStudio.Pattern
