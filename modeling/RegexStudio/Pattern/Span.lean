import RegexStudio.Text.Bytes

/-! Places in a pattern, and the cursor that reads one. A cursor never looks back: it holds what
is left to read and the place of it. -/

namespace RegexStudio.Pattern

/-- A place between two characters: byte offset, line and column, the last two from 1 on. -/
structure Position where
  offset : Nat
  line : Nat
  column : Nat
deriving DecidableEq, Inhabited, Repr

namespace Position

def origin : Position := ⟨0, 1, 1⟩

def advance (p : Position) (c : Char) : Position :=
  if c = '\n' then ⟨p.offset + c.utf8Size, p.line + 1, 1⟩
  else ⟨p.offset + c.utf8Size, p.line, p.column + 1⟩

end Position

structure Span where
  start : Position
  stop : Position
deriving DecidableEq, Inhabited, Repr

namespace Span

def point (p : Position) : Span := ⟨p, p⟩

def isOneLine (s : Span) : Bool := s.start.line == s.stop.line

end Span

structure Cursor where
  rest : List Char
  pos : Position
deriving Inhabited, Repr

namespace Cursor

def ofText (cs : List Char) : Cursor := ⟨cs, .origin⟩

def atEnd (c : Cursor) : Bool := c.rest.isEmpty

def char? (c : Cursor) : Option Char := c.rest.head?

def peek? (c : Cursor) : Option Char := c.rest[1]?

def bump (c : Cursor) : Cursor :=
  match c.rest with
  | [] => c
  | x :: xs => ⟨xs, c.pos.advance x⟩

def bumpMany : Nat → Cursor → Cursor
  | 0, c => c
  | n + 1, c => bumpMany n c.bump

def spanChar (c : Cursor) : Span := ⟨c.pos, c.bump.pos⟩

def startsWith (c : Cursor) (ahead : List Char) : Bool := ahead.isPrefixOf c.rest

def skipFrom (inComment : Bool) : List Char → Position → Cursor
  | [], p => ⟨[], p⟩
  | x :: xs, p =>
    if inComment then skipFrom (x != '\n') xs (p.advance x)
    else if Text.isBlank x then skipFrom false xs (p.advance x)
    else if x == '#' then skipFrom true xs (p.advance x)
    else ⟨x :: xs, p⟩

def skipSpace (verbose : Bool) (c : Cursor) : Cursor :=
  if verbose then skipFrom false c.rest c.pos else c

def bumpSpace (verbose : Bool) (c : Cursor) : Cursor := c.bump.skipSpace verbose

/-- The first of the characters ahead that is not blank; a `#` hides the one blank-free
character after it. -/
def significant (inComment : Bool) : List Char → Option Char
  | [] => none
  | x :: xs =>
    if Text.isBlank x then significant inComment xs
    else if !inComment && x == '#' then significant true xs
    else some x

def peekSpace? (verbose : Bool) (c : Cursor) : Option Char :=
  if !verbose then c.peek?
  else match c.rest with
    | [] => none
    | _ :: xs => (significant false xs).or xs.head?

theorem skipFrom_length_le (b : Bool) (xs : List Char) (p : Position) :
    (skipFrom b xs p).rest.length ≤ xs.length := by
  induction xs generalizing b p with
  | nil => simp [skipFrom]
  | cons x xs ih =>
    unfold skipFrom
    split
    · exact Nat.le_succ_of_le (ih _ _)
    · split
      · exact Nat.le_succ_of_le (ih _ _)
      · split
        · exact Nat.le_succ_of_le (ih _ _)
        · simp

theorem bumpSpace_length_lt (b : Bool) (c : Cursor) (h : c.rest ≠ []) :
    (c.bumpSpace b).rest.length < c.rest.length := by
  obtain ⟨rest, pos⟩ := c
  cases rest with
  | nil => exact absurd rfl h
  | cons x xs =>
    simp only [bumpSpace, bump, skipSpace, List.length_cons]
    split
    · exact Nat.lt_succ_of_le (skipFrom_length_le _ _ _)
    · simp

theorem length_bumpSpace_of_cons {c : Cursor} {x : Char} {xs : List Char} (b : Bool)
    (h : c.rest = x :: xs) : (c.bumpSpace b).rest.length < c.rest.length :=
  bumpSpace_length_lt b c (h ▸ List.cons_ne_nil x xs)

theorem length_bumpSpace_of_ahead {c : Cursor} {x : Char} {xs : List Char} {b : Bool}
    (h : (c.bumpSpace b).rest = x :: xs) : (c.bumpSpace b).rest.length < c.rest.length := by
  obtain ⟨rest, pos⟩ := c
  cases rest with
  | nil => cases b <;> simp [bumpSpace, bump, skipSpace, skipFrom] at h
  | cons y ys => exact bumpSpace_length_lt b _ (List.cons_ne_nil y ys)

end Cursor

end RegexStudio.Pattern
