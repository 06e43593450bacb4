import RegexStudio.Backtracking.Node
import RegexStudio.Pattern.Escape

/-! Small pieces of a pattern: what is skipped between its parts, numbers, names, hexadecimal
digits and bracketed classes. -/

namespace RegexStudio.Backtracking

open Pattern (Cursor Position)

def refuseAt {α : Type} (position : Nat) (reason : Reason) : Except Refusal α :=
  .error (.malformed position reason)

namespace Scan

inductive Skipping
  | nothing
  | line
  | comment
  | escaped
deriving DecidableEq, Inhabited, Repr

def isSpace (c : Char) : Bool := c == ' ' || c == '\r' || c == '\n' || c == '\t'

/-- Skips comments in parentheses; where white space does not count, also blanks and comments to
the end of the line. -/
def skipFrom (verbose : Bool) : Skipping → List Char → Position → Except Refusal Cursor
  | .nothing, [], p | .line, [], p => .ok ⟨[], p⟩
  | .comment, [], p => refuseAt p.offset .unclosedGroup
  | .escaped, [], p => refuseAt (p.offset + 1) .unclosedGroup
  | .nothing, '(' :: '?' :: '#' :: rest, p =>
    skipFrom verbose .comment rest (((p.advance '(').advance '?').advance '#')
  | .nothing, x :: rest, p =>
    if verbose && x == '#' then skipFrom verbose .line rest (p.advance x)
    else if verbose && isSpace x then skipFrom verbose .nothing rest (p.advance x)
    else .ok ⟨x :: rest, p⟩
  | .line, x :: rest, p =>
    skipFrom verbose (if x == '\n' then .nothing else .line) rest (p.advance x)
  | .comment, x :: rest, p =>
    let next := if x == ')' then .nothing else if x == '\\' then .escaped else .comment
    skipFrom verbose next rest (p.advance x)
  | .escaped, x :: rest, p => skipFrom verbose .comment rest (p.advance x)

def skip (verbose : Bool) (c : Cursor) : Except Refusal Cursor :=
  skipFrom verbose .nothing c.rest c.pos

def maxNumber : Nat := 18446744073709551615

def number? (c : Cursor) : Option (Nat × Cursor) :=
  let digits := c.rest.takeWhile Text.isDigit
  if digits.isEmpty || maxNumber < Text.decimalValue digits then none
  else some (Text.decimalValue digits, c.bumpMany digits.length)

/-- The bounds of a repetition in braces; the cursor stands at the opening brace. A text that is
no repetition is meant literally. -/
def bounds? (verbose : Bool) (c : Cursor) : Option ((Nat × Option Nat) × Cursor) := do
  let skip (c : Cursor) : Option Cursor := (Scan.skip verbose c).toOption
  let c ← skip c.bump
  let (lo, c) ← if c.char? == some ',' then some (0, c) else number? c
  let c ← skip c
  let (hi, c) ← match c.char? with
    | some '\x7d' => some (some lo, c)
    | some ',' => do
      let c ← skip c.bump
      match number? c with
      | some (hi, c) => some (some hi, c)
      | none => some (none, c)
    | _ => none
  let c ← skip c
  if c.char? == some '\x7d' then some ((lo, if hi == some maxNumber then none else hi), c)
  else none

def isNameChar (c : Char) : Bool := c == '_' || Unicode.isAlphanumeric c

structure Name where
  text : List Char
  offset : Option Int

/-- An offset is a signed number of 64 bits. -/
def wrap (n : Int) : Int := n.bmod 18446744073709551616

def name? (opening closing : List Char) (relative : Bool) (c : Cursor) : Option (Name × Cursor) :=
  if !c.startsWith opening ||
      Text.byteLength c.rest ≤ Text.byteLength opening + Text.byteLength closing then none
  else
    let c := c.bumpMany opening.length
    let text := c.rest.takeWhile isNameChar
    let c := c.bumpMany text.length
    if !text.isEmpty && c.startsWith closing then
      some (⟨text, none⟩, c.bumpMany closing.length)
    else
      match c.char? with
      | some sign =>
        if relative && (sign == '+' || sign == '-') then
          match number? c.bump with
          | some (n, c) =>
            if c.startsWith closing && !(n == 0 && text.isEmpty) then
              let offset := wrap n
              some (⟨text, some (if sign == '-' then wrap (-offset) else offset)⟩,
                c.bumpMany closing.length)
            else none
          | none => none
        else none
      | none => none

def numberOfName? (name : List Char) : Option Nat :=
  if !name.isEmpty && name.all Text.isDigit && Text.decimalValue name ≤ maxNumber then
    some (Text.decimalValue name)
  else none

def bracedDigits (verbose : Bool) (start : Nat) :
    Nat → List Char → Cursor → Except Refusal (List Char × Cursor)
  | 0, digits, c => do
    let c ← skip verbose c
    if c.char? == some '\x7d' then .ok (digits.reverse, c.bump) else refuseAt start .invalidHex
  | n + 1, digits, c => do
    let c ← skip verbose c
    match c.char? with
    | none => refuseAt start .invalidHex
    | some x =>
      if x == '\x7d' && !digits.isEmpty then .ok (digits.reverse, c.bump)
      else if Text.isHexDigit x then bracedDigits verbose start n (x :: digits) c.bump
      else refuseAt start .invalidHex

def hex (verbose : Bool) (count : Nat) (c : Cursor) : Except Refusal (Char × Cursor) := do
  let c ← skip verbose c
  let start := c.pos.offset
  let fixed := c.rest.take count
  let (digits, c) ← (do
    if fixed.length == count && fixed.all Text.isHexDigit then .ok (fixed, c.bumpMany count)
    else if c.char? == some '\x7b' then bracedDigits verbose start 8 [] c.bump
    else refuseAt start .invalidHex : Except Refusal (List Char × Cursor))
  match Text.scalar? (Text.hexadecimalValue digits) with
  | some x => .ok (x, c)
  | none => refuseAt start .invalidCodePoint

def property (start : Nat) (letter : Char) (c : Cursor) : Except Refusal (List Char × Cursor) :=
  let head := ['\\', letter]
  match c.char? with
  | some '\x7b' =>
    let inside := c.rest.takeWhile (· != '\x7d')
    let c := c.bumpMany inside.length
    if c.atEnd then refuseAt start .unclosedProperty
    else .ok (head ++ inside ++ ['\x7d'], c.bump)
  | some x => .ok (head ++ [x], c.bump)
  | none => refuseAt start (.invalidEscape head)

def control? : Char → Option Char
  | 'a' => some '\x07'
  | 'f' => some '\x0C'
  | 'n' => some '\n'
  | 'r' => some '\r'
  | 't' => some '\t'
  | 'v' => some '\x0B'
  | 'e' => some '\x1B'
  | _ => none

def hexDigitClass : List Char := "[0-9A-Fa-f]".toList

def notHexDigitClass : List Char := "[^0-9A-Fa-f]".toList

def plainInClass : List Char := ['k', 'A', 'z', 'B', 'K', 'G']

/-- A character or a class that a backslash begins; one with fixed case takes no notice of the flag
that ignores case. -/
inductive Unit
  | char (c : Char) (fixedCase : Bool)
  | charClass (text : List Char) (fixedCase : Bool)

def unit (verbose : Bool) (start : Nat) (inClass : Bool) (c : Cursor) :
    Except Refusal (Unit × Cursor) := do
  match c.char? with
  | none => refuseAt start .trailingBackslash
  | some x =>
    let after := c.bump
    if ['d', 'D', 's', 'S', 'w', 'W'].contains x then
      .ok (.charClass ['\\', x] false, after)
    else if x == 'h' then .ok (.charClass hexDigitClass true, after)
    else if x == 'H' then .ok (.charClass notHexDigitClass true, after)
    else if x == 'x' || x == 'u' || x == 'U' then
      let (y, after) ← hex verbose (if x == 'x' then 2 else if x == 'u' then 4 else 8) after
      .ok (.char y false, after)
    else if x == 'p' || x == 'P' then
      let (text, after) ← property start x after
      .ok (.charClass text false, after)
    else if let some y := control? x then .ok (.char y true, after)
    else if inClass && x == 'b' then .ok (.char '\x08' true, after)
    else if x.isAlpha && !(inClass && plainInClass.contains x) then
      refuseAt start (.invalidEscape ['\\', x])
    else .ok (.char x true, after)

def quoted (c : Char) : List Char := if Pattern.isMeta c then ['\\', c] else [c]

def classEscape (verbose : Bool) (start : Nat) (size : Nat) (c : Cursor) :
    Except Refusal (List Char × Cursor) := do
  match c.char? with
  | some x =>
    if Text.isDigit x then
      match number? c with
      | some (n, _) =>
        if n < size / 2 then refuseAt start .invalidClass
        else refuseAt c.pos.offset .invalidBackref
      | none => refuseAt c.pos.offset .invalidBackref
    else
      let (u, c) ← unit verbose start true c
      match u with
      | .char y _ => .ok (quoted y, c)
      | .charClass text _ => .ok (text, c)
  | none => refuseAt start .trailingBackslash

def classFrom (verbose : Bool) (size : Nat) :
    Nat → Nat → List Char → Cursor → Except Refusal (List Char × Cursor)
  | 0, _, _, c => refuseAt c.pos.offset .invalidClass
  | fuel + 1, nest, text, c =>
    match c.char? with
    | none => refuseAt c.pos.offset .invalidClass
    | some '\\' => do
      let (piece, c) ← classEscape verbose c.pos.offset size c.bump
      classFrom verbose size fuel nest (piece.reverse ++ text) c
    | some '[' => classFrom verbose size fuel (nest + 1) ('[' :: text) c.bump
    | some ']' =>
      if nest == 1 then .ok ((']' :: text).reverse, c.bump)
      else classFrom verbose size fuel (nest - 1) (']' :: text) c.bump
    | some x => classFrom verbose size fuel nest (x :: text) c.bump

def bracket (verbose : Bool) (size : Nat) (c : Cursor) : Except Refusal (List Char × Cursor) :=
  let (text, c) := (['['], c.bump)
  let (text, c) := if c.char? == some '^' then ('^' :: text, c.bump) else (text, c)
  let (text, c) := if c.char? == some ']' then (']' :: text, c.bump) else (text, c)
  classFrom verbose size (c.rest.length + 1) 1 text c

end Scan

end RegexStudio.Backtracking
