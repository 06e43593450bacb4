import RegexStudio.Json.Fault
import RegexStudio.Text.Bytes

/-! Reading JSON text. Each reader takes a cursor and gives what it read with the cursor after it,
or a fault placed where reading stopped. -/

namespace RegexStudio.Json

/-- What is left to read, the line from 1 on, and the bytes of the line read so far. -/
structure Cursor where
  rest : List Char
  line : Nat
  column : Nat
deriving Inhabited, Repr

namespace Cursor

def ofText (s : String) : Cursor := ⟨s.toList, 1, 0⟩

def bump (c : Cursor) : Cursor :=
  match c.rest with
  | [] => c
  | '\n' :: xs => ⟨xs, c.line + 1, 0⟩
  | x :: xs => ⟨xs, c.line, c.column + x.utf8Size⟩

def afterBytes : Nat → List Char → Nat → Nat → Nat × Nat
  | 0, _, line, column => (line, column)
  | _ + 1, [], line, column => (line, column)
  | n + 1, x :: xs, line, column =>
    if x == '\n' then afterBytes n xs (line + 1) 0
    else if x.utf8Size ≤ n + 1 then afterBytes (n + 1 - x.utf8Size) xs line (column + x.utf8Size)
    else (line, column + n + 1)

def faultAfter {α : Type} (c : Cursor) (bytes : Nat) (cause : Cause) : Except Fault α :=
  let place := afterBytes bytes c.rest c.line c.column
  .error ⟨cause, place.1, place.2⟩

def fault {α : Type} (c : Cursor) (cause : Cause) : Except Fault α := c.faultAfter 0 cause

def peekFault {α : Type} (c : Cursor) (cause : Cause) : Except Fault α := c.faultAfter 1 cause

def isSpace (c : Char) : Bool := c == ' ' || c == '\n' || c == '\t' || c == '\r'

def skipSpaceFrom : List Char → Nat → Nat → Cursor
  | [], line, column => ⟨[], line, column⟩
  | x :: xs, line, column =>
    if x == '\n' then skipSpaceFrom xs (line + 1) 0
    else if isSpace x then skipSpaceFrom xs line (column + 1)
    else ⟨x :: xs, line, column⟩

def skipSpace (c : Cursor) : Cursor := skipSpaceFrom c.rest c.line c.column

end Cursor

namespace Reader

open Cursor

def hexUnit (c : Cursor) : Except Fault (Nat × Cursor) :=
  match c.rest with
  | a :: b :: d :: e :: rest =>
    if [a, b, d, e].all Text.isHexDigit then
      .ok (Text.hexadecimalValue [a, b, d, e], ⟨rest, c.line, c.column + 4⟩)
    else c.faultAfter 4 .invalidEscape
  | rest =>
    if 4 ≤ Text.byteLength rest then c.faultAfter 4 .invalidEscape
    else c.faultAfter (Text.byteLength rest) .endInString

def trailingUnit (lead : Nat) (c : Cursor) : Except Fault (Char × Cursor) := do
  let expect (x : Char) (c : Cursor) : Except Fault Cursor :=
    match c.rest with
    | [] => c.fault .endInString
    | y :: _ => if y == x then .ok c.bump else c.faultAfter 1 .endOfHexEscape
  let c ← expect '\\' c
  let c ← expect 'u' c
  let (trail, c) ← hexUnit c
  if trail < 0xDC00 || 0xDFFF < trail then c.fault .loneSurrogate
  else .ok (Char.ofNat ((lead - 0xD800) * 0x400 + (trail - 0xDC00) + 0x10000), c)

def unicodeEscape (c : Cursor) : Except Fault (Char × Cursor) := do
  let (unit, c) ← hexUnit c
  if 0xDC00 ≤ unit && unit ≤ 0xDFFF then c.fault .loneSurrogate
  else if 0xD800 ≤ unit && unit ≤ 0xDBFF then trailingUnit unit c
  else .ok (Char.ofNat unit, c)

def escape (c : Cursor) : Except Fault (Char × Cursor) :=
  match c.rest with
  | [] => c.fault .endInString
  | x :: _ =>
    match x with
    | '\x22' => .ok ('\x22', c.bump)
    | '\\' => .ok ('\\', c.bump)
    | '/' => .ok ('/', c.bump)
    | 'b' => .ok ('\x08', c.bump)
    | 'f' => .ok ('\x0C', c.bump)
    | 'n' => .ok ('\n', c.bump)
    | 'r' => .ok ('\r', c.bump)
    | 't' => .ok ('\t', c.bump)
    | 'u' => unicodeEscape c.bump
    | _ => c.faultAfter 1 .invalidEscape

def stringChars : Nat → Cursor → List Char → Except Fault (List Char × Cursor)
  | 0, c, _ => c.fault .endInString
  | fuel + 1, c, acc =>
    match c.rest with
    | [] => c.fault .endInString
    | x :: _ =>
      if x == '\x22' then .ok (acc.reverse, c.bump)
      else if x == '\\' then do
        let (y, c) ← escape c.bump
        stringChars fuel c (y :: acc)
      else if x.toNat < 0x20 then c.faultAfter 1 .controlCharacter
      else stringChars fuel c.bump (x :: acc)

def string (c : Cursor) : Except Fault (String × Cursor) := do
  let (cs, c) ← stringChars (c.rest.length + 1) c []
  .ok (String.ofList cs, c)

/-- Like a string, but an escaped unit need not be part of a character, and a control character is
refused before it is read. -/
def skipStringChars : Nat → Cursor → Except Fault Cursor
  | 0, c => c.fault .endInString
  | fuel + 1, c =>
    match c.rest with
    | [] => c.fault .endInString
    | x :: _ =>
      if x == '\x22' then .ok c.bump
      else if x == '\\' then
        let c := c.bump
        match c.rest with
        | 'u' :: _ => do
          let (_, c) ← hexUnit c.bump
          skipStringChars fuel c
        | _ => do
          let (_, c) ← escape c
          skipStringChars fuel c
      else if x.toNat < 0x20 then c.fault .controlCharacter
      else skipStringChars fuel c.bump

def skipString (c : Cursor) : Except Fault Cursor := skipStringChars (c.rest.length + 1) c

def maxNatural : Nat := 18446744073709551615

def digitAhead (c : Cursor) : Option Nat :=
  match c.rest with
  | x :: _ => if Text.isDigit x then some (x.toNat - 48) else none
  | [] => none

def skipDigitsFrom : List Char → Nat → Nat → Cursor
  | [], line, column => ⟨[], line, column⟩
  | x :: xs, line, column =>
    if Text.isDigit x then skipDigitsFrom xs line (column + 1) else ⟨x :: xs, line, column⟩

def skipDigits (c : Cursor) : Cursor := skipDigitsFrom c.rest c.line c.column

/-- Takes digits into the significand while it fits 64 bits: the significand, how many digits were
taken, and whether one more did not fit. -/
def takeDigitsFrom (significand taken : Nat) : List Char → Nat → Nat → Nat × Nat × Bool × Cursor
  | [], line, column => (significand, taken, false, ⟨[], line, column⟩)
  | x :: xs, line, column =>
    if Text.isDigit x then
      let next := significand * 10 + (x.toNat - 48)
      if maxNatural < next then (significand, taken, true, ⟨x :: xs, line, column⟩)
      else takeDigitsFrom next (taken + 1) xs line (column + 1)
    else (significand, taken, false, ⟨x :: xs, line, column⟩)

def takeDigits (significand : Nat) (c : Cursor) : Nat × Nat × Bool × Cursor :=
  takeDigitsFrom significand 0 c.rest c.line c.column

def finishDouble (negative : Bool) (significand : Nat) (exponent : Int) (c : Cursor) :
    Except Fault (Json × Cursor) :=
  match Double.ofParts negative significand exponent with
  | some d => .ok (.double d, c)
  | none => c.fault .numberOutOfRange

def exponentDigits (value : Nat) : List Char → Nat → Nat → Nat × Bool × Cursor
  | [], line, column => (value, false, ⟨[], line, column⟩)
  | x :: xs, line, column =>
    if Text.isDigit x then
      let next := value * 10 + (x.toNat - 48)
      if 2147483647 < next then (value, true, ⟨xs, line, column + 1⟩)
      else exponentDigits next xs line (column + 1)
    else (value, false, ⟨x :: xs, line, column⟩)

def exponent (negative : Bool) (significand : Nat) (start : Int) (c : Cursor) :
    Except Fault (Json × Cursor) :=
  let c := c.bump
  let (down, c) := match c.rest with
    | '+' :: _ => (false, c.bump)
    | '-' :: _ => (true, c.bump)
    | _ => (false, c)
  match c.rest, digitAhead c with
  | [], _ => c.fault .endInValue
  | _, none => c.faultAfter 1 .invalidNumber
  | _, some d =>
    let c := c.bump
    let (value, overflow, c) := exponentDigits d c.rest c.line c.column
    if overflow then
      if significand ≠ 0 && !down then c.fault .numberOutOfRange
      else .ok (.double (.ofFloat (if negative then -0.0 else 0.0)), skipDigits c)
    else finishDouble negative significand (if down then start - value else start + value) c

def hasExponent (c : Cursor) : Bool :=
  match c.rest with
  | 'e' :: _ | 'E' :: _ => true
  | _ => false

def fraction (negative : Bool) (significand : Nat) (start : Int) (c : Cursor) :
    Except Fault (Json × Cursor) :=
  let (significand, taken, overflow, c) := takeDigits significand c.bump
  if overflow then
    let c := skipDigits c
    if hasExponent c then exponent negative significand (start - taken) c
    else finishDouble negative significand (start - taken) c
  else if taken = 0 then
    if c.rest.isEmpty then c.fault .endInValue else c.peekFault .invalidNumber
  else if hasExponent c then exponent negative significand (start - taken) c
  else finishDouble negative significand (start - taken) c

def afterInteger (negative : Bool) (significand : Nat) (c : Cursor) :
    Except Fault (Json × Cursor) :=
  match c.rest with
  | '.' :: _ => fraction negative significand 0 c
  | 'e' :: _ | 'E' :: _ => exponent negative significand 0 c
  | _ =>
    if !negative then .ok (.natural significand, c)
    else if significand = 0 || Double.signBit < significand then
      .ok (.double (.ofFloat (-(Float.ofNat significand))), c)
    else .ok (.integer (-(significand : Int)), c)

/-- Integer digits beyond 64 bits only scale the number. -/
def longInteger (negative : Bool) (significand : Nat) (c : Cursor) :
    Except Fault (Json × Cursor) :=
  let after := skipDigits c
  let dropped : Int := (after.column : Int) - c.column
  match after.rest with
  | '.' :: _ => fraction negative significand dropped after
  | 'e' :: _ | 'E' :: _ => exponent negative significand dropped after
  | _ => finishDouble negative significand dropped after

def number (negative : Bool) (c : Cursor) : Except Fault (Json × Cursor) :=
  match c.rest with
  | [] => c.fault .endInValue
  | '0' :: _ =>
    let c := c.bump
    if (digitAhead c).isSome then c.peekFault .invalidNumber else afterInteger negative 0 c
  | _ =>
    match digitAhead c with
    | none => c.faultAfter 1 .invalidNumber
    | some _ =>
      let (significand, _, overflow, c) := takeDigits 0 c
      if overflow then longInteger negative significand c else afterInteger negative significand c

def skipNumber (c : Cursor) : Except Fault Cursor := do
  let c ← match c.rest with
    | '0' :: _ =>
      let c := c.bump
      if (digitAhead c).isSome then c.peekFault .invalidNumber else .ok c
    | _ => if (digitAhead c).isSome then .ok (skipDigits c) else c.faultAfter 1 .invalidNumber
  let exponentPart (c : Cursor) : Except Fault Cursor :=
    if hasExponent c then
      let c := c.bump
      let c := match c.rest with
        | '+' :: _ | '-' :: _ => c.bump
        | _ => c
      if (digitAhead c).isSome then .ok (skipDigits c) else c.faultAfter 1 .invalidNumber
    else .ok c
  match c.rest with
  | '.' :: _ =>
    let c := c.bump
    if (digitAhead c).isSome then exponentPart (skipDigits c) else c.peekFault .invalidNumber
  | _ => exponentPart c

def ident : List Char → Cursor → Except Fault Cursor
  | [], c => .ok c
  | x :: xs, c =>
    match c.rest with
    | [] => c.fault .endInValue
    | y :: _ => if x == y then ident xs c.bump else c.faultAfter 1 .expectedIdent

def nextKey (first : Bool) (c : Cursor) : Except Fault (Option (String × Cursor)) := do
  let c := c.skipSpace
  match c.rest with
  | [] => c.peekFault .endInObject
  | '\x7d' :: _ => .ok none
  | ',' :: _ =>
    if first then c.peekFault .keyMustBeString
    else
      let c := c.bump.skipSpace
      match c.rest with
      | '\x22' :: _ =>
        let (key, c) ← string c.bump
        .ok (some (key, c))
      | '\x7d' :: _ => c.peekFault .trailingComma
      | [] => c.peekFault .endInValue
      | _ => c.peekFault .keyMustBeString
  | '\x22' :: _ =>
    if first then
      let (key, c) ← string c.bump
      .ok (some (key, c))
    else c.peekFault .expectedObjectCommaOrEnd
  | _ => c.peekFault (if first then .keyMustBeString else .expectedObjectCommaOrEnd)

def colon (c : Cursor) : Except Fault Cursor :=
  let c := c.skipSpace
  match c.rest with
  | ':' :: _ => .ok c.bump
  | [] => c.peekFault .endInObject
  | _ => c.peekFault .expectedColon

def nextItem (first : Bool) (c : Cursor) : Except Fault (Option Cursor) :=
  let c := c.skipSpace
  match c.rest with
  | [] => c.peekFault .endInList
  | ']' :: _ => .ok none
  | ',' :: _ =>
    if first then .ok (some c)
    else
      let c := c.bump.skipSpace
      match c.rest with
      | ']' :: _ => c.peekFault .trailingComma
      | [] => c.peekFault .endInValue
      | _ => .ok (some c)
  | _ => if first then .ok (some c) else c.peekFault .expectedListCommaOrEnd

def closeObject (c : Cursor) : Except Fault Unit × Cursor :=
  let c := c.skipSpace
  match c.rest with
  | '\x7d' :: _ => (.ok (), c.bump)
  | ',' :: _ => (c.peekFault .trailingComma, c)
  | [] => (c.peekFault .endInObject, c)
  | _ => (c.peekFault .trailingCharacters, c)

def closeArray (c : Cursor) : Except Fault Unit × Cursor :=
  let c := c.skipSpace
  match c.rest with
  | ']' :: _ => (.ok (), c.bump)
  | ',' :: _ =>
    let c := c.bump.skipSpace
    match c.rest with
    | ']' :: _ => (c.peekFault .trailingComma, c)
    | _ => (c.peekFault .trailingCharacters, c)
  | [] => (c.peekFault .endInList, c)
  | _ => (c.peekFault .trailingCharacters, c)

def depthLimit : Nat := 127

mutual

/-- Any value; `depth` more levels may open. -/
def value (depth : Nat) : Nat → Cursor → Except Fault (Json × Cursor)
  | 0, c => c.peekFault .expectedValue
  | fuel + 1, c => do
    let c := c.skipSpace
    match c.rest with
    | [] => c.peekFault .endInValue
    | x :: _ =>
      if x == 'n' then .ok (.null, ← ident ['u', 'l', 'l'] c.bump)
      else if x == 't' then .ok (.bool true, ← ident ['r', 'u', 'e'] c.bump)
      else if x == 'f' then .ok (.bool false, ← ident ['a', 'l', 's', 'e'] c.bump)
      else if x == '-' then number true c.bump
      else if Text.isDigit x then number false c
      else if x == '\x22' then
        let (s, c) ← string c.bump
        .ok (.string s, c)
      else if x == '[' then
        if depth = 0 then c.peekFault .recursionLimit
        else
          let (items, c) ← itemsFrom (depth - 1) true fuel c.bump
          let (closed, c) := closeArray c
          closed
          .ok (.array items, c)
      else if x == '\x7b' then
        if depth = 0 then c.peekFault .recursionLimit
        else
          let (members, c) ← membersFrom (depth - 1) true fuel c.bump
          let (closed, c) := closeObject c
          closed
          .ok (sortedObject members, c)
      else c.peekFault .expectedValue

def itemsFrom (depth : Nat) (first : Bool) : Nat → Cursor → Except Fault (List Json × Cursor)
  | 0, c => .ok ([], c)
  | fuel + 1, c => do
    match ← nextItem first c with
    | none => .ok ([], c)
    | some c =>
      let (item, c) ← value depth fuel c
      let (rest, c) ← itemsFrom depth false fuel c
      .ok (item :: rest, c)

def membersFrom (depth : Nat) (first : Bool) :
    Nat → Cursor → Except Fault (List (String × Json) × Cursor)
  | 0, c => .ok ([], c)
  | fuel + 1, c => do
    match ← nextKey first c with
    | none => .ok ([], c)
    | some (key, c) =>
      let c ← colon c
      let (v, c) ← value depth fuel c
      let (rest, c) ← membersFrom depth false fuel c
      .ok ((key, v) :: rest, c)

end

def fuelFor (c : Cursor) : Nat := 2 * c.rest.length + 2

def found (c : Cursor) : Except Fault (Found × Cursor) := do
  match c.rest with
  | [] => c.peekFault .expectedValue
  | x :: _ =>
    if x == 'n' then .ok (.null, ← ident ['u', 'l', 'l'] c.bump)
    else if x == 't' then .ok (.bool true, ← ident ['r', 'u', 'e'] c.bump)
    else if x == 'f' then .ok (.bool false, ← ident ['a', 'l', 's', 'e'] c.bump)
    else if x == '-' || Text.isDigit x then
      let (n, c) ← if x == '-' then number true c.bump else number false c
      match n with
      | .integer n => .ok (.integer n, c)
      | .double d => .ok (.double d, c)
      | _ => c.peekFault .expectedValue
    else if x == '\x22' then
      let (s, c) ← string c.bump
      .ok (.string s, c)
    else if x == '[' then .ok (.sequence, c)
    else if x == '\x7b' then .ok (.map, c)
    else c.peekFault .expectedValue

def mismatch {α : Type} (expected : String) (c : Cursor) : Except Fault α := do
  let (kind, c) ← found c
  c.fault (.invalidType kind expected)

inductive Open
  | list
  | object
deriving DecidableEq

/-- Steps over a value of any depth without giving it a meaning. `stack` holds the open
containers; `ready` tells that a value has just ended. -/
def skipFrom : Nat → Bool → List Open → Cursor → Except Fault Cursor
  | 0, _, _, c => .ok c
  | _ + 1, true, [], c => .ok c
  | fuel + 1, true, frame :: stack, c =>
    let c := c.skipSpace
    match c.rest, frame with
    | ',' :: _, .list => skipFrom fuel false (.list :: stack) c.bump
    | ',' :: _, .object => member fuel stack c.bump
    | ']' :: _, .list => skipFrom fuel true stack c.bump
    | '\x7d' :: _, .object => skipFrom fuel true stack c.bump
    | [], .list => c.peekFault .endInList
    | [], .object => c.peekFault .endInObject
    | _, .list => c.peekFault .expectedListCommaOrEnd
    | _, .object => c.peekFault .expectedObjectCommaOrEnd
  | fuel + 1, false, stack, c => do
    let c := c.skipSpace
    match c.rest with
    | [] => c.peekFault .endInValue
    | x :: _ =>
      if x == 'n' then skipFrom fuel true stack (← ident ['u', 'l', 'l'] c.bump)
      else if x == 't' then skipFrom fuel true stack (← ident ['r', 'u', 'e'] c.bump)
      else if x == 'f' then skipFrom fuel true stack (← ident ['a', 'l', 's', 'e'] c.bump)
      else if x == '-' then skipFrom fuel true stack (← skipNumber c.bump)
      else if Text.isDigit x then skipFrom fuel true stack (← skipNumber c)
      else if x == '\x22' then skipFrom fuel true stack (← skipString c.bump)
      else if x == '[' then
        let c := c.bump.skipSpace
        match c.rest with
        | ']' :: _ => skipFrom fuel true stack c.bump
        | [] => c.peekFault .endInList
        | _ => skipFrom fuel false (.list :: stack) c
      else if x == '\x7b' then
        let c := c.bump.skipSpace
        match c.rest with
        | '\x7d' :: _ => skipFrom fuel true stack c.bump
        | [] => c.peekFault .endInObject
        | _ => member fuel stack c
      else c.peekFault .expectedValue
where
  member (fuel : Nat) (stack : List Open) (c : Cursor) : Except Fault Cursor := do
    let c := c.skipSpace
    match c.rest with
    | '\x22' :: _ =>
      let c ← skipString c.bump
      let c := c.skipSpace
      match c.rest with
      | ':' :: _ => skipFrom fuel false (.object :: stack) c.bump
      | [] => c.peekFault .endInObject
      | _ => c.peekFault .expectedColon
    | [] => c.peekFault .endInObject
    | _ => c.peekFault .keyMustBeString

def skipValue (c : Cursor) : Except Fault Cursor := skipFrom (fuelFor c) false [] c

def finish (c : Cursor) : Except Fault Unit :=
  let c := c.skipSpace
  if c.rest.isEmpty then .ok () else c.peekFault .trailingCharacters

end Reader

def parse (s : String) : Except Fault Json := do
  let c := Cursor.ofText s
  let (v, c) ← Reader.value Reader.depthLimit (Reader.fuelFor c) c
  Reader.finish c
  .ok v

end RegexStudio.Json
