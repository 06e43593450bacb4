import RegexStudio.Json.Value
import RegexStudio.Json.Writer
import RegexStudio.Unicode.Property

/-! Why a JSON text is refused, with the line and the byte column where reading stopped. -/

namespace RegexStudio.Json

inductive Found
  | null
  | bool (b : Bool)
  | integer (n : Int)
  | double (d : Double)
  | string (s : String)
  | sequence
  | map
deriving DecidableEq, Inhabited, Repr

inductive Cause
  | endInList
  | endInObject
  | endInString
  | endInValue
  | expectedColon
  | expectedListCommaOrEnd
  | expectedObjectCommaOrEnd
  | expectedIdent
  | expectedValue
  | invalidEscape
  | invalidNumber
  | numberOutOfRange
  | controlCharacter
  | keyMustBeString
  | loneSurrogate
  | trailingComma
  | trailingCharacters
  | endOfHexEscape
  | recursionLimit
  | invalidType (found : Found) (expected : String)
  | invalidLength (length : Nat) (expected : String)
  | duplicateField (name : String)
  | missingField (name : String)
deriving DecidableEq, Inhabited, Repr

/-- Characters that a quoted text shows as they are: no controls, no unassigned or private code
points, no separators but the plain blank. -/
def isPrintable (c : Char) : Bool :=
  if c.toNat < 0x7F then 0x20 ≤ c.toNat
  else !((["Cc", "Cf", "Co", "Cn", "Zl", "Zp", "Zs"].any fun code =>
    (Unicode.leafCategory code).contains c) ||
    ((Unicode.binary? "graphemeextend").getD .empty).contains c)

def hexadecimal (n : Nat) : String := String.ofList (Nat.toDigits 16 n)

def showQuoted (s : String) : String :=
  let one (c : Char) : String :=
    match c with
    | '\x00' => "\\0"
    | '\t' => "\\t"
    | '\r' => "\\r"
    | '\n' => "\\n"
    | '\x22' => "\\\""
    | '\\' => "\\\\"
    | c => if isPrintable c then c.toString else "\\u\x7b" ++ hexadecimal c.toNat ++ "\x7d"
  "\"" ++ String.join (s.toList.map one) ++ "\""

namespace Found

def describe : Found → String
  | null => "null"
  | bool b => "boolean `" ++ toString b ++ "`"
  | integer n => "integer `" ++ toString n ++ "`"
  | double d => "floating point `" ++ d.display ++ "`"
  | string s => "string " ++ showQuoted s
  | sequence => "sequence"
  | map => "map"

end Found

namespace Cause

def describe : Cause → String
  | endInList => "EOF while parsing a list"
  | endInObject => "EOF while parsing an object"
  | endInString => "EOF while parsing a string"
  | endInValue => "EOF while parsing a value"
  | expectedColon => "expected `:`"
  | expectedListCommaOrEnd => "expected `,` or `]`"
  | expectedObjectCommaOrEnd => "expected `,` or `\x7d`"
  | expectedIdent => "expected ident"
  | expectedValue => "expected value"
  | invalidEscape => "invalid escape"
  | invalidNumber => "invalid number"
  | numberOutOfRange => "number out of range"
  | controlCharacter => "control character (\\u0000-\\u001F) found while parsing a string"
  | keyMustBeString => "key must be a string"
  | loneSurrogate => "lone leading surrogate in hex escape"
  | trailingComma => "trailing comma"
  | trailingCharacters => "trailing characters"
  | endOfHexEscape => "unexpected end of hex escape"
  | recursionLimit => "recursion limit exceeded"
  | invalidType found expected =>
    "invalid type: " ++ found.describe ++ ", expected " ++ expected
  | invalidLength length expected =>
    "invalid length " ++ toString length ++ ", expected " ++ expected
  | duplicateField name => "duplicate field `" ++ name ++ "`"
  | missingField name => "missing field `" ++ name ++ "`"

end Cause

structure Fault where
  cause : Cause
  line : Nat
  column : Nat
deriving DecidableEq, Inhabited, Repr

namespace Fault

def display (f : Fault) : String :=
  f.cause.describe ++ " at line " ++ toString f.line ++ " column " ++ toString f.column

end Fault

end RegexStudio.Json
