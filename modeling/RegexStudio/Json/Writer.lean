import RegexStudio.Json.Value

/-! JSON text: on one line, or with an indent of two spaces per level. -/

namespace RegexStudio.Json

def hexDigit (n : Nat) : Char := if n < 10 then Char.ofNat (48 + n) else Char.ofNat (87 + n)

def escapeChar (c : Char) : List Char :=
  match c with
  | '\x22' => ['\\', '\x22']
  | '\\' => ['\\', '\\']
  | '\x08' => ['\\', 'b']
  | '\x0C' => ['\\', 'f']
  | '\n' => ['\\', 'n']
  | '\r' => ['\\', 'r']
  | '\t' => ['\\', 't']
  | c =>
    if c.toNat < 0x20 then ['\\', 'u', '0', '0', hexDigit (c.toNat / 16), hexDigit (c.toNat % 16)]
    else [c]

def quoteChars (cs : List Char) : List Char := '\x22' :: (cs.flatMap escapeChar ++ ['\x22'])

def quote (s : String) : String := String.ofList (quoteChars s.toList)

mutual

def compact : Json → String
  | .null => "null"
  | .bool true => "true"
  | .bool false => "false"
  | .integer n => toString n
  | .double d => d.display
  | .string s => quote s
  | .array items => "[" ++ compactItems items ++ "]"
  | .object members => "\x7b" ++ compactMembers members ++ "\x7d"

def compactItems : List Json → String
  | [] => ""
  | [item] => compact item
  | item :: rest => compact item ++ "," ++ compactItems rest

def compactMembers : List (String × Json) → String
  | [] => ""
  | [(k, v)] => quote k ++ ":" ++ compact v
  | (k, v) :: rest => quote k ++ ":" ++ compact v ++ "," ++ compactMembers rest

end

def newline (level : Nat) : String := "\n" ++ String.ofList (List.replicate (2 * level) ' ')

mutual

/-- The value over several lines; empty arrays and objects stay on one. -/
def prettyAt (level : Nat) : Json → String
  | .array [] => "[]"
  | .array items => "[" ++ prettyItems (level + 1) items ++ newline level ++ "]"
  | .object [] => "\x7b\x7d"
  | .object members =>
    "\x7b" ++ prettyMembers (level + 1) members ++ newline level ++ "\x7d"
  | .null => "null"
  | .bool b => if b then "true" else "false"
  | .integer n => toString n
  | .double d => d.display
  | .string s => quote s

def prettyItems (level : Nat) : List Json → String
  | [] => ""
  | [item] => newline level ++ prettyAt level item
  | item :: rest => newline level ++ prettyAt level item ++ "," ++ prettyItems level rest

def prettyMembers (level : Nat) : List (String × Json) → String
  | [] => ""
  | [(k, v)] => newline level ++ quote k ++ ": " ++ prettyAt level v
  | (k, v) :: rest =>
    newline level ++ quote k ++ ": " ++ prettyAt level v ++ "," ++ prettyMembers level rest

end

def pretty (j : Json) : String := prettyAt 0 j

end RegexStudio.Json
