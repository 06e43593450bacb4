import RegexStudio.Text.Bytes

/-! A text prepared for searching: its characters by index and the byte offset of each. -/

namespace RegexStudio.Text

structure Haystack where
  chars : Array Char
  offsets : Array Nat
deriving Inhabited

namespace Haystack

def offsetsFrom (start : Nat) : List Char → List Nat
  | [] => [start]
  | c :: cs => start :: offsetsFrom (start + c.utf8Size) cs

def ofChars (cs : List Char) : Haystack := ⟨cs.toArray, (offsetsFrom 0 cs).toArray⟩

def ofString (s : String) : Haystack := ofChars s.toList

def size (h : Haystack) : Nat := h.chars.size

def char? (h : Haystack) (i : Nat) : Option Char := h.chars[i]?

def before? (h : Haystack) (i : Nat) : Option Char := if i = 0 then none else h.chars[i - 1]?

def offset (h : Haystack) (i : Nat) : Nat := h.offsets.getD i 0

def slice (h : Haystack) (start stop : Nat) : String :=
  String.ofList (h.chars.extract start stop).toList

def slice? (h : Haystack) (start stop : Nat) : Option String :=
  if start ≤ stop && stop ≤ h.size then some (h.slice start stop) else none

end Haystack

end RegexStudio.Text
