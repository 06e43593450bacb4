/-! Text measured in UTF-8 bytes. Offsets into patterns, templates and subjects count bytes, so
an offset names a place only when it falls between two characters. -/

namespace RegexStudio.Text

def byteLength : List Char → Nat
  | [] => 0
  | c :: cs => c.utf8Size + byteLength cs

/-- The characters before byte `n` and those from it on; nothing when `n` is no place between
characters. -/
def splitAtByte : Nat → List Char → Option (List Char × List Char)
  | 0, cs => some ([], cs)
  | _ + 1, [] => none
  | n + 1, c :: cs =>
    if c.utf8Size ≤ n + 1 then
      (splitAtByte (n + 1 - c.utf8Size) cs).map fun (before, after) => (c :: before, after)
    else none

def slice (cs : List Char) (start stop : Nat) : Option (List Char) := do
  let (_, rest) ← splitAtByte start cs
  if start ≤ stop then
    let (piece, _) ← splitAtByte (stop - start) rest
    some piece
  else none

theorem byteLength_append (a b : List Char) :
    byteLength (a ++ b) = byteLength a + byteLength b := by
  induction a with
  | nil => simp [byteLength]
  | cons c a ih => simp [byteLength, ih, Nat.add_assoc]

theorem splitAtByte_byteLength (a b : List Char) :
    splitAtByte (byteLength a) (a ++ b) = some (a, b) := by
  induction a with
  | nil => simp [byteLength, splitAtByte]
  | cons c a ih =>
    have hc : 0 < c.utf8Size := Char.utf8Size_pos c
    obtain ⟨n, hn⟩ : ∃ n, byteLength (c :: a) = n + 1 :=
      ⟨c.utf8Size + byteLength a - 1, by simp only [byteLength]; omega⟩
    have hle : c.utf8Size ≤ n + 1 := by simp only [byteLength] at hn; omega
    have hrest : n + 1 - c.utf8Size = byteLength a := by simp only [byteLength] at hn; omega
    rw [hn, List.cons_append, splitAtByte, if_pos hle, hrest, ih]
    rfl

theorem slice_append (before text after : List Char) :
    slice (before ++ text ++ after) (byteLength before) (byteLength before + byteLength text) =
      some text := by
  have hle : byteLength before ≤ byteLength before + byteLength text := Nat.le_add_right _ _
  rw [List.append_assoc]
  simp only [slice, splitAtByte_byteLength, Option.bind_eq_bind, Option.bind_some, hle, if_true,
    Nat.add_sub_cancel_left]

/-- The character whose code point is the first byte of a character in UTF-8. -/
def leadByte (c : Char) : Char :=
  let n := c.toNat
  if n < 0x80 then c
  else if n < 0x800 then Char.ofNat (0xC0 + n / 0x40)
  else if n < 0x10000 then Char.ofNat (0xE0 + n / 0x1000)
  else Char.ofNat (0xF0 + n / 0x40000)

def isBlank (c : Char) : Bool :=
  let n := c.toNat
  (9 ≤ n && n ≤ 13) || n == 0x20 || n == 0x85 || n == 0xA0 || n == 0x1680 ||
    (0x2000 ≤ n && n ≤ 0x200A) || n == 0x2028 || n == 0x2029 || n == 0x202F || n == 0x205F ||
    n == 0x3000

def trim (cs : List Char) : List Char :=
  ((cs.dropWhile isBlank).reverse.dropWhile isBlank).reverse

def lowerAscii (c : Char) : Char :=
  if 'A' ≤ c && c ≤ 'Z' then Char.ofNat (c.toNat + 32) else c

/-- The pieces between line feeds, the last one included even when empty. -/
def pieces (cs : List Char) : List (List Char) := cs.splitOn '\n'

def dropReturn (line : List Char) : List Char :=
  if line.getLast? = some '\r' then line.dropLast else line

def lines (cs : List Char) : List (List Char) :=
  let all := pieces cs
  let ended := all.dropLast.map dropReturn
  match all.getLast? with
  | none | some [] => ended
  | some last => ended ++ [last]

def occurs (needle : List Char) : List Char → Bool
  | [] => needle.isEmpty
  | c :: cs => needle.isPrefixOf (c :: cs) || occurs needle cs

def isDigit (c : Char) : Bool := '0' ≤ c && c ≤ '9'

def isHexDigit (c : Char) : Bool :=
  isDigit c || ('a' ≤ c && c ≤ 'f') || ('A' ≤ c && c ≤ 'F')

def hexValue (c : Char) : Nat :=
  if isDigit c then c.toNat - 48
  else if 'a' ≤ c && c ≤ 'f' then c.toNat - 87
  else if 'A' ≤ c && c ≤ 'F' then c.toNat - 55
  else 0

def decimalValue (cs : List Char) : Nat :=
  cs.foldl (fun n c => n * 10 + (c.toNat - 48)) 0

def hexadecimalValue (cs : List Char) : Nat :=
  cs.foldl (fun n c => n * 16 + hexValue c) 0

def scalar? (n : Nat) : Option Char :=
  if n.isValidChar then some (Char.ofNat n) else none

end RegexStudio.Text
