import RegexStudio.Unicode.CharSet

/-! Ranges of code points as sequences of byte ranges of their UTF-8 form. A range is cut where
the length of the form changes and where a byte is only partly covered. -/

namespace RegexStudio.Unicode

abbrev ByteRanges := List (Nat × Nat)

namespace ByteRanges

def continuations (n : Nat) : ByteRanges := List.replicate n (0x80, 0xBF)

/-- Sequences for the code points from `a` to `b`, whose forms have `n` bytes after the first;
`mark` is added to the first. -/
def cover (mark : Nat) : Nat → Nat → Nat → List ByteRanges
  | 0, a, b => [[(mark + a, mark + b)]]
  | n + 1, a, b =>
    let unit := Nat.pow 64 (n + 1)
    let (x, y) := (a / unit, b / unit)
    let under (lead lo hi : Nat) : List ByteRanges :=
      (cover 0x80 n lo hi).map ((mark + lead, mark + lead) :: ·)
    if x == y then under x (a % unit) (b % unit)
    else
      let left := if a % unit == 0 then [] else under x (a % unit) (unit - 1)
      let right := if b % unit == unit - 1 then [] else under y 0 (b % unit)
      let lo := if left.isEmpty then x else x + 1
      let hi := if right.isEmpty then y + 1 else y
      let middle := if lo < hi then [(mark + lo, mark + hi - 1) :: continuations (n + 1)] else []
      left ++ middle ++ right

/-- The parts of a range with forms of one length: the first and last code point of each length,
the bytes after the first, and what marks the first byte. Surrogates have no form. -/
def lengths : List (Nat × Nat × Nat × Nat) :=
  [(0, 0x7F, 0, 0), (0x80, 0x7FF, 1, 0xC0), (0x800, 0xD7FF, 2, 0xE0), (0xE000, 0xFFFF, 2, 0xE0),
    (0x10000, 0x10FFFF, 3, 0xF0)]

def ofRange (r : Nat × Nat) : List ByteRanges :=
  lengths.flatMap fun (lo, hi, more, mark) =>
    let (a, b) := (max r.1 lo, min r.2 hi)
    if a ≤ b then cover mark more a b else []

def shared : ByteRanges → ByteRanges → Nat
  | r :: rs, s :: ss => if r == s then shared rs ss + 1 else 0
  | _, _ => 0

/-- Nodes of the tree that holds the sequences of a set, and how many sequences there are. -/
def treeSize (s : CharSet) : Nat × Nat :=
  let step (acc : ByteRanges × Nat × Nat) (next : ByteRanges) :=
    (next, acc.2.1 + (next.length - shared acc.1 next), acc.2.2 + 1)
  ((s.ranges.toList.flatMap ofRange).foldl step ([], 0, 0)).2

end ByteRanges

end RegexStudio.Unicode
