/-! Sets of code points as sorted lists of disjoint ranges, with the Boolean operations that
character classes are built from. -/

namespace RegexStudio.Unicode

/-- Sorted, disjoint and not adjacent ranges, both ends included. -/
structure CharSet where
  ranges : Array (Nat × Nat)
deriving DecidableEq, Inhabited, Repr

namespace CharSet

def maxCode : Nat := 0x10FFFF

def empty : CharSet := ⟨#[]⟩

def all : CharSet := ⟨#[(0, maxCode)]⟩

def join : List (Nat × Nat) → List (Nat × Nat)
  | [] => []
  | [r] => [r]
  | (a, b) :: (c, d) :: rest =>
    if c ≤ b + 1 then join ((a, max b d) :: rest) else (a, b) :: join ((c, d) :: rest)
termination_by rs => rs.length

def ofRanges (rs : List (Nat × Nat)) : CharSet :=
  ⟨(join (rs.mergeSort fun x y => decide (x.1 ≤ y.1))).toArray⟩

def singleton (c : Char) : CharSet := ⟨#[(c.toNat, c.toNat)]⟩

def containsFrom (rs : Array (Nat × Nat)) (c lo hi : Nat) : Bool :=
  if _ : lo < hi then
    let mid := (lo + hi) / 2
    match rs[mid]? with
    | none => false
    | some (a, b) =>
      if c < a then containsFrom rs c lo mid
      else if b < c then containsFrom rs c (mid + 1) hi
      else true
  else false
termination_by hi - lo

def containsCode (s : CharSet) (n : Nat) : Bool := containsFrom s.ranges n 0 s.ranges.size

def contains (s : CharSet) (c : Char) : Bool := s.containsCode c.toNat

def union (s t : CharSet) : CharSet := ofRanges (s.ranges.toList ++ t.ranges.toList)

/-- What a sorted range list leaves free from a code point on. -/
def gaps (start : Nat) : List (Nat × Nat) → List (Nat × Nat)
  | [] => if start ≤ maxCode then [(start, maxCode)] else []
  | (a, b) :: rest => if start < a then (start, a - 1) :: gaps (b + 1) rest else gaps (b + 1) rest

def complement (s : CharSet) : CharSet := ⟨(gaps 0 s.ranges.toList).toArray⟩

def inter (s t : CharSet) : CharSet := (s.complement.union t.complement).complement

def diff (s t : CharSet) : CharSet := s.inter t.complement

def symmDiff (s t : CharSet) : CharSet := (s.union t).diff (s.inter t)

def isAscii (s : CharSet) : Bool :=
  match s.ranges.back? with
  | none => true
  | some (_, b) => b ≤ 0x7F

/-- One range in the notation of the tables: the hexadecimal gap after the previous range, then
optionally a colon and the count of further code points. -/
def decodeGap (start : Nat) (token : String) : Nat × Nat :=
  let value (s : String) : Nat := s.toList.foldl (fun n c =>
    n * 16 + (if c.toNat ≤ 57 then c.toNat - 48 else c.toNat - 87)) 0
  match token.splitOn ":" with
  | [gap, more] => (start + value gap, start + value gap + value more)
  | _ => (start + value token, start + value token)

def ofRow (row : String) : CharSet :=
  let tokens := (row.splitOn "\n").flatMap (·.splitOn " ")
  let step (acc : Nat × Array (Nat × Nat)) (token : String) :=
    let r := decodeGap acc.1 token
    (r.2 + 1, acc.2.push r)
  ⟨(tokens.foldl step (0, #[])).2⟩

end CharSet

end RegexStudio.Unicode
