import RegexStudio.Unicode.CharSet
import RegexStudio.Unicode.Data.Folding

/-! Case-insensitive matching by simple case folding: a set is closed under the classes of
characters that differ only in case. -/

namespace RegexStudio.Unicode

def foldingClasses : Array (List Nat) :=
  let value (s : String) : Nat := s.toList.foldl (fun n c =>
    n * 16 + (if c.toNat ≤ 57 then c.toNat - 48 else c.toNat - 87)) 0
  (((Data.foldingRow.splitOn "\n").flatMap (·.splitOn " ")).map
    fun token => (token.splitOn "/").map value).toArray

def foldedRanges (s : CharSet) : List (Nat × Nat) :=
  foldingClasses.foldl (fun acc members =>
    if members.any s.containsCode then members.foldl (fun acc n => (n, n) :: acc) acc else acc) []

namespace CharSet

def closeUnderCase (s : CharSet) : CharSet :=
  match foldedRanges s with
  | [] => s
  | extra => ofRanges (s.ranges.toList ++ extra)

def swapAsciiCase (s : CharSet) : CharSet :=
  let meet (lo hi : Nat) (r : Nat × Nat) : Option (Nat × Nat) :=
    let a := max lo r.1
    let b := min hi r.2
    if a ≤ b then some (a, b) else none
  let upper := s.ranges.toList.filterMap (meet 0x41 0x5A)
  let lower := s.ranges.toList.filterMap (meet 0x61 0x7A)
  ofRanges (upper.map (fun r => (r.1 + 32, r.2 + 32)) ++ lower.map fun r => (r.1 - 32, r.2 - 32))

def closeUnderAsciiCase (s : CharSet) : CharSet := s.union s.swapAsciiCase

end CharSet

end RegexStudio.Unicode
