/-! Double-precision numbers as they stand in JSON: how a decimal literal becomes a number, and
the shortest decimal that reads back as the same number. -/

namespace RegexStudio.Json

structure Double where
  bits : UInt64
deriving DecidableEq, Inhabited, Repr

namespace Double

def ofFloat (f : Float) : Double := ⟨f.toBits⟩

def signBit : Nat := Nat.pow 2 63

def leadingBit : Nat := Nat.pow 2 52

def isNegative (d : Double) : Bool := signBit ≤ d.bits.toNat

/-- The magnitude as `m * 2 ^ q`, with `q` raised by 1074 so that it is a natural number. -/
def decode (d : Double) : Nat × Nat :=
  let b := d.bits.toNat % signBit
  let e := b / leadingBit
  let f := b % leadingBit
  if e = 0 then (f, 0) else (leadingBit + f, e - 1)

def powerLimit : Nat := 308

/-- `significand * 10 ^ exponent` by one multiplication or division; nothing when it is too large
to be finite. -/
def ofParts (negative : Bool) (significand : Nat) (exponent : Int) : Option Double :=
  let signed (f : Float) : Double := ofFloat (if negative then -f else f)
  let power (n : Nat) : Float := Float.ofScientific 1 false n
  -- very small exponents divide in steps of the largest power
  let rec down (f : Float) (n : Nat) : Nat → Float
    | 0 => f
    | fuel + 1 =>
      if n ≤ powerLimit then f / power n
      else if f == 0.0 then f
      else down (f / power powerLimit) (n - powerLimit) fuel
  let f := Float.ofNat significand
  if 0 ≤ exponent then
    let n := exponent.toNat
    if n ≤ powerLimit then
      let g := f * power n
      if g.isInf then none else some (signed g)
    else if f == 0.0 then some (signed f) else none
  else
    let n := (-exponent).toNat
    some (signed (down f n 4))

def compareScaled (a : Nat) (k : Int) (b : Nat) (q : Int) : Ordering :=
  let left := a * Nat.pow 10 k.toNat * Nat.pow 2 (-q).toNat
  let right := b * Nat.pow 2 q.toNat * Nat.pow 10 (-k).toNat
  compare left right

def floorScaled (b : Nat) (q k : Int) : Nat :=
  (b * Nat.pow 2 q.toNat * Nat.pow 10 (-k).toNat) / (Nat.pow 10 k.toNat * Nat.pow 2 (-q).toNat)

def leadingExponent (b : Nat) (q : Int) : Int :=
  -- first guess from the bit length, then at most two corrections
  let guess := ((b.log2 : Int) + q) * 30103 / 100000
  let down := if compareScaled 1 guess b q == .gt then guess - 1 else guess
  if compareScaled 1 (down + 1) b q == .gt then down else down + 1

/-- Digits and exponent of the shortest decimal between the midpoints to the neighbours; of two
equally short ones the nearer, and of two equally near ones the even. -/
def shortest (d : Double) : Nat × Int :=
  let (m, e) := d.decode
  if m = 0 then (0, 0) else
  let q : Int := (e : Int) - 1074 - 2
  let value := 4 * m
  let low := if m = leadingBit && e > 0 then value - 1 else value - 2
  let high := value + 2
  let even := m % 2 == 0
  let inside (a : Nat) (k : Int) : Bool :=
    let below := compareScaled a k low q
    let above := compareScaled a k high q
    (below == .gt || (even && below == .eq)) && (above == .lt || (even && above == .eq))
  let top := leadingExponent value q
  let rec search (digits : Nat) : Nat → Nat × Int
    | 0 => (floorScaled value q (top - 16), top - 16)
    | fuel + 1 =>
      let k := top - (digits : Int) + 1
      let a := floorScaled value q k
      match inside a k, inside (a + 1) k with
      | true, false => (a, k)
      | false, true => (a + 1, k)
      | true, true =>
        match compareScaled (2 * a + 1) k (2 * value) q with
        | .lt => (a + 1, k)
        | .gt => (a, k)
        | .eq => if a % 2 == 0 then (a, k) else (a + 1, k)
      | false, false => search (digits + 1) fuel
  search 1 17

def dropZeros (a : Nat) (k : Int) : Nat → Nat × Int
  | 0 => (a, k)
  | fuel + 1 => if a ≠ 0 ∧ a % 10 = 0 then dropZeros (a / 10) (k + 1) fuel else (a, k)

def display (d : Double) : String :=
  let sign := if d.isNegative then "-" else ""
  let (a, k) := d.shortest
  if a = 0 then sign ++ "0.0" else
  let (a, k) := dropZeros a k 20
  let digits := toString a
  let n : Int := digits.length
  let top := k + n - 1
  let zeros (n : Int) : String := String.ofList (List.replicate n.toNat '0')
  let body :=
    if 0 ≤ k && top < 16 then digits ++ zeros k ++ ".0"
    else if 0 ≤ top && top < 16 then
      String.ofList (digits.toList.take (top + 1).toNat) ++ "." ++
        String.ofList (digits.toList.drop (top + 1).toNat)
    else if -5 ≤ top && top < 0 then "0." ++ zeros (-top - 1) ++ digits
    else
      let tail := digits.toList.drop 1
      let fraction := if tail.isEmpty then "" else "." ++ String.ofList tail
      let mark := if top < 0 then "e-" else "e+"
      String.ofList (digits.toList.take 1) ++ fraction ++ mark ++ toString top.natAbs
  sign ++ body

end Double

end RegexStudio.Json
