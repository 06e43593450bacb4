import RegexStudio.Linear.Expr
import RegexStudio.Unicode.ByteRanges

/-! How much room the automaton of a pattern takes when its transitions read bytes. Patterns above
a limit are refused before any code is laid down for them. -/

namespace RegexStudio.Linear

open Unicode (CharSet ByteRanges)

namespace Footprint

def state : Nat := 32

def exit : Nat := 4

def transition : Nat := 8

def limit : Nat := 10485760

def ofSet (s : CharSet) : Nat :=
  match s.ranges.toList with
  | [(a, b)] => if a == b then state * (Char.ofNat a).utf8Size else classSize
  | _ => classSize
where
  classSize :=
    if s.isAscii then 2 * state + transition * s.ranges.size
    else
      let (nodes, sequences) := ByteRanges.treeSize s
      state * (nodes + 2) + exit * sequences

end Footprint

open Footprint in
/-- Bytes that the automaton of an expression takes. -/
def Expr.footprint : Expr → Nat
  | .empty | .look _ => state
  | .set s => ofSet s
  | .cat a b => a.footprint + b.footprint
  | .alt a b =>
    let ends := match b with
      | .alt .. => 0
      | _ => 2 * state + exit
    a.footprint + b.footprint + exit + ends
  | .rep lo (some hi) _ sub => hi * sub.footprint + (hi - lo) * (state + 2 * exit) + state
  | .rep 0 none _ sub => sub.footprint + 3 * state + 4 * exit
  | .rep (lo + 1) none _ sub => (lo + 1) * sub.footprint + state + 2 * exit
  | .cap _ _ sub => sub.footprint + 2 * state

end RegexStudio.Linear
