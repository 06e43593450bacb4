import RegexStudio.Linear.Program

/-! Depth-first search for the preferred match of a program. An address that was tried at a place
without success is never tried there again, so a search takes time in proportion to the program
times the text. -/

namespace RegexStudio.Linear

open Text (Haystack)

inductive Direction
  | onward
  | back
deriving DecidableEq, Inhabited, Repr

def Direction.read (h : Haystack) (limit : Nat) : Direction → Nat → Option (Char × Nat)
  | .onward, pos => if pos < limit then (h.char? pos).map fun c => (c, pos + 1) else none
  | .back, pos => (h.before? pos).map fun c => (c, pos - 1)

/-- An address to go on from, a place in the text, and the slots written so far, the last first. -/
structure Thread where
  pc : Nat
  pos : Nat
  trail : List (Nat × Nat)
deriving DecidableEq, Inhabited, Repr

/-- Addresses that were tried, by place; `base` is the place of the first row. -/
structure Visited where
  width : Nat
  base : Nat
  rows : Array (Array Bool)
deriving Inhabited

namespace Visited

def empty (width base : Nat) : Visited := ⟨width, base, #[]⟩

def contains (v : Visited) (pc pos : Nat) : Bool :=
  match v.rows[pos - v.base]? with
  | none => false
  | some row => row.getD pc false

def insert (v : Visited) (pc pos : Nat) : Visited :=
  let i := pos - v.base
  let (width, base) := (v.width, v.base)
  let rows := v.rows
  let rows := if i < rows.size then rows else rows ++ Array.replicate (i + 1 - rows.size) #[]
  let fill (row : Array Bool) : Array Bool :=
    (if row.isEmpty then Array.replicate width false else row).setIfInBounds pc true
  ⟨width, base, rows.modify i fill⟩

end Visited

namespace Program

/-- Threads to try after one instruction, the preferred first; nothing when the instruction
refuses. -/
def step (h : Haystack) (limit : Nat) (dir : Direction) (t : Thread) : Inst → List Thread
  | .accept => []
  | .set s next =>
    match dir.read h limit t.pos with
    | some (c, pos) => if s.contains c then [{ t with pc := next, pos }] else []
    | none => []
  | .look l next => if l.holds h t.pos then [{ t with pc := next }] else []
  | .save slot next => [{ t with pc := next, trail := (slot, t.pos) :: t.trail }]
  | .split first second => [{ t with pc := first }, { t with pc := second }]

def explore (p : Program) (h : Haystack) (limit : Nat) (dir : Direction) :
    Nat → Visited → List Thread → Option Thread × Visited
  | 0, visited, _ => (none, visited)
  | _ + 1, visited, [] => (none, visited)
  | fuel + 1, visited, t :: rest =>
    if visited.contains t.pc t.pos then explore p h limit dir fuel visited rest
    else
      match p.code[t.pc]? with
      | none => explore p h limit dir fuel visited rest
      | some .accept => (some t, visited)
      | some inst =>
        explore p h limit dir fuel (visited.insert t.pc t.pos) (step h limit dir t inst ++ rest)

/-- Enough steps for any search: every address at every place puts at most two threads on the
stack. -/
def enough (p : Program) (h : Haystack) : Nat := 2 * p.code.size * (h.size + 1) + 2

def matchAt (p : Program) (h : Haystack) (limit : Nat) (dir : Direction) (start : Nat)
    (visited : Visited) : Option Thread × Visited :=
  explore p h limit dir (p.enough h) visited [⟨p.entry, start, []⟩]

def searchFrom (p : Program) (h : Haystack) : Nat → Nat → Visited → Option (Nat × Thread)
  | 0, _, _ => none
  | n + 1, start, visited =>
    match p.matchAt h h.size .onward start visited with
    | (some t, _) => some (start, t)
    | (none, visited) => searchFrom p h n (start + 1) visited

def search (p : Program) (h : Haystack) (start : Nat) : Option (Nat × Thread) :=
  p.searchFrom h (h.size + 1 - start) start (.empty p.code.size start)

def anchored (p : Program) (h : Haystack) (start limit : Nat) : Option Thread :=
  (p.matchAt h limit .onward start (.empty p.code.size start)).1

def anchoredBack (p : Program) (h : Haystack) (stop : Nat) : Option Thread :=
  (p.matchAt h h.size .back stop (.empty p.code.size 0)).1

end Program

namespace Thread

def slot? (t : Thread) (slot : Nat) : Option Nat := t.trail.lookup slot

def group? (t : Thread) (index : Nat) : Option (Nat × Nat) := do
  let start ← t.slot? (2 * index)
  let stop ← t.slot? (2 * index + 1)
  some (start, stop)

end Thread

end RegexStudio.Linear
