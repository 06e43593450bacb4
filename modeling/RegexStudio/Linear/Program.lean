import RegexStudio.Linear.Expr

/-! Patterns as programs: instructions that name the addresses where matching goes on. Code is
laid down from the end of the pattern to its start, so each part is given the address of what
follows it. -/

namespace RegexStudio.Linear

open Unicode (CharSet)

/-- One instruction. A `split` prefers its first address. -/
inductive Inst
  | accept
  | set (s : CharSet) (next : Nat)
  | look (l : Look) (next : Nat)
  | save (slot next : Nat)
  | split (first second : Nat)
deriving DecidableEq, Inhabited, Repr

structure Program where
  code : Array Inst
  entry : Nat
deriving Inhabited, Repr

namespace Program

def branch (greedy : Bool) (inside outside : Nat) : Inst :=
  if greedy then .split inside outside else .split outside inside

def copies (emit : Nat → Array Inst → Nat × Array Inst) :
    Nat → Nat → Array Inst → Nat × Array Inst
  | 0, next, code => (next, code)
  | n + 1, next, code =>
    let (entry, code) := emit next code
    copies emit n entry code

/-- Lays down `n` nested optional copies, each of which may go straight to `next`. -/
def options (emit : Nat → Array Inst → Nat × Array Inst) (greedy : Bool) (next : Nat) :
    Nat → Nat → Array Inst → Nat × Array Inst
  | 0, entry, code => (entry, code)
  | n + 1, entry, code =>
    let (inside, code) := emit entry code
    options emit greedy next n code.size (code.push (branch greedy inside next))

/-- Lays down one copy or more: the copy leads to a split that repeats it or goes on. -/
def loop (emit : Nat → Array Inst → Nat × Array Inst) (greedy : Bool) (next : Nat)
    (code : Array Inst) : Nat × Array Inst :=
  let back := code.size
  let (inside, code) := emit back (code.push (.split next next))
  (inside, code.setIfInBounds back (branch greedy inside next))

def emit : Expr → Nat → Array Inst → Nat × Array Inst
  | .empty, next, code => (next, code)
  | .set s, next, code => (code.size, code.push (.set s next))
  | .look l, next, code => (code.size, code.push (.look l next))
  | .cat a b, next, code =>
    let (middle, code) := emit b next code
    emit a middle code
  | .alt a b, next, code =>
    let (first, code) := emit a next code
    let (second, code) := emit b next code
    (code.size, code.push (.split first second))
  | .rep lo (some hi) greedy sub, next, code =>
    let (entry, code) := options (emit sub) greedy next (hi - lo) next code
    copies (emit sub) lo entry code
  | .rep 0 none greedy sub, next, code =>
    let (inside, code) := loop (emit sub) greedy next code
    (code.size, code.push (branch greedy inside next))
  | .rep (lo + 1) none greedy sub, next, code =>
    let (inside, code) := loop (emit sub) greedy next code
    copies (emit sub) lo inside code
  | .cap index _ sub, next, code =>
    let close := code.size
    let (inside, code) := emit sub close (code.push (.save (2 * index + 1) next))
    (code.size, code.push (.save (2 * index) inside))

def ofExpr (e : Expr) : Program :=
  let (entry, code) := emit e 0 #[.accept]
  { code, entry }

end Program

end RegexStudio.Linear
