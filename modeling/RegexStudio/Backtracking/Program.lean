import RegexStudio.Backtracking.Plan

/-! Plans as programs of the machine with backtracking. As with the linear engine, code is laid
down from the end to the start, and an instruction names the addresses after it. -/

namespace RegexStudio.Backtracking

inductive Inst
  | done
  | any (newline : Bool) (next : Nat)
  | text (cs : List Char) (next : Nat)
  | assertion (a : Assertion) (next : Nat)
  | split (first second : Nat)
  | save (slot next : Nat)
  /-- Sets a counter to zero. -/
  | clear (slot next : Nat)
  /-- Returns to the place written down. -/
  | restore (slot next : Nat)
  | counted (lo hi : Nat) (greedy : Bool) (counter body next : Nat)
  | rounds (lo : Nat) (greedy : Bool) (counter place body next : Nat)
  | back (n next : Nat)
  /-- What must not match has matched: gives up every choice made since, and fails. -/
  | refuted (next : Nat)
  | linear (part : LinearPart) (next : Nat)
  | linearBack (mirrored : Linear.Program) (part : LinearPart) (next : Nat)
  | backref (group : Nat) (ignoreCase : Bool) (next : Nat)
  | groupSet (group next : Nat)
  /-- Holds where the search begins. If it stands `first` in the pattern, no later place has a
  match. -/
  | lastEnd (first : Bool) (next : Nat)
  | beginAtomic (next : Nat)
  | endAtomic (next : Nat)
deriving Inhabited, Repr

structure Code where
  insts : Array Inst
  slots : Nat
deriving Inhabited, Repr

namespace Code

def push (code : Code) (inst : Inst) : Code := { code with insts := code.insts.push inst }

def here (code : Code) : Nat := code.insts.size

def put (code : Code) (address : Nat) (inst : Inst) : Code :=
  { code with insts := code.insts.setIfInBounds address inst }

def newSlot (code : Code) : Nat × Code := (code.slots, { code with slots := code.slots + 1 })

end Code

structure Program where
  code : Array Inst
  entry : Nat
  slots : Nat
deriving Inhabited, Repr

namespace Program

def branch (greedy : Bool) (inside outside : Nat) : Inst :=
  if greedy then .split inside outside else .split outside inside

/-- Lays down a plan before the code at `next`, and says where it begins. -/
def emit : Plan → Nat → Code → Nat × Code
  | .nothing, next, code => (next, code)
  | .any newline, next, code => (code.here, code.push (.any newline next))
  | .text cs, next, code => (code.here, code.push (.text cs next))
  | .assertion a, next, code => (code.here, code.push (.assertion a next))
  | .save slot, next, code => (code.here, code.push (.save slot next))
  | .back n, next, code => (code.here, code.push (.back n next))
  | .linear part, next, code => (code.here, code.push (.linear part next))
  | .linearBack mirrored part, next, code =>
    (code.here, code.push (.linearBack mirrored part next))
  | .backref group ignoreCase, next, code =>
    (code.here, code.push (.backref group ignoreCase next))
  | .groupSet group, next, code => (code.here, code.push (.groupSet group next))
  | .lastEnd first, next, code => (code.here, code.push (.lastEnd first next))
  | .both a b, next, code =>
    let (middle, code) := emit b next code
    emit a middle code
  | .either a b, next, code =>
    let (first, code) := emit a next code
    let (second, code) := emit b next code
    (code.here, code.push (.split first second))
  | .optional greedy sub, next, code =>
    let (inside, code) := emit sub next code
    (code.here, code.push (branch greedy inside next))
  | .star greedy sub, next, code =>
    let start := code.here
    let (inside, code) := emit sub start (code.push .done)
    (start, code.put start (branch greedy inside next))
  | .plus greedy sub, next, code =>
    let again := code.here
    let (inside, code) := emit sub again (code.push .done)
    (inside, code.put again (branch greedy inside next))
  | .counted lo hi greedy sub, next, code =>
    let (counter, code) := code.newSlot
    let start := code.here
    let (inside, code) := emit sub start (code.push .done)
    let code := code.put start (.counted lo hi greedy counter inside next)
    (code.here, code.push (.clear counter start))
  | .rounds lo greedy sub, next, code =>
    let (counter, code) := code.newSlot
    let (place, code) := code.newSlot
    let start := code.here
    let (inside, code) := emit sub start (code.push .done)
    let code := code.put start (.rounds lo greedy counter place inside next)
    (code.here, code.push (.clear counter start))
  | .peek sub, next, code =>
    let (slot, code) := code.newSlot
    let stop := code.here
    let (inside, code) := emit sub stop (code.push (.restore slot next))
    (code.here, code.push (.save slot inside))
  | .refute sub, next, code =>
    let stop := code.here
    let (inside, code) := emit sub stop (code.push (.refuted next))
    (code.here, code.push (.split inside next))
  | .atomic sub, next, code =>
    let stop := code.here
    let (inside, code) := emit sub stop (code.push (.endAtomic next))
    (code.here, code.push (.beginAtomic inside))
  | .condition test yes no, next, code =>
    let (no, code) := emit no next code
    let (yes, code) := emit yes next code
    let stop := code.here
    let (test, code) := emit test stop (code.push (.endAtomic yes))
    let start := code.here
    (start + 1, (code.push (.split test no)).push (.beginAtomic start))

def isAnchored : Node → Bool
  | .assertion .startText | .concat (.assertion .startText :: _) => true
  | _ => false

/-- The program of a pattern. Unless the pattern is anchored, it first tries the place where the
search begins and then each one after it. -/
def ofPlan (plan : Plan) (groups : Nat) (ownMatch anchored : Bool) : Program :=
  let plan := if ownMatch then plan else .ofList [.save 0, plan, .save 1]
  let plan := if anchored then plan else .both (.star false (.any true)) plan
  let (entry, code) := emit plan 0 { insts := #[.done], slots := 2 * groups }
  { code := code.insts, entry, slots := code.slots }

end Program

end RegexStudio.Backtracking
