import RegexStudio.Backtracking.Program

/-! The machine with backtracking. Where a program may go on in two ways the machine notes the
second one and comes back to it when the first fails. It counts how often it comes back, and gives
up at a limit. -/

namespace RegexStudio.Backtracking

open Text (Haystack)

/-- What backtracking brings back. -/
structure Moment where
  pc : Nat
  pos : Nat
  slots : Array (Option Nat)
  /-- How many choices were open when each atomic part began, the innermost first. -/
  atomics : List Nat
deriving Inhabited, Repr

structure Machine where
  now : Moment
  /-- Other ways to go on, the last one noted first, and how many there are. -/
  choices : List Moment
  depth : Nat
  /-- How often the machine has come back to a choice. -/
  returns : Nat
deriving Inhabited

inductive Overrun
  | returns
  | choices
deriving DecidableEq, Inhabited, Repr

def Overrun.message : Overrun → String
  | returns => "Error executing regex: Max limit for backtracking count exceeded"
  | choices => "Error executing regex: Max stack size exceeded for backtracking while executing " ++
      "regex"

inductive Outcome
  | running (m : Machine)
  | matched (slots : Array (Option Nat))
  | failed
  | overrun (o : Overrun)
deriving Inhabited

structure Search where
  text : Haystack
  start : Nat
  /-- Whether an empty match was passed over to get there. -/
  skipped : Bool

namespace Assertion

def holds (h : Haystack) (i : Nat) : Assertion → Bool
  | startText => Linear.Look.start.holds h i
  | endText => Linear.Look.stop.holds h i
  | startLine => Linear.Look.startLine.holds h i
  | endLine => Linear.Look.endLine.holds h i
  | wordBoundary => (Linear.Look.word true).holds h i
  | notWordBoundary => (Linear.Look.notWord true).holds h i
  | wordStart => (Linear.Look.wordStart true).holds h i
  | wordEnd => (Linear.Look.wordEnd true).holds h i
  | wordStartHalf => (Linear.Look.wordStartHalf true).holds h i
  | wordEndHalf => (Linear.Look.wordEndHalf true).holds h i

end Assertion

namespace Machine

def returnLimit : Nat := 1000000

def choiceLimit : Nat := 1000000

def standsAt (h : Haystack) : List Char → Nat → Bool
  | [], _ => true
  | c :: cs, i => h.char? i == some c && standsAt h cs (i + 1)

def placeAfter? (h : Haystack) (i bytes : Nat) : Option Nat :=
  go (h.chars.extract i (i + bytes)).toList i bytes
where
  go : List Char → Nat → Nat → Option Nat
    | _, i, 0 => some i
    | [], _, _ + 1 => none
    | c :: cs, i, n => if c.utf8Size ≤ n then go cs (i + 1) (n - c.utf8Size) else none

def sameLetter (a b : Char) : Bool :=
  a == b || (Unicode.CharSet.singleton a).closeUnderCase.contains b

def beginsLike : List Char → List Char → Bool
  | [], _ => true
  | _ :: _, [] => false
  | c :: cs, d :: ds => sameLetter c d && beginsLike cs ds

/-- Whether a text of as many bytes is a referenced text but for case. A text in ASCII is compared
letter by letter; in any other it is enough to find the referenced text somewhere inside. -/
def sameText (wanted found : List Char) : Bool :=
  if found.all (·.toNat < 0x80) then wanted.map Text.lowerAscii == found.map Text.lowerAscii
  else somewhere found
where
  somewhere : List Char → Bool
    | [] => wanted.isEmpty
    | c :: cs => beginsLike wanted (c :: cs) || somewhere cs

def refer (h : Haystack) (lo hi pos : Nat) (ignoreCase : Bool) : Option Nat :=
  let wanted := (h.chars.extract lo hi).toList
  if hi < lo then none
  else if standsAt h wanted pos then some (pos + wanted.length)
  else if ignoreCase then
    match placeAfter? h pos (h.offset hi - h.offset lo) with
    | some stop =>
      if sameText wanted (h.chars.extract pos stop).toList then some stop else none
    | none => none
  else none

def slot? (m : Moment) (slot : Nat) : Option Nat := (m.slots[slot]?).join

def setSlot (m : Moment) (slot : Nat) (value : Option Nat) : Moment :=
  { m with slots := m.slots.setIfInBounds slot value }

def setGroups (m : Moment) (part : LinearPart) (t : Linear.Thread) : Moment :=
  (List.range part.count).foldl (fun m i =>
    let found := t.group? (i + 1)
    let slot := 2 * (part.first + i)
    setSlot (setSlot m slot (found.map (·.1))) (slot + 1) (found.map (·.2))) m

def fail (m : Machine) : Outcome :=
  match m.choices with
  | [] => .failed
  | choice :: rest =>
    if m.returns + 1 > returnLimit then .overrun .returns
    else .running { now := choice, choices := rest, depth := m.depth - 1, returns := m.returns + 1 }

def go (m : Machine) (now : Moment) (pc : Nat) : Outcome :=
  .running { m with now := { now with pc } }

def fork (m : Machine) (now : Moment) (pc other : Nat) : Outcome :=
  if choiceLimit ≤ m.depth then .overrun .choices
  else .running { m with
    now := { now with pc }
    choices := { now with pc := other } :: m.choices
    depth := m.depth + 1 }

def dropTo (pc : Nat) : List Moment → Nat → List Moment × Nat
  | [], depth => ([], depth)
  | choice :: rest, depth =>
    if choice.pc == pc then (rest, depth - 1) else dropTo pc rest (depth - 1)

/-- The slots of a match; a match that begins after its end begins at its end. -/
def finish (now : Moment) : Array (Option Nat) :=
  match slot? now 0, slot? now 1 with
  | some start, some stop => if stop < start then (setSlot now 0 (some stop)).slots else now.slots
  | _, _ => now.slots

def runLinear (s : Search) (m : Machine) (part : LinearPart) (next : Nat) : Outcome :=
  match part.program.anchored s.text m.now.pos s.text.size with
  | some t => m.go (setGroups { m.now with pos := t.pos } part t) next
  | none => m.fail

def runLinearBack (s : Search) (m : Machine) (mirrored : Linear.Program) (part : LinearPart)
    (next : Nat) : Outcome :=
  match mirrored.anchoredBack s.text m.now.pos with
  | none => m.fail
  | some t =>
    let now := { m.now with pos := t.pos }
    if part.count == 0 then m.go now next
    else match part.program.anchored s.text t.pos m.now.pos with
      | some t => m.go (setGroups now part t) next
      | none => m.fail

def step (p : Program) (s : Search) (m : Machine) : Outcome :=
  let now := m.now
  match p.code[now.pc]? with
  | none => .failed
  | some .done => .matched (finish now)
  | some (.any newline next) =>
    match s.text.char? now.pos with
    | some c =>
      if newline || c != '\n' then m.go { now with pos := now.pos + 1 } next else m.fail
    | none => m.fail
  | some (.text cs next) =>
    if standsAt s.text cs now.pos then m.go { now with pos := now.pos + cs.length } next
    else m.fail
  | some (.assertion a next) => if a.holds s.text now.pos then m.go now next else m.fail
  | some (.split first second) => m.fork now first second
  | some (.save slot next) => m.go (setSlot now slot (some now.pos)) next
  | some (.clear slot next) => m.go (setSlot now slot (some 0)) next
  | some (.restore slot next) => m.go { now with pos := (slot? now slot).getD now.pos } next
  | some (.counted lo hi greedy counter body next) =>
    let n := (slot? now counter).getD 0
    if n == hi then m.go now next
    else
      let now := setSlot now counter (some (n + 1))
      if n < lo then m.go now body
      else if greedy then m.fork now body next
      else m.fork now next body
  | some (.rounds lo greedy counter place body next) =>
    let n := (slot? now counter).getD 0
    if 0 < n && slot? now place == some now.pos then m.go now next
    else
      let now := setSlot now counter (some (n + 1))
      if n < lo then m.go now body
      else
        let now := setSlot now place (some now.pos)
        if greedy then m.fork now body next else m.fork now next body
  | some (.back n next) =>
    if n ≤ now.pos then m.go { now with pos := now.pos - n } next else m.fail
  | some (.refuted next) =>
    let (choices, depth) := dropTo next m.choices m.depth
    fail { m with choices, depth }
  | some (.linear part next) => runLinear s m part next
  | some (.linearBack mirrored part next) => runLinearBack s m mirrored part next
  | some (.backref group ignoreCase next) =>
    match slot? now (2 * group), slot? now (2 * group + 1) with
    | some lo, some hi =>
      match refer s.text lo hi now.pos ignoreCase with
      | some pos => m.go { now with pos } next
      | none => m.fail
    | _, _ => m.fail
  | some (.groupSet group next) =>
    if (slot? now (2 * group)).isSome then m.go now next else m.fail
  | some (.lastEnd first next) =>
    if s.start < now.pos || s.skipped then if first then .failed else m.fail
    else m.go now next
  | some (.beginAtomic next) => m.go { now with atomics := m.depth :: now.atomics } next
  | some (.endAtomic next) =>
    match now.atomics with
    | [] => m.go now next
    | depth :: atomics =>
      .running { m with
        now := { now with atomics, pc := next }
        choices := m.choices.drop (m.depth - depth)
        depth := min depth m.depth }

def run (p : Program) (s : Search) : Nat → Machine → Except Overrun (Option (Array (Option Nat)))
  | 0, _ => .error .returns
  | fuel + 1, m =>
    match step p s m with
    | .running m => run p s fuel m
    | .matched slots => .ok (some slots)
    | .failed => .ok none
    | .overrun o => .error o

/-- More steps than a search within the limits takes. -/
def enough (p : Program) (h : Haystack) : Nat :=
  (returnLimit + 1) * (p.code.size + 1) * (h.size + 2)

def search (p : Program) (s : Search) : Except Overrun (Option (Array (Option Nat))) :=
  let now : Moment := ⟨p.entry, s.start, Array.replicate p.slots none, []⟩
  run p s (enough p s.text) { now, choices := [], depth := 0, returns := 0 }

end Machine

end RegexStudio.Backtracking
