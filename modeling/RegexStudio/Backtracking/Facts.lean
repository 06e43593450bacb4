import RegexStudio.Backtracking.Parser

/-! What has to be known of a part before it is compiled: its groups, the least number of
characters it matches and whether it matches no other number, whether matching it may need
backtracking, and how far into its group it stands. -/

namespace RegexStudio.Backtracking

structure Facts where
  /-- Number of the first group inside, and the number after the last. -/
  firstGroup : Nat
  endGroup : Nat
  minSize : Nat
  isConst : Bool
  /-- Whether the linear engine cannot match the part in this place. -/
  hard : Bool
  /-- The least number of characters between the part and the start of the group around it. -/
  before : Nat
deriving DecidableEq, Inhabited, Repr

inductive Annotated
  | mk (node : Node) (facts : Facts) (children : List Annotated)
deriving Inhabited

namespace Annotated

def node : Annotated → Node
  | mk node _ _ => node

def facts : Annotated → Facts
  | mk _ facts _ => facts

def children : Annotated → List Annotated
  | mk _ _ children => children

end Annotated

namespace Facts

def isHard : Assertion → Bool
  | .startText | .endText | .startLine | .endLine => false
  | _ => true

def ofSequence (firstGroup endGroup before : Nat) (parts : List Annotated) : Facts where
  firstGroup := firstGroup
  endGroup := endGroup
  minSize := parts.foldr (fun part size => part.facts.minSize + size) 0
  isConst := parts.all (·.facts.isConst)
  hard := parts.any (·.facts.hard)
  before := before

def commonSize (first : Facts) (parts : List Annotated) : Nat × Bool :=
  parts.foldl (fun (size, same) part =>
    (min size part.facts.minSize,
      same && part.facts.isConst && size == part.facts.minSize)) (first.minSize, first.isConst)

def ofChoice (firstGroup endGroup before : Nat) (parts : List Annotated) : Facts :=
  let (minSize, isConst) := match parts with
    | [] => (0, true)
    | first :: rest => commonSize first.facts rest
  { firstGroup, endGroup, before, minSize, isConst, hard := parts.any (·.facts.hard) }

end Facts

/-- What is known from the parts passed so far in a walk over a pattern. -/
structure Survey where
  next : Nat
  /-- The groups passed: the number of each, its least size, and whether it has no other. -/
  sizes : List (Nat × Nat × Bool) := []

namespace Survey

def sizeOf (s : Survey) (group : Nat) : Nat × Bool := (s.sizes.lookup group).getD (0, false)

end Survey

structure Halt where
  refusal : Refusal
  next : Nat

mutual

/-- Annotates a part after others; `refs` holds the groups referred to, and `before` is the least
number of characters between the part and the start of the group around it. -/
def annotate (refs : List Nat) (before : Nat) (s : Survey) :
    Node → Except Halt (Annotated × Survey)
  | .empty => leaf .empty 0 true false
  | .any newline => leaf (.any newline) 1 true false
  | .assertion a => leaf (.assertion a) 0 true (Facts.isHard a)
  | .literal c ignoreCase => leaf (.literal c ignoreCase) 1 true false
  | .charClass text ignoreCase => leaf (.charClass text ignoreCase) 1 true false
  | .keepOut => leaf .keepOut 0 true true
  | .lastEnd => leaf .lastEnd 0 true true
  | .groupSet group => leaf (.groupSet group) 0 true true
  | .backref group ignoreCase =>
    let (minSize, isConst) := s.sizeOf group
    leaf (.backref group ignoreCase) minSize isConst true
  | .leveledBackref _ => .error ⟨.noLevels, s.next⟩
  | .call _ => .error ⟨.noCalls, s.next⟩
  | .callByName name position => .error ⟨.noSuchCall name position, s.next⟩
  | .concat items => do
    let (parts, after) ← annotateAll refs before s items
    .ok (.mk (.concat items) (.ofSequence s.next after.next before parts) parts, after)
  | .choice branches => do
    let (parts, after) ← annotateEach refs before s branches
    .ok (.mk (.choice branches) (.ofChoice s.next after.next before parts) parts, after)
  | .group sub => do
    let (part, after) ← annotate refs 0 { s with next := s.next + 1 } sub
    let facts : Facts :=
      { part.facts with
        firstGroup := s.next, before, hard := part.facts.hard || refs.contains s.next }
    let sizes := (s.next, facts.minSize, facts.isConst) :: after.sizes
    .ok (.mk (.group sub) facts [part], { after with sizes })
  | .look kind sub => do
    let (part, after) ← annotate refs before s sub
    .ok (.mk (.look kind sub) { part.facts with minSize := 0, isConst := true, hard := true }
      [part], after)
  | .rep lo hi greedy sub => do
    let (part, after) ← annotate refs before s sub
    let facts : Facts :=
      { part.facts with
        minSize := part.facts.minSize * lo, isConst := part.facts.isConst && hi == some lo }
    .ok (.mk (.rep lo hi greedy sub) facts [part], after)
  | .atomic sub => do
    let (part, after) ← annotate refs before s sub
    .ok (.mk (.atomic sub) { part.facts with hard := true } [part], after)
  | .condition test yes no => do
    let (a, after) ← annotate refs before s test
    let (b, after) ← annotate refs (before + a.facts.minSize) after yes
    let (c, after) ← annotate refs before after no
    let (x, y, z) := (a.facts, b.facts, c.facts)
    let facts : Facts :=
      { firstGroup := s.next
        endGroup := after.next
        before
        minSize := x.minSize + min y.minSize z.minSize
        isConst := x.isConst && y.isConst && z.isConst && x.minSize + y.minSize == z.minSize
        hard := true }
    .ok (.mk (.condition test yes no) facts [a, b, c], after)
where
  leaf (node : Node) (minSize : Nat) (isConst hard : Bool) : Except Halt (Annotated × Survey) :=
    .ok (.mk node { firstGroup := s.next, endGroup := s.next, before, minSize, isConst, hard } [],
      s)

def annotateAll (refs : List Nat) (before : Nat) (s : Survey) :
    List Node → Except Halt (List Annotated × Survey)
  | [] => .ok ([], s)
  | item :: rest => do
    let (part, s) ← annotate refs before s item
    let (parts, s) ← annotateAll refs (before + part.facts.minSize) s rest
    .ok (part :: parts, s)

def annotateEach (refs : List Nat) (before : Nat) (s : Survey) :
    List Node → Except Halt (List Annotated × Survey)
  | [] => .ok ([], s)
  | item :: rest => do
    let (part, s) ← annotate refs before s item
    let (parts, s) ← annotateEach refs before s rest
    .ok (part :: parts, s)

end

mutual

def Node.resolve (names : List (List Char × Nat)) : Node → Node
  | .callByName name position =>
    match names.lookup name with
    | some n => .call n
    | none => .callByName name position
  | .concat items => .concat (resolveAll names items)
  | .choice branches => .choice (resolveAll names branches)
  | .group sub => .group (sub.resolve names)
  | .look kind sub => .look kind (sub.resolve names)
  | .rep lo hi greedy sub => .rep lo hi greedy (sub.resolve names)
  | .atomic sub => .atomic (sub.resolve names)
  | .condition test yes no =>
    .condition (test.resolve names) (yes.resolve names) (no.resolve names)
  | node => node

def Node.resolveAll (names : List (List Char × Nat)) : List Node → List Node
  | [] => []
  | node :: rest => node.resolve names :: Node.resolveAll names rest

end

/-- A sequence that ends in a lookahead as a group, which holds what comes before, and the body of
the lookahead: the group is what the whole pattern matches. -/
def Node.freeLookahead : Node → Option Node
  | .concat items =>
    match items.getLast? with
    | some (.look .ahead sub) => some (.concat [.group (.concat items.dropLast), sub])
    | _ => none
  | _ => none

structure Analysis where
  root : Annotated
  /-- Whether the first group of the root is the whole match. -/
  ownMatch : Bool
  groups : Nat
deriving Inhabited

/-- Analyzes a pattern. References to groups that it does not have are refused before anything
else; where the walk ends early only the groups passed count. -/
def analyze (p : Parsed) : Except Refusal Analysis := do
  let node := p.node.resolve p.names
  let (node, ownMatch) := match node.freeLookahead with
    | some node => (node, true)
    | none => (node, false)
  let walk := annotate p.refs 0 { next := if ownMatch then 0 else 1 } node
  let groups := match walk with
    | .ok (_, after) => after.next
    | .error halt => halt.next
  if p.refs.contains 0 then .error (.noSuchGroup 0)
  else if let some highest := p.refs.max? then
    if groups ≤ highest then .error (.noSuchGroup highest)
  match walk with
  | .ok (root, _) => .ok { root, ownMatch, groups }
  | .error halt => .error halt.refusal

end RegexStudio.Backtracking
