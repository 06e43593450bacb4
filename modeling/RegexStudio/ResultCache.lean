import RegexStudio.Evaluation

/-! A memory for one result. It is used again while nothing that the result depends on has changed.
A result may also be computed apart and stored later, under a ticket taken before; only the
newest ticket is honoured, so an older result never replaces a newer one. -/

namespace RegexStudio

/-- The part of the inputs that a result depends on. -/
structure ResultKey where
  engineAvailable : Bool
  mode : Option Mode
  pattern : String
  replacement : String
  subject : String
deriving DecidableEq, Inhabited, Repr

def Inputs.key (s : Inputs) : ResultKey where
  engineAvailable := s.engineAvailable
  mode := s.mode
  pattern := s.pattern
  replacement := s.replacement
  subject := s.subject

structure Ticket where
  key : ResultKey
  generation : Nat
deriving DecidableEq, Inhabited, Repr

structure Entry where
  key : ResultKey
  result : Evaluation
  generation : Nat
deriving Inhabited, Repr

def Entry.ofTicket (t : Ticket) (e : Evaluation) : Entry where
  key := t.key
  result := e
  generation := t.generation

structure Lookup where
  result : Evaluation
  recomputed : Bool
  generation : Nat
  events : List Event
deriving Inhabited

structure ResultCache where
  entry : Option Entry := none
  generation : Nat := 0
  computed : Nat := 0
deriving Inhabited, Repr

namespace ResultCache

def issue (c : ResultCache) (s : Inputs) : Ticket × ResultCache :=
  let generation := c.generation + 1
  (⟨s.key, generation⟩, { c with generation })

def compute (c : ResultCache) (b : Backend) (s : Inputs) :
    Except Breakdown (Evaluation × ResultCache) := do
  let e ← evaluate b s
  .ok (e, { c with computed := c.computed + 1 })

/-- Stores a result unless a newer ticket was given out. -/
def commit (c : ResultCache) (t : Ticket) (e : Evaluation) : Bool × ResultCache :=
  if t.generation = c.generation then (true, { c with entry := some (.ofTicket t e) })
  else (false, c)

def clear (c : ResultCache) : ResultCache := { c with entry := none }

def stored (c : ResultCache) : Option Evaluation := c.entry.map (·.result)

def renew (c : ResultCache) (b : Backend) (s : Inputs) :
    Except Breakdown (Lookup × ResultCache) := do
  let pass ← Pass.run b s
  let (ticket, c) := c.issue s
  let c := { c with entry := some (.ofTicket ticket pass.result), computed := c.computed + 1 }
  .ok ({ result := pass.result
         recomputed := true
         generation := ticket.generation
         events := pass.events ++ [.derived ticket.generation pass.result.isError] }, c)

def get (c : ResultCache) (b : Backend) (s : Inputs) :
    Except Breakdown (Lookup × ResultCache) :=
  match c.entry with
  | some entry =>
    if entry.key = s.key then
      .ok ({ result := entry.result
             recomputed := false
             generation := entry.generation
             events := [.reused entry.generation] }, c)
    else c.renew b s
  | none => c.renew b s

end ResultCache

end RegexStudio
