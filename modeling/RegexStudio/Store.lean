import RegexStudio.Workspace

/-! The workspace with those who want to hear of it. Every update tells each listener once, in the
order in which they came, and all of them the same workspace. -/

namespace RegexStudio

structure Store (L : Type) where
  workspace : Workspace
  listeners : List L := []

namespace Store

variable {L : Type}

def subscribe (s : Store L) (listener : L) : Store L :=
  { s with listeners := s.listeners ++ [listener] }

def notify (s : Store L) : List (L × Workspace) := s.listeners.map fun l => (l, s.workspace)

/-- Merges an update, and tells everyone. -/
def dispatch (s : Store L) (u : Update) : List (L × Workspace) × Store L :=
  let s := { s with workspace := u.apply s.workspace }
  (s.notify, s)

end Store

end RegexStudio
