import RegexStudio.Text.Haystack

/-! Matches as they are shown, with byte offsets, and as an engine finds them, with character
places. -/

namespace RegexStudio

structure Capture where
  group : Nat
  name : Option String
  text : String
  start : Nat
  stop : Nat
deriving DecidableEq, Inhabited, Repr

structure Match where
  text : String
  start : Nat
  stop : Nat
  captures : List Capture
deriving DecidableEq, Inhabited, Repr

/-- A match by places in the text; `groups` holds the groups from the first on. -/
structure Hit where
  start : Nat
  stop : Nat
  groups : List (Option (Nat × Nat))
deriving DecidableEq, Inhabited, Repr

inductive Ending
  | complete
  | failed (message : String)
  | endless
deriving DecidableEq, Inhabited, Repr

/-- The matches of a pattern one after another, and what comes after the last one. -/
structure Listing where
  hits : List Hit
  ending : Ending
deriving DecidableEq, Inhabited, Repr

def Listing.cons (hit : Hit) (l : Listing) : Listing := { l with hits := hit :: l.hits }

namespace Hit

open Text (Haystack)

def group? (hit : Hit) : Nat → Option (Nat × Nat)
  | 0 => some (hit.start, hit.stop)
  | n + 1 => (hit.groups[n]?).join

def capturesFrom (h : Haystack) (names : List (Option String)) :
    Nat → List (Option (Nat × Nat)) → List Capture
  | _, [] => []
  | index, none :: rest => capturesFrom h names (index + 1) rest
  | index, some (start, stop) :: rest =>
    { group := index, name := (names[index]?).join, text := h.slice start stop,
      start := h.offset start, stop := h.offset stop } ::
      capturesFrom h names (index + 1) rest

def toMatch (h : Haystack) (names : List (Option String)) (hit : Hit) : Match where
  text := h.slice hit.start hit.stop
  start := h.offset hit.start
  stop := h.offset hit.stop
  captures := capturesFrom h names 1 hit.groups

end Hit

end RegexStudio
