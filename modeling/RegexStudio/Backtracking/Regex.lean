import RegexStudio.Backtracking.Machine

/-! Patterns of the backtracking engine: compiling them, and listing all their matches in a text. A
pattern that needs no backtracking at all is matched by the linear engine. -/

namespace RegexStudio.Backtracking

open Text (Haystack)

inductive Matcher
  | linear (re : Linear.Regex) (ownMatch : Bool)
  | machine (program : Program)
deriving Inhabited, Repr

structure Regex where
  matcher : Matcher
  groupNames : List (Option String)
deriving Inhabited, Repr

namespace Regex

def namesByNumber (groups : Nat) (names : List (List Char × Nat)) : List (Option String) :=
  none :: (List.range (groups - 1)).map fun i =>
    (names.find? fun (name, n) => n == i + 1 && names.lookup name == some n).map fun (name, _) =>
      String.ofList name

def compileLinear (a : Analysis) : Except Refusal Linear.Regex :=
  match Linear.Regex.compile (Printer.print .free a.root.node) with
  | .ok re => .ok re
  | .error .tooLarge => .error .partTooLarge
  | .error _ => .error .partRefused

def compile (pattern : List Char) : Except Refusal Regex := do
  let parsed ← parse pattern
  let a ← analyze parsed
  if !a.root.facts.hard then
    let re ← compileLinear a
    let groups := if a.ownMatch then re.groupNames.length - 1 else re.groupNames.length
    .ok { matcher := .linear re a.ownMatch, groupNames := namesByNumber groups parsed.names }
  else
    let plan ← Plan.make false false a.root
    let program := Program.ofPlan plan a.groups a.ownMatch (Program.isAnchored a.root.node)
    .ok { matcher := .machine program, groupNames := namesByNumber a.groups parsed.names }

/-- A match of the linear engine whose first group is the whole match. -/
def ownHit (hit : Hit) : Hit :=
  match hit.groups with
  | some (start, stop) :: groups => { start, stop, groups }
  | _ :: groups => { hit with groups }
  | [] => hit

def slotsHit (groups : Nat) (slots : Array (Option Nat)) : Hit :=
  let slot (i : Nat) : Option Nat := (slots[i]?).join
  let range (n : Nat) : Option (Nat × Nat) := do some (← slot (2 * n), ← slot (2 * n + 1))
  let (start, stop) := (range 0).getD (0, 0)
  { start, stop, groups := (List.range (groups - 1)).map fun i => range (i + 1) }

def find (re : Regex) (h : Haystack) (start : Nat) (skipped : Bool) :
    Except Overrun (Option Hit) :=
  match re.matcher with
  | .linear linear ownMatch =>
    .ok ((linear.find h start).map fun hit => if ownMatch then ownHit hit else hit)
  | .machine program => do
    let slots ← Machine.search program ⟨h, start, skipped⟩
    .ok (slots.map (slotsHit re.groupNames.length))

/-- Matches from a place on. An empty match where the last match ended does not count. -/
def listingFrom (re : Regex) (h : Haystack) : Nat → Nat → Option Nat → Listing
  | 0, _, _ => { hits := [], ending := .endless }
  | fuel + 1, start, last =>
    if h.size < start then { hits := [], ending := .complete }
    else
      match re.find h start (last.any (· < start)) with
      | .error o => { hits := [], ending := .failed o.message }
      | .ok none => { hits := [], ending := .complete }
      | .ok (some m) =>
        if m.start == m.stop then
          if last == some m.stop then listingFrom re h fuel (m.stop + 1) last
          else (listingFrom re h fuel (m.stop + 1) (some m.stop)).cons m
        else (listingFrom re h fuel m.stop (some m.stop)).cons m

/-- All matches. A search never ends before the place where it began, so a listing visits a place
twice at most, unless it comes to a match that ends where the last one did and finds it over and
over again. -/
def listing (re : Regex) (h : Haystack) : Listing := re.listingFrom h (2 * h.size + 3) 0 none

end Regex

end RegexStudio.Backtracking
