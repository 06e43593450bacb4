import RegexStudio.ResultCache
import RegexStudio.UpdateReader
import RegexStudio.Store

/-! A session: one partial update per line of input, one reply per line of output. Lines of blanks
are passed over, and a line that is no update is refused without a trace in the state. -/

namespace RegexStudio

structure Snapshot where
  generation : Nat
  recomputed : Bool
  mode : String
  engine : Availability
  docs : ManualLinks
  result : Evaluation
deriving Inhabited, Repr

inductive Reply
  | snapshot (s : Snapshot)
  | refused (fault : Json.Fault)
deriving Inhabited, Repr

structure Session where
  store : Store Unit
  cache : ResultCache
  lines : Nat

structure Answer where
  replies : List Reply := []
  events : List Event := []
deriving Inhabited

namespace Session

def snapshots (b : Backend) :
    List (Unit × Workspace) → ResultCache → Except Breakdown (Answer × ResultCache)
  | [], cache => .ok ({}, cache)
  | (_, w) :: rest, cache => do
    let (found, cache) ← cache.get b w.inputs
    let snapshot : Snapshot :=
      { generation := found.generation
        recomputed := found.recomputed
        mode := w.modeName
        engine := w.availability
        docs := w.versions.manualLinks
        result := found.result }
    let (more, cache) ← snapshots b rest cache
    .ok ({ replies := .snapshot snapshot :: more.replies
           events := w.modeEvents ++ found.events ++ more.events }, cache)

def start (b : Backend) (initial : Workspace) : Except Breakdown (Answer × Session) := do
  let store := (Store.mk initial []).subscribe ()
  let (answer, cache) ← snapshots b store.notify {}
  .ok ({ answer with events := .sessionStarted :: answer.events }, { store, cache, lines := 0 })

def feed (b : Backend) (s : Session) (line : String) : Except Breakdown (Answer × Session) :=
  if (Text.trim line.toList).isEmpty then .ok ({}, s)
  else
    let s := { s with lines := s.lines + 1 }
    match Update.parse line with
    | .error fault =>
      .ok ({ replies := [.refused fault], events := [.lineRejected fault.display] }, s)
    | .ok update => do
      let (told, store) := s.store.dispatch update
      let (answer, cache) ← snapshots b told s.cache
      .ok ({ answer with events := .updated store.listeners.length :: answer.events },
        { s with store, cache })

def finish (s : Session) : List Event := [.sessionEnded s.lines s.store.workspace.modeName]

end Session

/-- The lines of a byte stream: the bytes between line feeds, less a carriage return before a line
feed; a last line without line feed counts unless it is empty. -/
def byteLines (bytes : List UInt8) : List (List UInt8) :=
  go [] bytes
where
  go (line : List UInt8) : List UInt8 → List (List UInt8)
    | [] => if line.isEmpty then [] else [line.reverse]
    | b :: rest =>
      if b == 10 then
        let ended := match line with
          | 13 :: before => before
          | line => line
        ended.reverse :: go [] rest
      else go (b :: line) rest

def textOf? (bytes : List UInt8) : Option String := String.fromUTF8? ⟨bytes.toArray⟩

/-- What a whole session says, whether it ended at a line that is not UTF-8, and what it broke down
at, if it did. What it would have said about that line is lost. -/
structure Transcript where
  replies : List Reply := []
  events : List Event := []
  unreadable : Bool := false
  breakdown : Option Breakdown := none
deriving Inhabited

def Transcript.after (answer : Answer) (t : Transcript) : Transcript :=
  { t with replies := answer.replies ++ t.replies, events := answer.events ++ t.events }

namespace Session

def feedAll (b : Backend) (s : Session) : List (List UInt8) → Transcript
  | [] => { events := s.finish }
  | bytes :: rest =>
    match textOf? bytes with
    | none => { unreadable := true }
    | some line =>
      match s.feed b line with
      | .error e => { breakdown := some e }
      | .ok (answer, s) => (feedAll b s rest).after answer

def run (b : Backend) (initial : Workspace) (input : List UInt8) : Transcript :=
  match start b initial with
  | .error e => { breakdown := some e }
  | .ok (first, s) => (feedAll b s (byteLines input)).after first

end Session

end RegexStudio
