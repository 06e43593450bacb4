import RegexStudio.Compiled
import RegexStudio.Mode
import RegexStudio.Outline

/-! What follows from a snapshot of the inputs: one result, whatever was computed before. A broken
pattern shows in every mode; fields that a mode does not use play no part. -/

namespace RegexStudio

structure Availability where
  available : Bool
  error : Option String := none
deriving DecidableEq, Inhabited, Repr

/-- Everything that a result may depend on. -/
structure Inputs where
  pattern : String
  replacement : String := ""
  subject : String
  mode : Option Mode := some .standard
  engineAvailable : Bool := true
  engineLoadError : Option String := none
deriving DecidableEq, Inhabited, Repr

def Inputs.availability (s : Inputs) : Availability where
  available := s.engineAvailable
  error := s.engineLoadError

inductive Evaluation
  | tree (outline : Outline)
  | find (ms : List Match)
  | replace (text : String)
  | patternError (e : PatternError)
  | replacementError (e : ReplacementError)
  | empty
deriving Inhabited, Repr

def Evaluation.isError : Evaluation → Bool
  | patternError _ | replacementError _ => true
  | _ => false

inductive Event
  | compiled (engine : Engine)
  | rejected (error : String)
  | listingAborted (error : String) (found : Nat)
  | derived (generation : Nat) (isError : Bool)
  | reused (generation : Nat)
  | unknownMode (name : String)
  | updated (listeners : Nat)
  | sessionStarted
  | lineRejected (error : String)
  | sessionEnded (lines : Nat) (mode : String)
deriving DecidableEq, Inhabited, Repr

structure MatchList where
  ms : List Match
  failure : Option String
deriving DecidableEq, Inhabited, Repr

/-- What an evaluation needs of an engine. -/
structure Backend where
  Compiled : Type
  compile : String → Except PatternError Compiled
  engine : Compiled → Engine
  outline : Compiled → Outline
  findAll : Compiled → String → Except Breakdown MatchList
  replaceAll : Compiled → String → String → Except Breakdown (Except ReplacementError String)

namespace Backend

structure Source where
  pattern : String
  compiled : RegexStudio.Compiled
deriving Inhabited

def matchList (c : RegexStudio.Compiled) (subject : String) : Except Breakdown MatchList :=
  let h := Text.Haystack.ofString subject
  let found := c.listing h
  let ms := found.hits.map (·.toMatch h c.groupNames)
  match found.ending with
  | .complete => .ok { ms, failure := none }
  | .failed message => .ok { ms, failure := some message }
  | .endless => .error .endless

def replaced (c : RegexStudio.Compiled) (subject template : String) :
    Except Breakdown (Except ReplacementError String) :=
  match Template.compile template c.groupNames with
  | .error e => .ok (.error e)
  | .ok t => c.replace (Text.Haystack.ofString subject) t

def ofEngine (forced : Option Engine) : Backend where
  Compiled := Source
  compile pattern := (RegexStudio.Compiled.ofPattern forced pattern).map (⟨pattern, ·⟩)
  engine s := s.compiled.engine
  outline s := .ofPattern s.pattern s.compiled.engine
  findAll s subject := matchList s.compiled subject
  replaceAll s subject template := replaced s.compiled subject template

end Backend

/-- A result, and what the log says about how it came about. -/
structure Pass where
  result : Evaluation
  events : List Event
deriving Inhabited

namespace Pass

def ofMode (b : Backend) (c : b.Compiled) (s : Inputs) : Mode → Except Breakdown Pass
  | .tree => .ok ⟨.tree (b.outline c), []⟩
  | .find => do
    let found ← b.findAll c s.subject
    let events := match found.failure with
      | some error => [.listingAborted error found.ms.length]
      | none => []
    .ok ⟨.find found.ms, events⟩
  | .replace =>
    if s.replacement.isEmpty then .ok ⟨.replace s.subject, []⟩
    else do
      match ← b.replaceAll c s.subject s.replacement with
      | .ok text => .ok ⟨.replace text, []⟩
      | .error e => .ok ⟨.replacementError e, []⟩

def run (b : Backend) (s : Inputs) : Except Breakdown Pass :=
  if !s.engineAvailable then .ok ⟨.empty, []⟩
  else match b.compile s.pattern with
    | .error e => .ok ⟨.patternError e, [.rejected e.message]⟩
    | .ok c => do
      let pass ← match s.mode with
        | none => .ok ⟨.empty, []⟩
        | some mode => ofMode b c s mode
      .ok { pass with events := .compiled (b.engine c) :: pass.events }

end Pass

def evaluate (b : Backend) (s : Inputs) : Except Breakdown Evaluation :=
  (Pass.run b s).map (·.result)

end RegexStudio
