import RegexStudio.Evaluation
import RegexStudio.Documentation
import RegexStudio.Json.Value

/-! What is kept between edits, and how a partial update changes it: a later value wins, and what an
update leaves out stays. -/

namespace RegexStudio

structure EngineFlags where
  engine : Bool := true
  engineError : Option String := none
  completed : Bool := true
deriving DecidableEq, Inhabited, Repr

structure Versions where
  regex : Option String := none
  regexSyntax : Option String := none
deriving DecidableEq, Inhabited, Repr

structure ManualLinks where
  regex : String
  regexSyntax : String
deriving DecidableEq, Inhabited, Repr

def Versions.manualLinks (v : Versions) : ManualLinks where
  regex := (Documentation.ofPackage "regex" (v.regex.getD "")).rootUrl
  regexSyntax := (Documentation.ofPackage "regex-syntax" (v.regexSyntax.getD "")).rootUrl

structure Workspace where
  pattern : String := ""
  replacement : String := ""
  text : String := ""
  modeName : String := Mode.standard.name
  flags : EngineFlags := {}
  versions : Versions := {}
  extra : List (String × Json) := []
deriving Inhabited, Repr

namespace Workspace

def inputs (w : Workspace) : Inputs where
  pattern := w.pattern
  replacement := w.replacement
  subject := w.text
  mode := Mode.parse w.modeName
  engineAvailable := w.flags.engine
  engineLoadError := w.flags.engineError

def modeEvents (w : Workspace) : List Event :=
  if (Mode.parse w.modeName).isNone then [.unknownMode w.modeName] else []

def availability (w : Workspace) : Availability where
  available := w.flags.engine
  error := w.flags.engineError

end Workspace

structure EngineFlagsUpdate where
  engine : Option Bool := none
  engineError : Option String := none
  completed : Option Bool := none
deriving DecidableEq, Inhabited, Repr

structure Update where
  pattern : Option String := none
  replacement : Option String := none
  text : Option String := none
  modeName : Option String := none
  flags : Option EngineFlagsUpdate := none
  versions : Option Versions := none
  extra : List (String × Json) := []
deriving Inhabited, Repr

namespace EngineFlagsUpdate

def apply (u : EngineFlagsUpdate) (f : EngineFlags) : EngineFlags where
  engine := u.engine.getD f.engine
  engineError := match u.engineError with
    | some error => if error.isEmpty then none else some error
    | none => f.engineError
  completed := u.completed.getD f.completed

end EngineFlagsUpdate

namespace Update

def applyVersions (u v : Versions) : Versions where
  regex := u.regex.or v.regex
  regexSyntax := u.regexSyntax.or v.regexSyntax

def apply (u : Update) (w : Workspace) : Workspace where
  pattern := u.pattern.getD w.pattern
  replacement := u.replacement.getD w.replacement
  text := u.text.getD w.text
  modeName := u.modeName.getD w.modeName
  flags := match u.flags with
    | some f => f.apply w.flags
    | none => w.flags
  versions := match u.versions with
    | some v => applyVersions v w.versions
    | none => w.versions
  extra := u.extra.foldl (fun extra m => Json.insertMember m.1 m.2 extra) w.extra

end Update

end RegexStudio
