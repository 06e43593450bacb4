import RegexStudio.Json.Writer
import RegexStudio.Session

/-! Results as JSON. Members that have nothing to say are left out. -/

namespace RegexStudio

def Capture.toJson (c : Capture) : Json :=
  .object ([("group", .natural c.group)] ++ Json.optional "name" (c.name.map .string) ++
    [("text", .string c.text), ("start", .natural c.start), ("end", .natural c.stop)])

def Match.toJson (m : Match) : Json :=
  .object [("text", .string m.text), ("start", .natural m.start), ("end", .natural m.stop),
    ("captures", .array (m.captures.map (·.toJson)))]

namespace Outline

def Range.toJson (r : Range) : Json :=
  .object [("start", .natural r.start), ("end", .natural r.stop)]

def Label.members (l : Label) : List (String × Json) :=
  [("kind", .string l.kind), ("text", .string l.text)] ++
    Json.optional "span" (l.span.map (·.toJson)) ++
    Json.optional "detail" (l.detail.map .string) ++
    Json.optional "group" (l.group.map .natural)

mutual

def Node.toJson : Node → Json
  | .mk label [] => .object label.members
  | .mk label children => .object (label.members ++ [("children", .array (nodesToJson children))])

def nodesToJson : List Node → List Json
  | [] => []
  | node :: rest => node.toJson :: nodesToJson rest

end

def toJson (o : Outline) : Json :=
  .object [("engine", .string o.engine), ("root", o.root.toJson)]

end Outline

def PatternError.toJson (e : PatternError) : Json :=
  .object ([("message", .string e.message)] ++
    Json.optional "position" (e.position.map .natural))

def ReplacementError.toJson : ReplacementError → Json
  | .unclosedBrace position =>
    .object [("kind", .string "unclosed_brace"), ("position", .natural position)]
  | .emptyGroupName position =>
    .object [("kind", .string "empty_group_name"), ("position", .natural position)]
  | .groupOutOfRange index max =>
    .object [("kind", .string "group_out_of_range"), ("index", .natural index),
      ("max", .natural max)]
  | .unknownGroup name => .object [("kind", .string "unknown_group"), ("name", .string name)]
  | .runtime message => .object [("kind", .string "runtime"), ("message", .string message)]

def Evaluation.toJson : Evaluation → Json
  | .tree outline => .object [("kind", .string "syntax"), ("value", outline.toJson)]
  | .find ms => .object [("kind", .string "find"), ("value", .array (ms.map (·.toJson)))]
  | .replace text => .object [("kind", .string "replace"), ("value", .string text)]
  | .patternError e => .object [("kind", .string "pattern_error"), ("value", e.toJson)]
  | .replacementError e => .object [("kind", .string "replacement_error"), ("value", e.toJson)]
  | .empty => .object [("kind", .string "empty")]

def Availability.toJson (s : Availability) : Json :=
  .object ([("available", .bool s.available)] ++ Json.optional "error" (s.error.map .string))

def ManualLinks.toJson (d : ManualLinks) : Json :=
  .object [("regex", .string d.regex), ("regex_syntax", .string d.regexSyntax)]

def Documentation.toJson (d : Documentation) : Json :=
  .object ([("package", .string d.package)] ++ Json.optional "version" (d.version.map .string) ++
    [("home_url", .string d.rootUrl)])

def Snapshot.toJson (s : Snapshot) : Json :=
  .object [("generation", .natural s.generation), ("recomputed", .bool s.recomputed),
    ("mode", .string s.mode), ("engine", s.engine.toJson), ("docs", s.docs.toJson),
    ("result", s.result.toJson)]

def EngineFlags.toJson (f : EngineFlags) : Json :=
  .object ([("engine", .bool f.engine)] ++
    Json.optional "engine_error" (f.engineError.map .string) ++
    [("completed", .bool f.completed)])

def Versions.toJson (v : Versions) : Json :=
  .object (Json.optional "regex" (v.regex.map .string) ++
    Json.optional "regex_syntax" (v.regexSyntax.map .string))

def Workspace.toJson (w : Workspace) : Json :=
  .object [("pattern", .string w.pattern), ("replacement", .string w.replacement),
    ("text", .string w.text), ("method", .string w.modeName), ("features", w.flags.toJson),
    ("versions", w.versions.toJson), ("extra", .object w.extra)]

/-- A failure as it is told to other programs. -/
structure FailureReport where
  code : String
  message : String
  suggestion : Option String := none
deriving DecidableEq, Inhabited, Repr

namespace FailureReport

def toJson (e : FailureReport) : Json :=
  .object ([("error", .bool true), ("code", .string e.code), ("message", .string e.message)] ++
    Json.optional "suggestion" (e.suggestion.map .string))

def ofCommand (message : String) : FailureReport where
  code := "COMMAND_ERROR"
  message := message

def ofLine (fault : Json.Fault) : FailureReport where
  code := "INVALID_INPUT"
  message := "Parse error: " ++ fault.display
  suggestion := some "Send one JSON object per line, e.g. \x7b\"pattern\": \"a+\"\x7d"

end FailureReport

namespace Reply

def toJson : Reply → Json
  | snapshot s => s.toJson
  | refused fault => (FailureReport.ofLine fault).toJson

def line (r : Reply) : String := r.toJson.compact ++ "\n"

end Reply

end RegexStudio
