import RegexStudio.Json.Value
import RegexStudio.Workspace

/-! Results read back from JSON. A record is an object, of which members that are not known do not
matter, or an array with the values of all fields in their order. An optional member may be left out
or be `null`; the children of a node may be left out, but not be `null`. -/

namespace RegexStudio

namespace Json

def field (j : Json) (key : String) : Json := (j.member? key).getD .null

def text? : Json → Option String
  | string s => some s
  | _ => none

def flag? : Json → Option Bool
  | bool b => some b
  | _ => none

def natural? : Json → Option Nat
  | integer n => if 0 ≤ n then some n.toNat else none
  | _ => none

def items? : Json → Option (List Json)
  | array items => some items
  | _ => none

/-- A record as an object: what is an object already, or an array with a value for each name. -/
def record? (names : List String) : Json → Option Json
  | object members => some (object members)
  | array items => if items.length = names.length then some (object (names.zip items)) else none
  | _ => none

/-- The kind of a record and the record, which has its fields beside the kind, or after it. -/
def tagged? : Json → Option (String × Json)
  | object members => ((object members).field "kind").text?.map (·, object members)
  | array (string kind :: items) => some (kind, array items)
  | _ => none

def maybe? {α : Type} (read : Json → Option α) : Json → Option (Option α)
  | null => some none
  | j => (read j).map some

end Json

def Capture.ofJson? (j : Json) : Option Capture := do
  let j ← j.record? ["group", "name", "text", "start", "end"]
  some
    { group := ← (j.field "group").natural?
      name := ← (j.field "name").maybe? Json.text?
      text := ← (j.field "text").text?
      start := ← (j.field "start").natural?
      stop := ← (j.field "end").natural? }

def Match.ofJson? (j : Json) : Option Match := do
  let j ← j.record? ["text", "start", "end", "captures"]
  some
    { text := ← (j.field "text").text?
      start := ← (j.field "start").natural?
      stop := ← (j.field "end").natural?
      captures := ← (← (j.field "captures").items?).mapM Capture.ofJson? }

namespace Outline

def Range.ofJson? (j : Json) : Option Range := do
  let j ← j.record? ["start", "end"]
  some { start := ← (j.field "start").natural?, stop := ← (j.field "end").natural? }

def Label.ofJson? (j : Json) : Option Label := do
  let j ← j.record? ["kind", "text", "span", "detail", "group"]
  some
    { kind := ← (j.field "kind").text?
      text := ← (j.field "text").text?
      span := ← (j.field "span").maybe? Range.ofJson?
      detail := ← (j.field "detail").maybe? Json.text?
      group := ← (j.field "group").maybe? Json.natural? }

mutual

def Node.ofJson? : Json → Option Node
  | .object members => do
    let label ← Label.ofJson? (.object members)
    let children ← childrenOf? members
    some (.mk label children)
  | .array [kind, text, span, detail, group] => do
    let label ← Label.ofJson? (.array [kind, text, span, detail, group])
    some (.mk label [])
  | .array [kind, text, span, detail, group, .array items] => do
    let label ← Label.ofJson? (.array [kind, text, span, detail, group])
    let children ← nodesOfJson? items
    some (.mk label children)
  | _ => none

def childrenOf? : List (String × Json) → Option (List Node)
  | [] => some []
  | (key, .array items) :: rest =>
    if key == "children" then nodesOfJson? items else childrenOf? rest
  | (key, _) :: rest => if key == "children" then none else childrenOf? rest

def nodesOfJson? : List Json → Option (List Node)
  | [] => some []
  | j :: rest => do
    let node ← Node.ofJson? j
    let nodes ← nodesOfJson? rest
    some (node :: nodes)

end

def ofJson? (j : Json) : Option Outline := do
  let j ← j.record? ["engine", "root"]
  some { engine := ← (j.field "engine").text?, root := ← Node.ofJson? (j.field "root") }

end Outline

def PatternError.ofJson? (j : Json) : Option PatternError := do
  let j ← j.record? ["message", "position"]
  some
    { message := ← (j.field "message").text?
      position := ← (j.field "position").maybe? Json.natural? }

def ReplacementError.ofJson? (j : Json) : Option ReplacementError := do
  let (kind, j) ← j.tagged?
  match kind with
  | "unclosed_brace" =>
    let j ← j.record? ["position"]
    some (.unclosedBrace (← (j.field "position").natural?))
  | "empty_group_name" =>
    let j ← j.record? ["position"]
    some (.emptyGroupName (← (j.field "position").natural?))
  | "group_out_of_range" =>
    let j ← j.record? ["index", "max"]
    some (.groupOutOfRange (← (j.field "index").natural?) (← (j.field "max").natural?))
  | "unknown_group" =>
    let j ← j.record? ["name"]
    some (.unknownGroup (← (j.field "name").text?))
  | "runtime" =>
    let j ← j.record? ["message"]
    some (.runtime (← (j.field "message").text?))
  | _ => none

def EngineFlags.ofJson? (j : Json) : Option EngineFlags := do
  let j ← j.record? ["engine", "engine_error", "completed"]
  some
    { engine := ← (j.field "engine").flag?
      engineError := ← (j.field "engine_error").maybe? Json.text?
      completed := ← (j.field "completed").flag? }

def Versions.ofJson? (j : Json) : Option Versions := do
  let j ← j.record? ["regex", "regex_syntax"]
  some
    { regex := ← (j.field "regex").maybe? Json.text?
      regexSyntax := ← (j.field "regex_syntax").maybe? Json.text? }

def Workspace.ofJson? (j : Json) : Option Workspace := do
  let j ← j.record? ["pattern", "replacement", "text", "method", "features", "versions", "extra"]
  let extra ← match j.field "extra" with
    | .object members => some members
    | _ => none
  some
    { pattern := ← (j.field "pattern").text?
      replacement := ← (j.field "replacement").text?
      text := ← (j.field "text").text?
      modeName := ← (j.field "method").text?
      flags := ← EngineFlags.ofJson? (j.field "features")
      versions := ← Versions.ofJson? (j.field "versions")
      extra }

end RegexStudio
