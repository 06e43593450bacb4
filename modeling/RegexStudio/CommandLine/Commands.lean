import RegexStudio.CommandLine.Arguments
import RegexStudio.Output.Encode
import RegexStudio.Output.Report

/-! What the commands do. A broken pattern or template is a result like any other; a command fails
only when it cannot get its input or does not know the engine. -/

namespace RegexStudio.CommandLine

def engineOf (name : Option String) : Except String (Option Engine) :=
  match name with
  | none => .ok none
  | some "regex" => .ok (some .linear)
  | some "fancy-regex" | some "fancy" => .ok (some .backtracking)
  | some name =>
    .error ("Unknown engine '" ++ name ++ "'. Valid options: regex, fancy-regex")

inductive Source
  | file (path : String)
  | given (text : String)
  | input
deriving DecidableEq, Inhabited, Repr

def EvalRequest.source (r : EvalRequest) : Source :=
  match r.file, r.text with
  | some path, _ => .file path
  | none, some text => .given text
  | none, none => if r.mode = .tree then .given "" else .input

abbrev Contents := Except String (List UInt8)

def notText : String := "stream did not contain valid UTF-8"

def readable (what : String) (contents : Contents) : Except String String :=
  match contents with
  | .error e => .error (what ++ ": " ++ e)
  | .ok bytes => match textOf? bytes with
    | some text => .ok text
    | none => .error (what ++ ": " ++ notText)

def Source.subject (s : Source) (contents : Contents) : Except String String :=
  match s with
  | file path => readable ("Failed to read file: " ++ path) contents
  | given text => .ok text
  | input => readable "Failed to read stdin" contents

structure EvalReport where
  pattern : String
  mode : Mode
  engine : Availability
  result : Evaluation
deriving Inhabited, Repr

namespace EvalReport

def toJson (r : EvalReport) : Json :=
  .object [("pattern", .string r.pattern), ("mode", .string r.mode.name),
    ("engine", r.engine.toJson), ("result", r.result.toJson)]

def report (r : EvalReport) : String :=
  "Pattern: " ++ r.pattern ++ "\nMode:    " ++ r.mode.name ++ "\n\n" ++ r.result.report r.engine

def render (r : EvalReport) : Format → String
  | .json => r.toJson.pretty
  | .text => r.report

end EvalReport

structure Outcome where
  output : Except String String
  events : List Event := []
deriving Inhabited

def EvalRequest.answer (r : EvalRequest) (subject : String) (engine : Option Engine) :
    Except Breakdown (EvalReport × List Event) := do
  let state : Inputs :=
    { pattern := r.pattern
      subject := subject
      mode := some r.mode
      replacement := r.replacement.getD "" }
  let pass ← Pass.run (.ofEngine engine) state
  .ok ({ pattern := r.pattern
         mode := r.mode
         engine := state.availability
         result := pass.result }, pass.events)

/-- Evaluates a pattern once. An unknown engine is reported before a text that cannot be read. -/
def runEval (r : EvalRequest) (format : Format) (contents : Contents) :
    Except Breakdown Outcome :=
  match engineOf r.engine with
  | .error e => .ok { output := .error e }
  | .ok engine =>
    match r.source.subject contents with
    | .error e => .ok { output := .error e }
    | .ok subject => do
      let (result, events) ← r.answer subject engine
      .ok { output := .ok (result.render format), events }

def renderDocs (d : Documentation) : Format → String
  | .json => d.toJson.pretty
  | .text => d.report

def runDocs (package : String) (version : Option String) (format : Format) :
    Except String String :=
  if (Text.trim package.toList).isEmpty then .error "Package name must not be empty"
  else .ok (renderDocs (.ofPackage package (version.getD "")) format)

end RegexStudio.CommandLine
