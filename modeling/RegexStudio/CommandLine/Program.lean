import RegexStudio.CommandLine.Commands
import RegexStudio.Log

/-! The whole program: from its arguments and what it reads to its exit code and what it writes. -/

namespace RegexStudio.CommandLine

structure Exit where
  code : Nat
  stdout : String := ""
  stderr : String := ""
deriving DecidableEq, Inhabited, Repr

def versionText : String := "rx-playground 0.1.0\n"

def summary : String :=
  String.join
    ["rx-playground: live Rust regex playground\n\n",
      "Usage: rx-playground <COMMAND>\n\n",
      "Commands:\n",
      "  eval     Evaluate a pattern once (syntax, find or replace)\n",
      "  session  Re-evaluate on every JSON state patch read from stdin\n",
      "  docs     Print the documentation URL for a crate\n\n",
      "Options:\n",
      "  -f, --format <FORMAT>  Output format [json|text] (default: json)\n",
      "  -v, --verbose          Increase log verbosity\n",
      "  -h, --help             Print help\n",
      "  -V, --version          Print version\n"]

def failureLine (message : String) : String :=
  (FailureReport.ofCommand message).toJson.compact ++ "\n"

namespace Exit

def ofOutcome (level : LogLevel) (o : Outcome) : Exit :=
  let log := logLines level o.events
  match o.output with
  | .ok text => { code := 0, stdout := text ++ "\n", stderr := log }
  | .error e => { code := 1, stderr := log ++ failureLine e }

/-- The exit code of a program that breaks down. One that never comes to an end is stopped when it
has used up its memory. -/
def codeOf : Breakdown → Nat
  | .outOfRange => 101
  | .endless => 134

def ofTranscript (level : LogLevel) (t : Transcript) : Exit :=
  let log := logLines level t.events
  let stdout := String.join (t.replies.map Reply.line)
  match t.breakdown with
  | some e => { code := codeOf e, stdout, stderr := log }
  | none =>
    if t.unreadable then
      { code := 1, stdout,
        stderr := log ++ failureLine ("Failed to read session input: " ++ notText) }
    else { code := 0, stdout, stderr := log }

def ofStop : Stop → Exit
  | .usage => { code := 2 }
  | .version => { code := 0, stdout := versionText }
  | .help => { code := 0, stdout := summary }

end Exit

def Invocation.reads (i : Invocation) : Option Source :=
  match i.command with
  | some (.eval r) =>
    match engineOf r.engine, r.source with
    | .error _, _ | _, .given _ => none
    | .ok _, source => some source
  | some (.session engine) => if (engineOf engine).isOk then some .input else none
  | _ => none

def Invocation.run (i : Invocation) (contents : Contents) : Exit :=
  let level := LogLevel.ofVerbosity i.verbosity
  match i.command with
  | none => { code := 0, stderr := summary }
  | some (.eval r) =>
    match runEval r i.format contents with
    | .error e => { code := Exit.codeOf e }
    | .ok outcome => .ofOutcome level outcome
  | some (.docs package version) =>
    .ofOutcome level { output := runDocs package version i.format }
  | some (.session engine) =>
    match engineOf engine, contents with
    | .error e, _ => .ofOutcome level { output := .error e }
    | .ok _, .error e =>
      .ofOutcome level { output := .error ("Failed to read session input: " ++ e) }
    | .ok engine, .ok bytes =>
      .ofTranscript level (Session.run (.ofEngine engine) {} bytes)

/-- The whole program, given a way to read files and what comes in. -/
def runWith (args : List String) (readFile : String → Contents) (input : List UInt8) : Exit :=
  match Arguments.parse args with
  | .error stop => .ofStop stop
  | .ok i =>
    let contents := match i.reads with
      | some (.file path) => readFile path
      | _ => .ok input
    i.run contents

end RegexStudio.CommandLine
