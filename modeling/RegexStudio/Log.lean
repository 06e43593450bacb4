import RegexStudio.Evaluation

/-! Log lines: one for each event, with its level in front. -/

namespace RegexStudio

inductive LogLevel
  | warn
  | info
  | debug
  | trace
deriving DecidableEq, Inhabited, Repr

namespace LogLevel

def rank : LogLevel → Nat
  | warn => 0
  | info => 1
  | debug => 2
  | trace => 3

def ofVerbosity : Nat → LogLevel
  | 0 => warn
  | 1 => info
  | 2 => debug
  | _ => trace

def label : LogLevel → String
  | warn => " WARN"
  | info => " INFO"
  | debug => "DEBUG"
  | trace => "TRACE"

end LogLevel

namespace Event

def level : Event → LogLevel
  | listingAborted .. | unknownMode _ => .warn
  | sessionStarted | sessionEnded .. => .info
  | compiled _ | rejected _ | derived .. | lineRejected _ => .debug
  | reused _ | updated _ => .trace

def text : Event → String
  | compiled engine => "compiled pattern engine=" ++ engine.name
  | rejected error => "pattern rejected error=" ++ error
  | listingAborted error found =>
    "match enumeration aborted error=" ++ error ++ " found=" ++ toString found
  | derived generation isError =>
    "derived new result generation=" ++ toString generation ++ " error=" ++ toString isError
  | reused generation => "reusing cached derivation generation=" ++ toString generation
  | unknownMode name => "unrecognized evaluation mode method=" ++ name
  | updated listeners => "state updated listeners=" ++ toString listeners
  | sessionStarted => "session started"
  | lineRejected error => "rejected session input error=" ++ error
  | sessionEnded lines mode =>
    "session ended lines=" ++ toString lines ++ " mode=" ++ mode

def line (e : Event) : String := e.level.label ++ " " ++ e.text ++ "\n"

end Event

def logLines (level : LogLevel) (events : List Event) : String :=
  String.join ((events.filter fun e => e.level.rank ≤ level.rank).map Event.line)

end RegexStudio
