import RegexStudio.Mode

/-! The arguments of the program: options that hold everywhere, one of three commands, and the
options and operands of that command. -/

namespace RegexStudio.CommandLine

inductive Format
  | json
  | text
deriving DecidableEq, Inhabited, Repr

inductive LogFormat
  | pretty
  | compact
  | json
deriving DecidableEq, Inhabited, Repr

structure EvalRequest where
  pattern : String
  text : Option String := none
  mode : Mode := .standard
  replacement : Option String := none
  file : Option String := none
  engine : Option String := none
deriving DecidableEq, Inhabited, Repr

inductive Command
  | eval (r : EvalRequest)
  | session (engine : Option String)
  | docs (package : String) (version : Option String)
deriving DecidableEq, Inhabited, Repr

structure Invocation where
  format : Format := .json
  verbosity : Nat := 0
  logFormat : LogFormat := .compact
  command : Option Command := none
deriving DecidableEq, Inhabited, Repr

inductive Stop
  | usage
  | version
  | help
deriving DecidableEq, Inhabited, Repr

inductive Switch
  | format
  | verbose
  | logFormat
  | mode
  | replacement
  | file
  | engine
  | version
  | help
deriving DecidableEq, Inhabited, Repr

/-- The parts of the command line that have options of their own. -/
inductive Level
  | root
  | eval
  | session
  | docs
deriving DecidableEq, Inhabited, Repr

namespace Level

def ofCommand? : String → Option Level
  | "eval" => some eval
  | "session" => some session
  | "docs" => some docs
  | _ => none

def operands : Level → Nat
  | root | session => 0
  | eval | docs => 2

def long? (level : Level) : String → Option Switch
  | "format" => some .format
  | "verbose" => some .verbose
  | "log-format" => some .logFormat
  | "help" => some .help
  | "version" => if level = root then some .version else none
  | "mode" => if level = eval then some .mode else none
  | "replace" => if level = eval then some .replacement else none
  | "file" => if level = eval then some .file else none
  | "engine" => if level = eval || level = session then some .engine else none
  | _ => none

def short? (level : Level) : Char → Option Switch
  | 'f' => some .format
  | 'v' => some .verbose
  | 'h' => some .help
  | 'V' => if level = root then some .version else none
  | 'm' => if level = eval then some .mode else none
  | 'r' => if level = eval then some .replacement else none
  | 'F' => if level = eval then some .file else none
  | _ => none

end Level

structure Options where
  format : Option Format := none
  verbosity : Option Nat := none
  logFormat : Option LogFormat := none
  mode : Option Mode := none
  replacement : Option String := none
  file : Option String := none
  engine : Option String := none
deriving DecidableEq, Inhabited, Repr

namespace Options

def formatOf? : String → Option Format
  | "json" => some .json
  | "text" => some .text
  | _ => none

def logFormatOf? : String → Option LogFormat
  | "pretty" => some .pretty
  | "compact" => some .compact
  | "json" => some .json
  | _ => none

def once {α : Type} (old new : Option α) : Except Stop (Option α) :=
  match old, new with
  | none, some a => .ok (some a)
  | _, _ => .error .usage

def set (o : Options) (name : Switch) (value : String) : Except Stop Options := do
  match name with
  | .format => .ok { o with format := ← once o.format (formatOf? value) }
  | .logFormat => .ok { o with logFormat := ← once o.logFormat (logFormatOf? value) }
  | .mode => .ok { o with mode := ← once o.mode (Mode.ofName? value) }
  | .replacement => .ok { o with replacement := ← once o.replacement (some value) }
  | .file =>
    .ok { o with file := ← once o.file (if value.isEmpty then none else some value) }
  | .engine => .ok { o with engine := ← once o.engine (some value) }
  | .verbose | .version | .help => .error .usage

end Options

def Switch.act? (o : Options) : Switch → Option (Except Stop Options)
  | verbose => some (.ok { o with verbosity := some (o.verbosity.getD 0 + 1) })
  | version => some (.error .version)
  | help => some (.error .help)
  | _ => none

namespace Arguments

inductive Reading
  | done (o : Options)
  | wants (o : Options) (name : Switch)

/-- Reads letters after a hyphen. The first option with a value takes the rest for its value. -/
def letters (level : Level) (o : Options) : List Char → Except Stop Reading
  | [] => .ok (.done o)
  | c :: rest =>
    match level.short? c with
    | none => .error .usage
    | some name =>
      match name.act? o with
      | some result => do letters level (← result) rest
      | none =>
        match rest with
        | [] => .ok (.wants o name)
        | '=' :: value => do .ok (.done (← o.set name (String.ofList value)))
        | value => do .ok (.done (← o.set name (String.ofList value)))

def long (level : Level) (o : Options) (cs : List Char) : Except Stop Reading :=
  match level.long? (String.ofList (cs.takeWhile (· != '='))) with
  | none => .error .usage
  | some name =>
    match name.act? o, cs.dropWhile (· != '=') with
    | some result, [] => result.map .done
    | some _, _ => .error .usage
    | none, [] => .ok (.wants o name)
    | none, _ :: value => do .ok (.done (← o.set name (String.ofList value)))

def isValue (arg : String) : Bool := arg == "-" || !arg.startsWith "-"

def operand (level : Level) (operands : List String) (arg : String) :
    Except Stop (List String) :=
  if operands.length < level.operands then .ok (operands ++ [arg]) else .error .usage

/-- Reads the options and operands of a level. At the outermost level the first operand ends it;
what comes after it is left. -/
def scan (level : Level) (o : Options) (operands : List String) :
    List String → Except Stop (Options × List String × List String)
  | [] => .ok (o, operands, [])
  | arg :: rest =>
    if arg == "--" then do
      let operands ← rest.foldlM (operand level) operands
      .ok (o, operands, [])
    else if isValue arg then
      if level = .root then .ok (o, operands, arg :: rest)
      else do scan level o (← operand level operands arg) rest
    else do
      let reading ← match arg.toList with
        | '-' :: '-' :: cs => long level o cs
        | _ :: cs => letters level o cs
        | [] => .error .usage
      match reading with
      | .done o => scan level o operands rest
      | .wants o name =>
        match rest with
        | [] => .error .usage
        | value :: rest =>
          if isValue value then do scan level (← o.set name value) operands rest
          else .error .usage

def command (level : Level) (o : Options) : List String → Except Stop Command
  | [] => if level = .session then .ok (.session o.engine) else .error .usage
  | first :: rest =>
    match level with
    | .eval =>
      .ok (.eval
        { pattern := first
          text := rest.head?
          mode := o.mode.getD .standard
          replacement := o.replacement
          file := o.file
          engine := o.engine })
    | .docs => .ok (.docs first rest.head?)
    | _ => .error .usage

/-- Options of the program; where both levels give one, that of the command holds. -/
def invocation (outer inner : Options) (command : Option Command) : Invocation where
  format := (inner.format.or outer.format).getD .json
  verbosity := (inner.verbosity.or outer.verbosity).getD 0
  logFormat := (inner.logFormat.or outer.logFormat).getD .compact
  command := command

def parse (args : List String) : Except Stop Invocation := do
  let (outer, _, rest) ← scan .root {} [] args
  match rest with
  | [] => .ok (invocation outer {} none)
  | "help" :: _ => .error .help
  | name :: rest =>
    match Level.ofCommand? name with
    | none => .error .usage
    | some level =>
      let (inner, operands, _) ← scan level {} [] rest
      .ok (invocation outer inner (some (← command level inner operands)))

end Arguments

end RegexStudio.CommandLine
