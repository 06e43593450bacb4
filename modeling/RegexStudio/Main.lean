import RegexStudio.CommandLine.Program

/-! The command line: arguments, standard streams and files around the program. -/

namespace RegexStudio.CommandLine

partial def readAll (stream : IO.FS.Stream) (sofar : ByteArray) : IO ByteArray := do
  let chunk ← stream.read 65536
  if chunk.isEmpty then return sofar else readAll stream (sofar ++ chunk)

def describe : IO.Error → String
  | .noFileOrDirectory .. => "No such file or directory (os error 2)"
  | .permissionDenied .. => "Permission denied (os error 13)"
  | .inappropriateType .. => "Is a directory (os error 21)"
  | e => toString e

def readFile (path : String) : IO Contents := do
  try
    let bytes ← IO.FS.readBinFile path
    return .ok bytes.toList
  catch e => return .error (describe e)

def report (level : LogLevel) (answer : Answer) : IO Unit := do
  IO.print (String.join (answer.replies.map Reply.line))
  IO.eprint (logLines level answer.events)
  (← IO.getStdout).flush

/-- Answers lines as they come in. `pending` holds the bytes of a line that has not ended. -/
partial def converse (level : LogLevel) (b : Backend) (stream : IO.FS.Stream) (s : Session)
    (pending : List UInt8) : IO UInt32 := do
  let chunk ← stream.read 65536
  let bytes := pending ++ chunk.toList
  let unended := if chunk.isEmpty then [] else (bytes.reverse.takeWhile (· != 10)).reverse
  let mut s := s
  for line in byteLines (bytes.take (bytes.length - unended.length)) do
    match textOf? line with
    | none =>
      IO.eprint (failureLine ("Failed to read session input: " ++ notText))
      return 1
    | some text =>
      match s.feed b text with
      | .error e => return (Exit.codeOf e).toUInt32
      | .ok (answer, next) =>
        report level answer
        s := next
  if chunk.isEmpty then
    IO.eprint (logLines level s.finish)
    return 0
  converse level b stream s unended

def runIn (i : Invocation) : IO UInt32 := do
  let stdin ← IO.getStdin
  match i.command, i.reads with
  | some (.session engine), some .input =>
    let level := LogLevel.ofVerbosity i.verbosity
    let b := Backend.ofEngine ((engineOf engine).toOption.join)
    match Session.start b {} with
    | .error e => return (Exit.codeOf e).toUInt32
    | .ok (answer, s) =>
      report level answer
      converse level b stdin s []
  | _, reads =>
    let contents ← match reads with
      | some (.file path) => readFile path
      | some .input => pure (.ok (← readAll stdin .empty).toList)
      | _ => pure (.ok [])
    let exit := i.run contents
    IO.print exit.stdout
    IO.eprint exit.stderr
    return exit.code.toUInt32

end RegexStudio.CommandLine

open RegexStudio.CommandLine in
def main (args : List String) : IO UInt32 := do
  match Arguments.parse args with
  | .ok i => runIn i
  | .error stop =>
    let exit := Exit.ofStop stop
    IO.print exit.stdout
    IO.eprint exit.stderr
    return exit.code.toUInt32
