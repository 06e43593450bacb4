/-! A pattern that no engine could be made of. -/

namespace RegexStudio

structure PatternError where
  message : String
  position : Option Nat := none
deriving DecidableEq, Inhabited, Repr

namespace PatternError

def header (e : PatternError) : String :=
  String.ofList (e.message.toList.takeWhile (· != '\n'))

def detail (e : PatternError) : String :=
  String.ofList ((e.message.toList.dropWhile (· != '\n')).drop 1)

end PatternError

end RegexStudio
