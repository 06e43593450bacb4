import RegexStudio.Template

/-! Templates read by byte offsets, one round for each dollar sign. A round finds the sign, and cuts
the text before it and the name behind it out of the template; a cut behind the end or inside of a
character comes to nothing. -/

namespace RegexStudio

namespace Text

def sliceFrom (cs : List Char) (start : Nat) : Option (List Char) :=
  (splitAtByte start cs).map (·.2)

def find? (c : Char) (cs : List Char) : Option Nat :=
  if c ∈ cs then some (byteLength (cs.takeWhile (· != c))) else none

def bytes (cs : List Char) : List UInt8 := cs.flatMap String.utf8EncodeChar

end Text

namespace Template

def isNameByte (b : UInt8) : Bool :=
  b == 95 || (48 ≤ b && b ≤ 57) || (65 ≤ b && b ≤ 90) || (97 ≤ b && b ≤ 122)

def nameLength (rest : List Char) : Nat := ((Text.bytes rest).takeWhile isNameByte).length

/-- How far a template was read: the next byte, text that is no piece yet, and the pieces. -/
structure Reading where
  pos : Nat := 0
  literal : List Char := []
  pieces : List Piece := []
deriving DecidableEq, Inhabited, Repr

inductive Round
  | next (r : Reading)
  | done (t : Template)
  | failed (e : ReplacementError)
deriving DecidableEq, Inhabited, Repr

namespace Reading

def flushed (r : Reading) : List Piece :=
  if r.literal.isEmpty then r.pieces else r.pieces ++ [.literal r.literal]

def add (r : Reading) (p : Piece) (pos : Nat) : Reading :=
  match p with
  | .literal cs => { r with literal := r.literal ++ cs, pos }
  | .group _ => { pos, pieces := r.flushed ++ [p] }

/-- What stands at a dollar sign, the text after the sign given. -/
def sign (r : Reading) (dollar : Nat) (rest : List Char) : Option Round :=
  match rest with
  | '$' :: _ => some (.next (r.add (.literal ['$']) (dollar + 2)))
  | '\x7b' :: braced =>
    match Text.find? '\x7d' braced with
    | none => some (.failed (.unclosedBrace dollar))
    | some close => do
      let name ← Text.slice braced 0 close
      if name.isEmpty then some (.failed (.emptyGroupName dollar))
      else some (.next (r.add (.group (.ofName name)) (dollar + 2 + close + 1)))
  | rest =>
    let len := nameLength rest
    if len = 0 then some (.next (r.add (.literal ['$']) (dollar + 1 + len)))
    else do
      let name ← Text.slice rest 0 len
      some (.next (r.add (.group (.ofName name)) (dollar + 1 + len)))

def round (t : List Char) (r : Reading) : Option Round := do
  let ahead ← Text.sliceFrom t r.pos
  match Text.find? '$' ahead with
  | none => some (.done ⟨(r.add (.literal ahead) r.pos).flushed⟩)
  | some offset =>
    let plain ← Text.slice t r.pos (r.pos + offset)
    let dollar := r.pos + offset
    let rest ← Text.sliceFrom t (dollar + 1)
    (r.add (.literal plain) dollar).sign dollar rest

end Reading

end Template

namespace ReplacementError

def respelling? (name : List Char) : Option (List Char) := do
  let digits := name.takeWhile Text.isDigit
  let rest ← Text.sliceFrom name (Text.byteLength digits)
  some (['$', '\x7b'] ++ digits ++ ['\x7d'] ++ rest)

end ReplacementError

end RegexStudio
