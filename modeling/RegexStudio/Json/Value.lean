import RegexStudio.Json.Double

/-! JSON values. An object keeps its members in the order in which they are listed. -/

namespace RegexStudio

inductive Json
  | null
  | bool (b : Bool)
  | integer (n : Int)
  | double (d : Json.Double)
  | string (s : String)
  | array (items : List Json)
  | object (members : List (String × Json))
deriving Inhabited, Repr

namespace Json

def natural (n : Nat) : Json := .integer n

/-- Puts a member into a list sorted by key, in place of one with the same key. -/
def insertMember (key : String) (value : Json) : List (String × Json) → List (String × Json)
  | [] => [(key, value)]
  | (k, v) :: rest =>
    if key == k then (key, value) :: rest
    else if key < k then (key, value) :: (k, v) :: rest
    else (k, v) :: insertMember key value rest

/-- The object with its members sorted by key; of equal keys the last one stays. -/
def sortedObject (members : List (String × Json)) : Json :=
  .object (members.foldl (fun acc m => insertMember m.1 m.2 acc) [])

def member? (key : String) : Json → Option Json
  | .object members => (members.find? (·.1 == key)).map (·.2)
  | _ => none

def optional (key : String) (value : Option Json) : List (String × Json) :=
  match value with
  | some v => [(key, v)]
  | none => []

end Json

end RegexStudio
