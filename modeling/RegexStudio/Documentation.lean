import RegexStudio.Text.Bytes

/-! Where the documentation of a package is found. -/

namespace RegexStudio

inductive PageKind
  | struct
  | enum
  | fn
  | trait
deriving DecidableEq, Inhabited, Repr

namespace PageKind

def name : PageKind → String
  | struct => "struct"
  | enum => "enum"
  | fn => "fn"
  | trait => "trait"

def ofName? : String → Option PageKind
  | "struct" => some struct
  | "enum" => some enum
  | "fn" => some fn
  | "trait" => some trait
  | _ => none

end PageKind

structure Documentation where
  package : String
  version : Option String
deriving DecidableEq, Inhabited, Repr

namespace Documentation

def host : String := "https://docs.rs"

def ofPackage (package version : String) : Documentation where
  package := package
  version :=
    let trimmed := Text.trim version.toList
    if trimmed.isEmpty then none else some (String.ofList trimmed)

def libraryName (d : Documentation) : String :=
  String.ofList (d.package.toList.map fun c => if c == '-' then '_' else c)

def rootUrl (d : Documentation) : String :=
  host ++ "/" ++ d.package ++ "/" ++ d.version.getD "latest" ++ "/" ++ d.libraryName ++ "/"

/-- The parts of a path between double colons, which are found from left to right; the first part
comes apart from the others. -/
def splitPath (part : List Char) : List Char → List Char × List (List Char)
  | ':' :: ':' :: rest =>
    let (next, more) := splitPath [] rest
    (part.reverse, next :: more)
  | c :: rest => splitPath (c :: part) rest
  | [] => (part.reverse, [])

def splitLast (path : List Char) : Option (List Char × List Char) :=
  go [] path.reverse
where
  go (after : List Char) : List Char → Option (List Char × List Char)
    | ':' :: ':' :: before => some (before.reverse, after)
    | c :: before => go (c :: after) before
    | [] => none

def pageUrl (d : Documentation) (kind : PageKind) (path : String) : String :=
  let page (name : List Char) : String := kind.name ++ "." ++ String.ofList name ++ ".html"
  match splitLast path.toList with
  | some (modules, name) =>
    let (first, more) := splitPath [] modules
    d.rootUrl ++ "/".intercalate ((first :: more).map String.ofList) ++ "/" ++ page name
  | none => d.rootUrl ++ page path.toList

end Documentation

end RegexStudio
