import RegexStudio.Evaluation
import RegexStudio.Documentation

/-! Results as text for people. -/

namespace RegexStudio

namespace Report

def range (start stop : Nat) : String := " [" ++ toString start ++ ".." ++ toString stop ++ "]"

mutual

def node (level : Nat) : Outline.Node → String
  | .mk label children =>
    let indent := String.ofList (List.replicate (2 * level) ' ')
    let span := match label.span with
      | some s => range s.start s.stop
      | none => ""
    let group := match label.group with
      | some n => " [group " ++ toString n ++ "]"
      | none => ""
    let detail := match label.detail with
      | some d => indent ++ "  " ++ d ++ "\n"
      | none => ""
    indent ++ "• " ++ label.kind ++ " `" ++ label.text ++ "`" ++ span ++ group ++ "\n" ++ detail ++
      nodes (level + 1) children

def nodes (level : Nat) : List Outline.Node → String
  | [] => ""
  | n :: rest => node level n ++ nodes level rest

end

def outline (o : Outline) : String := "Engine: " ++ o.engine ++ "\n\n" ++ node 0 o.root

def quoted (text : String) (start stop : Nat) : String :=
  "\"" ++ text ++ "\"" ++ range start stop ++ "\n"

def capture (c : Capture) : String :=
  let name := match c.name with
    | some n => " (" ++ n ++ ")"
    | none => ""
  "  Group " ++ toString c.group ++ name ++ ": " ++ quoted c.text c.start c.stop

def numbered : Nat → List Match → String
  | _, [] => ""
  | n, m :: rest =>
    "Match " ++ toString n ++ ": " ++ quoted m.text m.start m.stop ++
      String.join (m.captures.map capture) ++ numbered (n + 1) rest

def matchList (ms : List Match) : String :=
  if ms.isEmpty then "No matches found\n"
  else
    numbered 1 ms ++ "\n" ++ toString ms.length ++
      (if ms.length == 1 then " match found\n" else " matches found\n")

def patternError (e : PatternError) : String :=
  "regex parse error:\n" ++
    (if e.detail.isEmpty then "    " ++ e.header ++ "\n" else e.detail ++ "\n")

def replacementError (e : ReplacementError) : String :=
  let suggestion := match e.suggestion with
    | some s => "\nSuggestion: " ++ s ++ "\n"
    | none => ""
  "replacement error: " ++ e.message ++ "\n" ++ suggestion ++ "\nSee: " ++
    (Documentation.ofPackage "regex" "").pageUrl .struct "Captures" ++ "\n"

def nothing (engine : Availability) : String :=
  if engine.available then "Nothing to evaluate\n"
  else
    "rust-regex could not be loaded\n" ++ match engine.error with
      | some error => "  " ++ error ++ "\n"
      | none => ""

end Report

def Evaluation.report (d : Evaluation) (engine : Availability) : String :=
  match d with
  | .tree o => Report.outline o
  | .find ms => Report.matchList ms
  | .replace text => text ++ "\n"
  | .patternError e => Report.patternError e
  | .replacementError e => Report.replacementError e
  | .empty => Report.nothing engine

def Documentation.report (d : Documentation) : String := d.package ++ ": " ++ d.rootUrl ++ "\n"

end RegexStudio
