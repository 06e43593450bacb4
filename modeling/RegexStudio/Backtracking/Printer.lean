import RegexStudio.Backtracking.Scan

/-! Patterns without backtracking in the linear engine's notation. -/

namespace RegexStudio.Backtracking

inductive Place
  | free
  | branch
  | item
  | operand
deriving DecidableEq, Inhabited, Repr

def Place.rank : Place → Nat
  | free => 0
  | branch => 1
  | item => 2
  | operand => 3

namespace Printer

def enclosed (inParens : Bool) (text : List Char) : List Char :=
  if inParens then "(?:".toList ++ text ++ [')'] else text

def folded (ignoreCase : Bool) (text : List Char) : List Char :=
  if ignoreCase then "(?i:".toList ++ text ++ [')'] else text

def natural (n : Nat) : List Char := (toString n).toList

def quantifier (lo : Nat) (hi : Option Nat) (greedy : Bool) : List Char :=
  let bounds := match lo, hi with
    | 0, some 1 => ['?']
    | 0, none => ['*']
    | 1, none => ['+']
    | lo, none => ['\x7b'] ++ natural lo ++ [',', '\x7d']
    | lo, some hi =>
      if lo == hi then ['\x7b'] ++ natural lo ++ ['\x7d']
      else ['\x7b'] ++ natural lo ++ [','] ++ natural hi ++ ['\x7d']
  if greedy then bounds else bounds ++ ['?']

def assertion : Assertion → List Char
  | .startText => ['^']
  | .endText => ['$']
  | .startLine => "(?m:^)".toList
  | .endLine => "(?m:$)".toList
  | _ => []

mutual

def print (place : Place) : Node → List Char
  | .any newline => if newline then "(?s:.)".toList else ['.']
  | .literal c ignoreCase => folded ignoreCase (Scan.quoted c)
  | .charClass text ignoreCase => folded ignoreCase text
  | .assertion a => assertion a
  | .concat items => enclosed (1 < place.rank) (printItems items)
  | .choice branches => enclosed (0 < place.rank) (printBranches branches)
  | .group sub => ['('] ++ print .free sub ++ [')']
  | .rep lo hi greedy sub =>
    enclosed (2 < place.rank) (print .operand sub ++ quantifier lo hi greedy)
  | _ => []

def printItems : List Node → List Char
  | [] => []
  | item :: rest => print .item item ++ printItems rest

def printBranches : List Node → List Char
  | [] => []
  | [branch] => print .branch branch
  | branch :: rest => print .branch branch ++ ['|'] ++ printBranches rest

end

end Printer

end RegexStudio.Backtracking
