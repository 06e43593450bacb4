import RegexStudio.Json.Reader
import RegexStudio.Workspace

/-! Partial updates written as JSON objects. Each known member goes to its field, under one of two
names for the texts; a field may be given only once. All other members are kept as they are. -/

namespace RegexStudio

open Json (Cause Cursor Fault)
open Json.Reader

namespace UpdateReader

/-- A fault with its place, or one that gets its place where the container around it ends. -/
inductive Trouble
  | placed (f : Fault)
  | unplaced (cause : Cause) (c : Cursor)

def placed {α : Type} : Except Fault α → Except Trouble α
  | .ok a => .ok a
  | .error f => .error (.placed f)

def nullable {α : Type} (read : Char → Cursor → Except Fault (α × Cursor)) (c : Cursor) :
    Except Fault (Option α × Cursor) := do
  let c := c.skipSpace
  match c.rest with
  | [] => c.peekFault .endInValue
  | 'n' :: _ => .ok (none, ← ident ['u', 'l', 'l'] c.bump)
  | x :: _ =>
    let (a, c) ← read x c
    .ok (some a, c)

def text? (c : Cursor) : Except Fault (Option String × Cursor) :=
  nullable (fun x c => if x == '\x22' then string c.bump else mismatch "a string" c) c

def flag? (c : Cursor) : Except Fault (Option Bool × Cursor) :=
  nullable (fun x c =>
    if x == 't' then do .ok (true, ← ident ['r', 'u', 'e'] c.bump)
    else if x == 'f' then do .ok (false, ← ident ['a', 'l', 's', 'e'] c.bump)
    else mismatch "a boolean" c) c

def members {σ : Type} (field : String → σ → Cursor → Except Trouble (σ × Cursor)) :
    Nat → Bool → σ → Cursor → Except Trouble (σ × Cursor)
  | 0, _, s, c => .ok (s, c)
  | fuel + 1, first, s, c => do
    match ← placed (nextKey first c) with
    | none => .ok (s, c)
    | some (key, c) =>
      let (s, c) ← field key s c
      members field fuel false s c

def object {σ : Type} (field : String → σ → Cursor → Except Trouble (σ × Cursor)) (s : σ)
    (c : Cursor) : Except Fault (σ × Cursor) :=
  match members field (c.rest.length + 1) true s c.bump with
  | .error (.placed f) => .error f
  | .error (.unplaced cause c) => (closeObject c).2.fault cause
  | .ok (s, c) =>
    let (closed, c) := closeObject c
    closed.map fun _ => (s, c)

def fill {α : Type} (name : String) (field : Option (Option α))
    (read : Cursor → Except Fault (Option α × Cursor)) (c : Cursor) :
    Except Trouble (Option (Option α) × Cursor) := do
  if field.isSome then .error (.unplaced (.duplicateField name) c)
  else
    let c ← placed (colon c)
    let (a, c) ← placed (read c)
    .ok (some a, c)

def ignore (c : Cursor) : Except Trouble Cursor := do
  placed (skipValue (← placed (colon c)))

def item {α : Type} (index : Nat) (expected : String)
    (read : Cursor → Except Fault (Option α × Cursor)) (c : Cursor) :
    Except Trouble (Option α × Cursor) := do
  match ← placed (nextItem (index == 0) c) with
  | none => .error (.unplaced (.invalidLength index expected) c)
  | some c => placed (read c)

def array {σ : Type} (items : Cursor → Except Trouble (σ × Cursor)) (c : Cursor) :
    Except Fault (σ × Cursor) :=
  match items c.bump with
  | .error (.placed f) => .error f
  | .error (.unplaced cause c) => (closeArray c).2.fault cause
  | .ok (s, c) =>
    let (closed, c) := closeArray c
    closed.map fun _ => (s, c)

structure FlagFields where
  engine : Option (Option Bool) := none
  engineError : Option (Option String) := none
  completed : Option (Option Bool) := none

def FlagFields.update (f : FlagFields) : EngineFlagsUpdate where
  engine := f.engine.join
  engineError := f.engineError.join
  completed := f.completed.join

def flagField (key : String) (f : FlagFields) (c : Cursor) :
    Except Trouble (FlagFields × Cursor) := do
  match key with
  | "engine" =>
    let (engine, c) ← fill key f.engine flag? c
    .ok ({ f with engine }, c)
  | "engine_error" =>
    let (engineError, c) ← fill key f.engineError text? c
    .ok ({ f with engineError }, c)
  | "completed" =>
    let (completed, c) ← fill key f.completed flag? c
    .ok ({ f with completed }, c)
  | _ => .ok (f, ← ignore c)

def flagItems (c : Cursor) : Except Trouble (EngineFlagsUpdate × Cursor) := do
  let expected := "struct FeaturesPatch with 3 elements"
  let (engine, c) ← item 0 expected flag? c
  let (engineError, c) ← item 1 expected text? c
  let (completed, c) ← item 2 expected flag? c
  .ok ({ engine, engineError, completed }, c)

def flags? (c : Cursor) : Except Fault (Option EngineFlagsUpdate × Cursor) :=
  nullable (fun x c =>
    if x == '\x7b' then (object flagField {} c).map fun (f, c) => (f.update, c)
    else if x == '[' then array flagItems c
    else mismatch "struct FeaturesPatch" c) c

structure VersionFields where
  regex : Option (Option String) := none
  regexSyntax : Option (Option String) := none

def VersionFields.versions (f : VersionFields) : Versions where
  regex := f.regex.join
  regexSyntax := f.regexSyntax.join

def versionField (key : String) (f : VersionFields) (c : Cursor) :
    Except Trouble (VersionFields × Cursor) := do
  match key with
  | "regex" =>
    let (regex, c) ← fill key f.regex text? c
    .ok ({ f with regex }, c)
  | "regex_syntax" =>
    let (regexSyntax, c) ← fill key f.regexSyntax text? c
    .ok ({ f with regexSyntax }, c)
  | _ => .ok (f, ← ignore c)

def versionItems (c : Cursor) : Except Trouble (Versions × Cursor) := do
  let expected := "struct Versions with 2 elements"
  let (regex, c) ← item 0 expected text? c
  let (regexSyntax, c) ← item 1 expected text? c
  .ok ({ regex, regexSyntax }, c)

def versions? (c : Cursor) : Except Fault (Option Versions × Cursor) :=
  nullable (fun x c =>
    if x == '\x7b' then (object versionField {} c).map fun (f, c) => (f.versions, c)
    else if x == '[' then array versionItems c
    else mismatch "struct Versions" c) c

structure Fields where
  pattern : Option (Option String) := none
  replacement : Option (Option String) := none
  text : Option (Option String) := none
  modeName : Option (Option String) := none
  flags : Option (Option EngineFlagsUpdate) := none
  versions : Option (Option Versions) := none
  extra : List (String × Json) := []

def Fields.update (f : Fields) : Update where
  pattern := f.pattern.join
  replacement := f.replacement.join
  text := f.text.join
  modeName := f.modeName.join
  flags := f.flags.join
  versions := f.versions.join
  extra := f.extra

def fieldOf : String → String
  | "regex" => "pattern"
  | "replace" => "replacement"
  | "subject" => "text"
  | "mode" => "method"
  | key => key

def field (key : String) (f : Fields) (c : Cursor) : Except Trouble (Fields × Cursor) := do
  match fieldOf key with
  | "pattern" =>
    let (pattern, c) ← fill "pattern" f.pattern text? c
    .ok ({ f with pattern }, c)
  | "replacement" =>
    let (replacement, c) ← fill "replacement" f.replacement text? c
    .ok ({ f with replacement }, c)
  | "text" =>
    let (text, c) ← fill "text" f.text text? c
    .ok ({ f with text }, c)
  | "method" =>
    let (modeName, c) ← fill "method" f.modeName text? c
    .ok ({ f with modeName }, c)
  | "features" =>
    let (flags, c) ← fill "features" f.flags flags? c
    .ok ({ f with flags }, c)
  | "versions" =>
    let (versions, c) ← fill "versions" f.versions versions? c
    .ok ({ f with versions }, c)
  | _ =>
    let c ← placed (colon c)
    let (v, c) ← placed (value (depthLimit - 1) (fuelFor c) c)
    .ok ({ f with extra := Json.insertMember key v f.extra }, c)

end UpdateReader

/-- Reads a partial update from a text that is one object. -/
def Update.parse (s : String) : Except Fault Update := do
  let c := (Cursor.ofText s).skipSpace
  match c.rest with
  | [] => c.peekFault .endInValue
  | '\x7b' :: _ =>
    let (f, c) ← UpdateReader.object UpdateReader.field {} c
    finish c
    .ok f.update
  | _ => mismatch "struct Patch" c

end RegexStudio
