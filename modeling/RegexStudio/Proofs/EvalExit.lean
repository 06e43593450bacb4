import RegexStudio.CommandLine.Program
import RegexStudio.Proofs.Precedence
import RegexStudio.Proofs.SessionLines

/-! How the program ends that is to evaluate a pattern once. Where it knows the engine and can read
the text to match, it prints the result, be it an error or not; otherwise it prints nothing and
tells of the failure in one line. -/

namespace RegexStudio

open Json (IsText)

namespace CommandLine

variable {r : EvalRequest} {readFile : String → Contents} {input : List UInt8} {subject : String}
  {forced : Option Engine} {name : Option String}

inductive AsksFor : Option String → Option Engine → Prop
  | automatic : AsksFor none none
  | linear : AsksFor (some "regex") (some .linear)
  | backtracking : AsksFor (some "fancy-regex") (some .backtracking)
  | short : AsksFor (some "fancy") (some .backtracking)

theorem engineOf_eq_ok_iff : engineOf name = .ok forced ↔ AsksFor name forced := by
  constructor
  · intro h
    unfold engineOf at h
    split at h
    · cases h
      exact .automatic
    · cases h
      exact .linear
    · cases h
      exact .backtracking
    · cases h
      exact .short
    · cases h
  · rintro (_ | _ | _ | _) <;> rfl

theorem engineOf_unknown (h : ∀ forced, ¬AsksFor name forced) : ∃ s, name = some s ∧
    engineOf name = .error ("Unknown engine '" ++ s ++ "'. Valid options: regex, fancy-regex") := by
  unfold engineOf
  split
  · exact absurd .automatic (h _)
  · exact absurd .linear (h _)
  · exact absurd .backtracking (h _)
  · exact absurd .short (h _)
  · exact ⟨_, rfl, rfl⟩

namespace EvalRequest

def bytes (r : EvalRequest) (readFile : String → Contents) (input : List UInt8) : Contents :=
  match r.file, r.text, r.mode with
  | some path, _, _ => readFile path
  | none, some text, _ => .ok (utf8 text)
  | none, none, .tree => .ok []
  | none, none, _ => .ok input

theorem source_eq_file_iff {path : String} : r.source = .file path ↔ r.file = some path := by
  obtain ⟨pattern, text, mode, replacement, file, engine⟩ := r
  rcases file with _ | path'
  · rcases text with _ | text
    · cases mode <;> simp [source]
    · simp [source]
  · simp [source]

theorem source_eq_input_iff :
    r.source = .input ↔ r.file = none ∧ r.text = none ∧ r.mode ≠ .tree := by
  obtain ⟨pattern, text, mode, replacement, file, engine⟩ := r
  rcases file with _ | path
  · rcases text with _ | text
    · cases mode <;> simp [source]
    · simp [source]
  · simp [source]

def Matches (r : EvalRequest) (readFile : String → Contents) (input : List UInt8)
    (subject : String) : Prop :=
  ∃ bytes, r.bytes readFile input = .ok bytes ∧ textOf? bytes = some subject

def unread (r : EvalRequest) : String :=
  match r.file with
  | some path => "Failed to read file: " ++ path
  | none => "Failed to read stdin"

end EvalRequest

theorem readable_eq_ok_iff {what : String} {contents : Contents} :
    readable what contents = .ok subject ↔
      ∃ bytes, contents = .ok bytes ∧ textOf? bytes = some subject := by
  unfold readable
  constructor
  · intro h
    split at h
    · cases h
    · split at h
      · cases h
        exact ⟨_, rfl, ‹_›⟩
      · cases h
  · rintro ⟨bytes, rfl, htext⟩
    dsimp only
    rw [htext]

theorem readable_eq_error {what message : String} {contents : Contents}
    (h : readable what contents = .error message) : ∃ cause, message = what ++ ": " ++ cause := by
  unfold readable at h
  split at h
  · cases h
    exact ⟨_, rfl⟩
  · split at h
    · cases h
    · cases h
      exact ⟨_, rfl⟩

theorem readable_utf8 (what text : String) : readable what (.ok (utf8 text)) = .ok text :=
  readable_eq_ok_iff.2 ⟨_, rfl, textOf?_utf8 text⟩

def TellsFailure (text message : String) : Prop :=
  ∃ line, text = line ++ "\n" ∧ Json.Unbroken line.toList ∧
    IsText line (Json.object [("error", .bool true), ("code", .string "COMMAND_ERROR"),
      ("message", .string message)]).written

theorem tellsFailure_failureLine (message : String) :
    TellsFailure (failureLine message) message := by
  have hjson : (FailureReport.ofCommand message).toJson = .object [("error", .bool true),
      ("code", .string "COMMAND_ERROR"), ("message", .string message)] := rfl
  have hexact : (FailureReport.ofCommand message).toJson.exact = true := rfl
  refine ⟨_, rfl, Json.unbroken_compact _ hexact, ?_⟩
  rw [← hjson]
  exact Json.isText_compact hexact

theorem Exit.ofOutcome_error (level : LogLevel) (message : String) :
    ofOutcome level { output := .error message } =
      { code := 1, stderr := failureLine message } := by
  simp [ofOutcome, logLines]

namespace Invocation

variable {i : Invocation}

def contents (i : Invocation) (readFile : String → Contents) (input : List UInt8) : Contents :=
  match i.reads with
  | some (.file path) => readFile path
  | _ => .ok input

theorem runWith_eq {args : List String} (hargs : Arguments.parse args = .ok i) :
    runWith args readFile input = i.run (i.contents readFile input) := by
  rw [runWith, hargs]
  rfl

theorem reads_unknown (hcommand : i.command = some (.eval r)) {message : String}
    (hengine : engineOf r.engine = .error message) : i.reads = none := by
  simp only [reads, hcommand, hengine]

theorem reads_known (hcommand : i.command = some (.eval r))
    (hengine : engineOf r.engine = .ok forced) :
    i.reads = match r.source with
      | .given _ => none
      | source => some source := by
  simp only [reads, hcommand, hengine]
  cases r.source <;> rfl

theorem subject_contents (hcommand : i.command = some (.eval r))
    (hengine : engineOf r.engine = .ok forced) :
    r.source.subject (i.contents readFile input) =
      readable r.unread (r.bytes readFile input) := by
  rw [contents, reads_known hcommand hengine]
  obtain ⟨pattern, text, mode, replacement, file, engine⟩ := r
  rcases file with _ | path
  · rcases text with _ | text
    · cases mode with
      | tree => exact (readable_utf8 _ "").symm
      | find => rfl
      | replace => rfl
    · exact (readable_utf8 _ text).symm
  · rfl

theorem reads_iff (hcommand : i.command = some (.eval r)) (source : Source)
    (hsource : ∀ text, source ≠ .given text) :
    i.reads = some source ↔ (∃ forced, AsksFor r.engine forced) ∧ r.source = source := by
  cases hengine : engineOf r.engine with
  | error message =>
    rw [reads_unknown hcommand hengine]
    refine iff_of_false nofun ?_
    rintro ⟨⟨forced, hknown⟩, -⟩
    cases hengine.symm.trans (engineOf_eq_ok_iff.2 hknown)
  | ok forced =>
    rw [reads_known hcommand hengine,
      and_iff_right ⟨forced, engineOf_eq_ok_iff.1 hengine⟩]
    constructor
    · intro h
      split at h
      · cases h
      · exact Option.some.inj h
    · rintro rfl
      split
      · exact absurd ‹_› (hsource _)
      · rfl

theorem run_eval (hcommand : i.command = some (.eval r)) :
    i.run (i.contents readFile input) =
    match engineOf r.engine with
    | .error message => { code := 1, stderr := failureLine message }
    | .ok forced =>
      match readable r.unread (r.bytes readFile input) with
      | .error message => { code := 1, stderr := failureLine message }
      | .ok subject =>
        match r.answer subject forced with
        | .error e => { code := Exit.codeOf e }
        | .ok (report, events) =>
          { code := 0
            stdout := report.render i.format ++ "\n"
            stderr := logLines (.ofVerbosity i.verbosity) events } := by
  cases hengine : engineOf r.engine with
  | error message => simp only [run, hcommand, runEval, hengine, Exit.ofOutcome_error]
  | ok forced =>
    simp only [run, hcommand, runEval, hengine, subject_contents hcommand hengine]
    cases readable r.unread (r.bytes readFile input) with
    | error message => exact Exit.ofOutcome_error _ message
    | ok subject =>
      dsimp only
      cases r.answer subject forced with
      | error e => rfl
      | ok answer => rfl

end Invocation

def EvalRequest.inputs (r : EvalRequest) (subject : String) : Inputs where
  pattern := r.pattern
  subject := subject
  mode := some r.mode
  replacement := r.replacement.getD ""

theorem EvalRequest.answer_of_ok {result : Evaluation}
    (h : evaluate (.ofEngine forced) (r.inputs subject) = .ok result) :
    ∃ events, r.answer subject forced =
      .ok (⟨r.pattern, r.mode, { available := true }, result⟩, events) := by
  obtain ⟨pass, hpass, rfl⟩ := map_eq_ok.1 h
  exact ⟨pass.events, by rw [answer]; exact bind_eq_ok.2 ⟨pass, hpass, rfl⟩⟩

theorem EvalRequest.answer_of_error {e : Breakdown}
    (h : evaluate (.ofEngine forced) (r.inputs subject) = .error e) :
    r.answer subject forced = .error e := by
  have hpass : Pass.run (.ofEngine forced) (r.inputs subject) = .error e := map_eq_error.1 h
  rw [answer]
  exact bind_eq_error.2 (.inl hpass)

theorem Exit.codeOf_ne (e : Breakdown) : codeOf e ≠ 0 ∧ codeOf e ≠ 1 := by
  cases e <;> decide

/-- What a request with an engine and a text leads to. A broken pattern and a broken template are
results like any other. -/
structure EvalRequest.Ends (r : EvalRequest) (forced : Option Engine) (subject : String)
    (format : Format) (exit : Exit) : Prop where
  answered : (∀ c, Compiled.ofPattern forced r.pattern = .ok c →
      ¬Backend.Breaks c (r.inputs subject)) →
    ∃ result, evaluate (.ofEngine forced) (r.inputs subject) = .ok result ∧ exit.code = 0 ∧
      exit.stdout =
        (EvalReport.mk r.pattern r.mode { available := true } result).render format ++ "\n"
  patternError : ∀ e, Compiled.ofPattern forced r.pattern = .error e →
    evaluate (.ofEngine forced) (r.inputs subject) = .ok (.patternError e)
  replacementError : ∀ c e, Compiled.ofPattern forced r.pattern = .ok c → r.mode = .replace →
    Template.compile (r.replacement.getD "") c.groupNames = .error e →
      evaluate (.ofEngine forced) (r.inputs subject) = .ok (.replacementError e)
  broken : ∀ c, Compiled.ofPattern forced r.pattern = .ok c →
    Backend.Breaks c (r.inputs subject) →
      exit.code ≠ 0 ∧ exit.code ≠ 1 ∧ exit.stdout = "" ∧ c.engine = .backtracking ∧
        ∀ parsed, Backtracking.parse r.pattern.toList = .ok parsed →
          parsed.node.keepsFront true = true → parsed.leavesMatch = true

structure Exit.Fails (exit : Exit) (message : String) : Prop where
  code : exit.code = 1
  stdout : exit.stdout = ""
  stderr : TellsFailure exit.stderr message

theorem Exit.fails_failureLine (message : String) :
    Fails { code := 1, stderr := failureLine message } message :=
  ⟨rfl, rfl, tellsFailure_failureLine message⟩

theorem EvalRequest.ends (r : EvalRequest) (forced : Option Engine) (subject : String)
    (format : Format) (level : LogLevel) :
    r.Ends forced subject format
      (match r.answer subject forced with
      | .error e => { code := Exit.codeOf e }
      | .ok (report, events) =>
        { code := 0
          stdout := report.render format ++ "\n"
          stderr := logLines level events }) := by
  have hbreaks {c : Compiled} (hc : Compiled.ofPattern forced r.pattern = .ok c) :
      (∃ e, evaluate (.ofEngine forced) (r.inputs subject) = .error e) ↔
        Backend.Breaks c (r.inputs subject) :=
    Backend.evaluate_eq_error_iff (s := r.inputs subject) rfl hc
  have hrefused (e) (he : Compiled.ofPattern forced r.pattern = .error e) :
      evaluate (.ofEngine forced) (r.inputs subject) = .ok (.patternError e) :=
    Backend.evaluate_pattern_refused (s := r.inputs subject) rfl he
  refine ⟨fun hnone => ?_, hrefused, fun c e hc hmode he => ?_, fun c hc hc' => ?_⟩
  · have hok : ∃ result, evaluate (.ofEngine forced) (r.inputs subject) = .ok result := by
      cases hc : Compiled.ofPattern forced r.pattern with
      | error e => exact ⟨_, hrefused e hc⟩
      | ok c =>
        cases hresult : evaluate (.ofEngine forced) (r.inputs subject) with
        | error e => exact absurd ((hbreaks hc).1 ⟨e, hresult⟩) (hnone c hc)
        | ok result => exact ⟨result, rfl⟩
    obtain ⟨result, hresult⟩ := hok
    obtain ⟨events, hanswer⟩ := r.answer_of_ok hresult
    rw [hanswer]
    exact ⟨result, hresult, rfl, rfl⟩
  · have hmode' : (r.inputs subject).mode = some .replace := congrArg some hmode
    exact Backend.evaluate_template_refused (s := r.inputs subject) rfl hc hmode' he
  · obtain ⟨e, he⟩ := (hbreaks hc).2 hc'
    obtain ⟨hzero, hone⟩ := Exit.codeOf_ne e
    rw [r.answer_of_error he]
    exact ⟨hzero, hone, rfl, hc'.pattern hc⟩

/-- A run that is to evaluate a pattern once. It reads the file that is named, or what comes in
where there is no other text and one is needed, and neither if it does not know the engine; beyond
the bytes to match nothing that it could read plays a part. Where it knows the engine and the bytes
are a text it ends well, with the result and a line feed for output, unless the matches break the
evaluation down. In every other case it fails, puts out nothing and says why in one line, of the
engine first. -/
theorem runWith_eval {args : List String} {i : Invocation} (hargs : Arguments.parse args = .ok i)
    (hcommand : i.command = some (.eval r)) (readFile : String → Contents) (input : List UInt8) :
    let exit := runWith args readFile input
    let known := ∃ forced, AsksFor r.engine forced
    (∀ path, i.reads = some (.file path) ↔ known ∧ r.file = some path) ∧
    (i.reads = some .input ↔ known ∧ r.file = none ∧ r.text = none ∧ r.mode ≠ .tree) ∧
    (∀ readFile' input', r.bytes readFile' input' = r.bytes readFile input →
      runWith args readFile' input' = exit) ∧
    (∀ forced subject, AsksFor r.engine forced → r.Matches readFile input subject →
      r.Ends forced subject i.format exit) ∧
    (¬known → ∃ name, r.engine = some name ∧
      exit.Fails ("Unknown engine '" ++ name ++ "'. Valid options: regex, fancy-regex")) ∧
    (known → (∀ subject, ¬r.Matches readFile input subject) →
      ∃ cause, exit.Fails (r.unread ++ ": " ++ cause)) := by
  intro exit known
  have hexit : exit = _ := (Invocation.runWith_eq hargs).trans (Invocation.run_eval hcommand)
  have hfile (path : String) : i.reads = some (.file path) ↔ known ∧ r.file = some path := by
    rw [Invocation.reads_iff hcommand (.file path) nofun, EvalRequest.source_eq_file_iff]
  have hinput : i.reads = some .input ↔
      known ∧ r.file = none ∧ r.text = none ∧ r.mode ≠ .tree := by
    rw [Invocation.reads_iff hcommand .input nofun, EvalRequest.source_eq_input_iff]
  refine ⟨hfile, hinput, fun readFile' input' hbytes => ?_,
    fun forced subject hknown hmatches => ?_, fun hunknown => ?_,
    fun ⟨forced, hknown⟩ hnone => ?_⟩
  · rw [hexit, Invocation.runWith_eq hargs, Invocation.run_eval hcommand, hbytes]
  · rw [hexit, engineOf_eq_ok_iff.2 hknown, readable_eq_ok_iff.2 hmatches]
    exact r.ends forced subject i.format _
  · obtain ⟨name, hname, hengine⟩ := engineOf_unknown fun forced h => hunknown ⟨forced, h⟩
    rw [hexit, hengine]
    exact ⟨name, hname, Exit.fails_failureLine _⟩
  · rw [hexit, engineOf_eq_ok_iff.2 hknown]
    cases hread : readable r.unread (r.bytes readFile input) with
    | ok subject => exact absurd (readable_eq_ok_iff.1 hread) (hnone subject)
    | error message =>
      obtain ⟨cause, rfl⟩ := readable_eq_error hread
      exact ⟨cause, Exit.fails_failureLine _⟩

theorem runWith_eval_refused :
    let readFile : String → Contents := fun _ => .error "No such file or directory (os error 2)"
    let unknown := ["eval", "a", "--file", "f", "--engine", "pcre"]
    let broken := ["-ftext", "eval", "(", "--engine=regex"]
    Arguments.parse unknown = .ok
        { command := some (.eval { pattern := "a", file := some "f", engine := some "pcre" }) } ∧
      (runWith unknown readFile []).Fails
        "Unknown engine 'pcre'. Valid options: regex, fancy-regex" ∧
      Arguments.parse broken = .ok
        { format := .text, command := some (.eval { pattern := "(", engine := some "regex" }) } ∧
      (runWith broken readFile (utf8 "x")).code = 0 ∧
      ∃ e : PatternError, (runWith broken readFile (utf8 "x")).stdout =
        (EvalReport.mk "(" .find { available := true } (.patternError e)).render .text ++ "\n" := by
  intro readFile unknown broken
  have hunknown : Arguments.parse unknown = .ok
      { command := some (.eval { pattern := "a", file := some "f", engine := some "pcre" }) } := by
    cbv
  have hbroken : Arguments.parse broken = .ok
      { format := .text, command := some (.eval { pattern := "(", engine := some "regex" }) } := by
    cbv
  obtain ⟨-, -, -, -, hrefuses, -⟩ := runWith_eval hunknown rfl readFile []
  obtain ⟨-, -, -, hends, -, -⟩ := runWith_eval hbroken rfl readFile (utf8 "x")
  have hname : ¬∃ forced, AsksFor (some "pcre") forced := by
    rintro ⟨forced, h⟩
    have hengine := engineOf_eq_ok_iff.2 h
    simp [engineOf] at hengine
  obtain ⟨name, hname, hfails⟩ := hrefuses hname
  cases hname
  have hcompile : (Linear.Regex.compile "(".toList).isOk = false := by cbv
  obtain ⟨e, he⟩ := isOk_eq_false_iff.1 hcompile
  have hpattern : Compiled.ofPattern (some .linear) "(" =
      .error (.ofLinear "(".toList e) := by
    simp only [Compiled.ofPattern, Compiled.withEngine, he]
  have hend := hends (some .linear) "x" .linear ⟨_, rfl, textOf?_utf8 "x"⟩
  obtain ⟨result, hresult, hcode, hstdout⟩ := hend.answered fun c hc => by
    cases hpattern.symm.trans hc
  cases hresult.symm.trans (hend.patternError _ hpattern)
  exact ⟨hunknown, hfails, hbroken, hcode, _, hstdout⟩

end CommandLine

end RegexStudio
