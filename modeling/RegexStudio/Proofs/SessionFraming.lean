import RegexStudio.Proofs.EncodedResults
import RegexStudio.Proofs.Precedence
import RegexStudio.Proofs.SessionLines
import RegexStudio.Proofs.SessionReplies

/-! The framing of a session: one line of output before any input, and one for each line of input
that holds something, up to the first one that is not UTF-8 or that breaks the evaluation down. -/

namespace RegexStudio

variable {b : Backend} {forced : Option Engine}

def readable : List (List UInt8) → List String
  | [] => []
  | bytes :: rest =>
    match textOf? bytes with
    | some text => text :: readable rest
    | none => []

/-- The lines that a session owes an answer. -/
def owed (lines : List (List UInt8)) : List String :=
  (readable lines).filter fun line => ¬Session.Blank line

inductive Answered (b : Backend) : Workspace → List String → List Reply → Workspace → Prop
  | nothing {w : Workspace} : Answered b w [] [] w
  | update {w w' : Workspace} {line : String} {lines : List String} {replies : List Reply}
      {u : Update} {f : Snapshot} (hp : Update.parse line = .ok u) (hf : f.Shows b (u.apply w))
      (h : Answered b (u.apply w) lines replies w') :
      Answered b w (line :: lines) (.snapshot f :: replies) w'
  | refused {w w' : Workspace} {line : String} {lines : List String} {replies : List Reply}
      {fault : Json.Fault} (hp : Update.parse line = .error fault)
      (h : Answered b w lines replies w') :
      Answered b w (line :: lines) (.refused fault :: replies) w'

inductive Stops (b : Backend) (lines : List (List UInt8)) (t : Transcript) (done : List String)
    (w : Workspace) : Prop
  | complete (hbreakdown : t.breakdown = none) (hdone : done = owed lines)
      (hunreadable : t.unreadable = true ↔ ∃ line ∈ lines, textOf? line = none)
  | broken {line : String} {u : Update} {e : Breakdown} (hbreakdown : t.breakdown = some e)
      (hunreadable : t.unreadable = false) (hline : done ++ [line] <+: owed lines)
      (hp : Update.parse line = .ok u) (he : evaluate b (u.apply w).inputs = .error e)

section

variable {bytes : List UInt8} {lines : List (List UInt8)} {line : String}

theorem owed_unreadable (h : textOf? bytes = none) : owed (bytes :: lines) = [] := by
  rw [owed, readable, h]
  rfl

theorem owed_blank (h : textOf? bytes = some line) (hblank : Session.Blank line) :
    owed (bytes :: lines) = owed lines := by
  rw [owed, readable, h]
  exact List.filter_cons_of_neg (by simpa using hblank)

theorem owed_cons (h : textOf? bytes = some line) (hblank : ¬Session.Blank line) :
    owed (bytes :: lines) = line :: owed lines := by
  rw [owed, readable, h]
  exact List.filter_cons_of_pos (by simpa using hblank)

end

theorem Stops.after {bytes : List UInt8} {lines : List (List UInt8)} {t : Transcript}
    {line : String} {done : List String} {w : Workspace} (h : Stops b lines t done w)
    (new : List String) (hbytes : textOf? bytes = some line)
    (hnew : owed (bytes :: lines) = new ++ owed lines) (answer : Answer) :
    Stops b (bytes :: lines) (t.after answer) (new ++ done) w := by
  cases h with
  | complete hbreakdown hdone hunreadable =>
    refine .complete hbreakdown (by rw [hnew, hdone]) (hunreadable.trans ?_)
    simp [hbytes]
  | broken hbreakdown hunreadable hline hp he =>
    refine .broken hbreakdown hunreadable ?_ hp he
    rw [hnew, List.append_assoc]
    exact (List.prefix_append_right_inj new).2 hline

namespace Session

variable {s : Session} {w : Workspace} {g : Nat} {lines : List (List UInt8)}

/-- A session answers what it owes, line by line, until it ends or breaks down. -/
theorem Shown.feedAll_answered (h : s.Shown b w g) (lines : List (List UInt8)) :
    ∃ done w', Answered b w done (s.feedAll b lines).replies w' ∧
      Stops b lines (s.feedAll b lines) done w' := by
  induction lines generalizing s w g with
  | nil => exact ⟨[], w, .nothing, .complete rfl rfl (by simp [Session.feedAll])⟩
  | cons bytes lines ih =>
    rw [Session.feedAll]
    cases hbytes : textOf? bytes with
    | none =>
      exact ⟨[], w, .nothing, .complete rfl (owed_unreadable hbytes).symm
        (iff_of_true rfl ⟨bytes, List.mem_cons_self, hbytes⟩)⟩
    | some line =>
      dsimp only
      by_cases hblank : Blank line
      · obtain ⟨done, w', hdone, hstops⟩ := ih h
        rw [feed_blank hblank]
        exact ⟨done, w', hdone, hstops.after [] hbytes (owed_blank hbytes hblank) _⟩
      have howed : owed (bytes :: lines) = [line] ++ owed lines := owed_cons hbytes hblank
      cases hp : Update.parse line with
      | error fault =>
        -- only the count of lines changes
        obtain ⟨done, w', hdone, hstops⟩ :=
          ih (s := { s with lines := s.lines + 1 }) ⟨h.workspace, h.listeners, h.cache⟩
        rw [feed_refused hblank hp]
        exact ⟨line :: done, w', .refused hp hdone, hstops.after [line] hbytes howed _⟩
      | ok u =>
        obtain ⟨hbroken, hok⟩ := h.feed_update hblank hp
        cases he : evaluate b (u.apply w).inputs with
        | error e =>
          rw [hbroken e he]
          refine ⟨[], w, .nothing, .broken rfl rfl ?_ hp he⟩
          rw [howed]
          exact List.prefix_append [line] _
        | ok r =>
          obtain ⟨answer, s', hfeed, hreplies, hs'⟩ := hok r he
          obtain ⟨done, w', hdone, hstops⟩ := ih hs'
          rw [hfeed]
          refine ⟨line :: done, w', ?_, hstops.after [line] hbytes howed answer⟩
          show Answered b w _ (answer.replies ++ _) w'
          rw [hreplies]
          exact .update hp ⟨rfl, rfl, rfl, he⟩ hdone

theorem feedAll_take (b : Backend) (s : Session) (lines : List (List UInt8)) (m : Nat) :
    (s.feedAll b (lines.take m)).replies <+: (s.feedAll b lines).replies := by
  induction lines generalizing s m with
  | nil => rw [List.take_nil]
  | cons bytes lines ih =>
    cases m with
    | zero => exact List.nil_prefix
    | succ m =>
      rw [List.take_succ_cons, feedAll, feedAll]
      cases textOf? bytes with
      | none => exact List.prefix_rfl
      | some line =>
        dsimp only
        cases s.feed b line with
        | error e => exact List.prefix_rfl
        | ok answered => exact (List.prefix_append_right_inj _).2 (ih _ m)

end Session

def updatesOf (lines : List String) : List Update :=
  lines.filterMap fun line => (Update.parse line).toOption

section

variable {line : String} {lines : List String}

theorem updatesOf_ok {u : Update} (h : Update.parse line = .ok u) :
    updatesOf (line :: lines) = u :: updatesOf lines := List.filterMap_cons_some (by rw [h]; rfl)

theorem updatesOf_error {fault : Json.Fault} (h : Update.parse line = .error fault) :
    updatesOf (line :: lines) = updatesOf lines := List.filterMap_cons_none (by rw [h]; rfl)

end

theorem Workspace.mem_history {initial w : Workspace} {us : List Update} :
    w ∈ initial.history us ↔ ∃ us', us' <+: us ∧ us'.foldl (fun w u => u.apply w) initial = w := by
  induction us generalizing initial with
  | nil => simp [history, eq_comm]
  | cons u us ih =>
    rw [history_cons, List.mem_cons, ih]
    constructor
    · rintro (rfl | ⟨us', hus', rfl⟩)
      · exact ⟨[], List.nil_prefix, rfl⟩
      · exact ⟨u :: us', List.cons_prefix_cons.2 ⟨rfl, hus'⟩, rfl⟩
    · rintro ⟨_ | ⟨u', us'⟩, hus', rfl⟩
      · exact .inl rfl
      · obtain ⟨rfl, hrest⟩ := List.cons_prefix_cons.1 hus'
        exact .inr ⟨us', hrest, rfl⟩

namespace Answered

variable {w w' : Workspace} {lines : List String} {replies : List Reply}

theorem foldl_eq (h : Answered b w lines replies w') :
    (updatesOf lines).foldl (fun w u => u.apply w) w = w' := by
  induction h with
  | nothing => rfl
  | update hp _ _ ih =>
    rw [updatesOf_ok hp]
    exact ih
  | refused hp _ ih =>
    rw [updatesOf_error hp]
    exact ih

theorem evaluates (h : Answered b w lines replies w') (hw : ∃ r, evaluate b w.inputs = .ok r) :
    ∀ v ∈ w.history (updatesOf lines), ∃ r, evaluate b v.inputs = .ok r := by
  induction h with
  | nothing =>
    intro v hv
    obtain rfl : v = _ := by simpa [updatesOf, Workspace.history] using hv
    exact hw
  | update hp hf _ ih =>
    rw [updatesOf_ok hp, Workspace.history_cons]
    intro v hv
    rcases List.mem_cons.1 hv with rfl | hv
    · exact hw
    · exact ih ⟨_, hf.result⟩ v hv
  | refused hp _ ih =>
    rw [updatesOf_error hp]
    exact ih hw

theorem length_eq (h : Answered b w lines replies w') : replies.length = lines.length := by
  induction h with
  | nothing => rfl
  | update _ _ _ ih => exact congrArg (· + 1) ih
  | refused _ _ ih => exact congrArg (· + 1) ih

end Answered

theorem Backend.evaluate_of_orderly {s : Inputs}
    (h : ∀ c, Compiled.ofPattern forced s.pattern = .ok c → c.Orderly s.subject) :
    ∃ r, evaluate (ofEngine forced) s = .ok r := by
  cases havailable : s.engineAvailable with
  | false => exact ⟨_, evaluate_unavailable havailable⟩
  | true =>
    cases hc : Compiled.ofPattern forced s.pattern with
    | error e => exact ⟨_, evaluate_pattern_refused havailable hc⟩
    | ok c =>
      cases hr : evaluate (ofEngine forced) s with
      | ok r => exact ⟨r, rfl⟩
      | error e =>
        have hbreaks : Breaks c s := (evaluate_eq_error_iff havailable hc).1 ⟨e, hr⟩
        exact absurd (h c hc) hbreaks.not_orderly

theorem Compiled.engine_of_forced {pattern : String} {c : Compiled} {engine : Engine}
    (h : ofPattern (some engine) pattern = .ok c) : c.engine = engine := by
  cases engine with
  | linear =>
    simp only [ofPattern, withEngine] at h
    split at h
    · cases h
      rfl
    · cases h
  | backtracking =>
    simp only [ofPattern, withEngine] at h
    split at h
    · cases h
      rfl
    · cases h

theorem Backend.evaluate_of_linear_or_orderly {forced : Option Engine} {s : Inputs}
    (h : forced = some .linear ∨
      ∀ c, Compiled.ofPattern forced s.pattern = .ok c → c.Orderly s.subject) :
    ∃ r, evaluate (ofEngine forced) s = .ok r := by
  refine evaluate_of_orderly fun c hc => ?_
  rcases h with rfl | h
  · exact Compiled.orderly_of_linear (Compiled.engine_of_forced hc) _
  · exact h c hc

def Transcript.output (t : Transcript) : String := String.join (t.replies.map Reply.line)

/-- A text that is one object with the members of the snapshot, and with no others. -/
def Snapshot.IsFrame (f : Snapshot) (text : String) : Prop :=
  Json.IsText text (Json.object
    [("generation", .natural f.generation),
      ("recomputed", .bool f.recomputed),
      ("mode", .string f.mode),
      ("engine", .object (("available", .bool f.engine.available) ::
        match f.engine.error with
        | none => []
        | some error => [("error", .string error)])),
      ("docs", .object [("regex", .string f.docs.regex),
        ("regex_syntax", .string f.docs.regexSyntax)]),
      ("result", f.result.toJson)]).written

def Refusal (text : String) : Prop :=
  ∃ members, Json.IsText text (Json.object members).written ∧
    ("code", .string "INVALID_INPUT") ∈ members

inductive Says : Reply → String → Prop
  | snapshot {f : Snapshot} {text : String} (hunbroken : Json.Unbroken text.toList)
      (hframe : f.IsFrame text) : Says (.snapshot f) text
  | refused {fault : Json.Fault} {text : String} (hunbroken : Json.Unbroken text.toList)
      (hrefusal : Refusal text) : Says (.refused fault) text

theorem Snapshot.isFrame_compact (f : Snapshot) : f.IsFrame f.toJson.compact := by
  have h := Json.isText_compact f.exact_toJson
  rcases f with ⟨generation, recomputed, mode, ⟨available, _ | error⟩, docs, result⟩
  · exact h
  · exact h

theorem Reply.says_compact (reply : Reply) : Says reply reply.toJson.compact := by
  have hunbroken := Json.unbroken_compact reply.toJson reply.exact_toJson
  cases reply with
  | snapshot f => exact .snapshot hunbroken f.isFrame_compact
  | refused fault =>
    have hcode : ("code", .string "INVALID_INPUT") ∈
        [("error", Json.bool true), ("code", .string "INVALID_INPUT")] ++
          [("message", .string (FailureReport.ofLine fault).message)] ++
          Json.optional "suggestion" ((FailureReport.ofLine fault).suggestion.map .string) := by
      simp
    exact .refused hunbroken ⟨_, Json.isText_compact (Reply.refused fault).exact_toJson, hcode⟩

theorem Says.unbroken {reply : Reply} {text : String} (h : Says reply text) :
    Json.Unbroken text.toList := by
  cases h <;> assumption

theorem Transcript.output_eq (t : Transcript) : t.output =
    String.join ((t.replies.map fun reply => reply.toJson.compact).map (· ++ "\n")) := by
  rw [List.map_map]
  rfl

theorem Transcript.cut_output (t : Transcript) :
    Cut (utf8 t.output) ((t.replies.map fun reply => reply.toJson.compact).map utf8) := by
  rw [output_eq]
  refine cut_lines fun s hs => ?_
  obtain ⟨reply, -, rfl⟩ := List.mem_map.1 hs
  exact reply.says_compact.unbroken

theorem Transcript.says_replies (t : Transcript) :
    List.Forall₂ Says t.replies (t.replies.map fun reply => reply.toJson.compact) :=
  List.forall₂_map_right_iff.2 (List.forall₂_same.2 fun reply _ => reply.says_compact)

namespace Session

/-- How a session over `lines` goes: it breaks down at the initial workspace, or shows that and goes
on with the answers that it owes. -/
inductive Goes (b : Backend) (initial : Workspace) (lines : List (List UInt8)) (t : Transcript) :
    Prop
  | nowhere {e : Breakdown} (hbreakdown : t.breakdown = some e) (hunreadable : t.unreadable = false)
      (hreplies : t.replies = []) (he : evaluate b initial.inputs = .error e)
  | on {first : Snapshot} {rest : List Reply} {done : List String} {w : Workspace}
      (hreplies : t.replies = .snapshot first :: rest) (hfirst : first.Shows b initial)
      (hrest : Answered b initial done rest w) (hstops : Stops b lines t done w)

variable {initial : Workspace} {input : List UInt8} {lines : List (List UInt8)}

theorem run_goes (h : Cut input lines) : Goes b initial lines (run b initial input) := by
  obtain rfl := cut_iff.1 h
  unfold run
  cases he : evaluate b initial.inputs with
  | error e =>
    rw [start_error he]
    exact .nowhere rfl rfl rfl he
  | ok r =>
    obtain ⟨answer, s, hstart, hreplies, hs⟩ := start_ok he
    obtain ⟨done, w, hdone, hstops⟩ := hs.feedAll_answered (byteLines input)
    rw [hstart]
    have hfirst : (initial.snapshot 1 true r).Shows b initial := ⟨rfl, rfl, rfl, he⟩
    refine .on ?_ hfirst hdone ?_
    · show answer.replies ++ _ = _
      rw [hreplies]
      rfl
    · cases hstops with
      | complete hbreakdown hdone hunreadable => exact .complete hbreakdown hdone hunreadable
      | broken hbreakdown hunreadable hline hp he =>
        exact .broken hbreakdown hunreadable hline hp he

/-- A session breaks down exactly if one of the workspaces on its way does. -/
theorem Goes.breakdown_eq_none_iff {t : Transcript} (h : Goes b initial lines t) :
    t.breakdown = none ↔
      ∀ w ∈ initial.history (updatesOf (owed lines)), ∃ r, evaluate b w.inputs = .ok r := by
  cases h with
  | nowhere hbreakdown _ _ he =>
    refine iff_of_false (by simp [hbreakdown]) fun hall => ?_
    obtain ⟨r, hr⟩ := hall initial (Workspace.mem_history.2 ⟨[], List.nil_prefix, rfl⟩)
    cases hr.symm.trans he
  | on _ hfirst hrest hstops =>
    cases hstops with
    | complete hbreakdown hdone _ =>
      rw [← hdone]
      exact iff_of_true hbreakdown (hrest.evaluates ⟨_, hfirst.result⟩)
    | @broken line u e hbreakdown _ hline hp he =>
      refine iff_of_false (by simp [hbreakdown]) fun hall => ?_
      obtain ⟨r, hr⟩ := hall _ (Workspace.mem_history.2 ⟨_, hline.filterMap _, rfl⟩)
      rw [List.filterMap_append, List.foldl_append] at hr
      change
        evaluate b ((updatesOf [line]).foldl _ ((updatesOf _).foldl _ initial)).inputs = _ at hr
      rw [updatesOf_ok hp, hrest.foldl_eq] at hr
      cases hr.symm.trans he

theorem Goes.length_eq {t : Transcript} (h : Goes b initial lines t) (ht : t.breakdown = none) :
    t.replies.length = 1 + (owed lines).length ∧
      (t.unreadable = true ↔ ∃ line ∈ lines, textOf? line = none) := by
  cases h with
  | nowhere hbreakdown => cases ht.symm.trans hbreakdown
  | on hreplies _ hrest hstops =>
    cases hstops with
    | complete _ hdone hunreadable =>
      rw [hreplies, List.length_cons, hrest.length_eq, hdone, Nat.add_comm]
      exact ⟨rfl, hunreadable⟩
    | broken hbreakdown => cases ht.symm.trans hbreakdown

/-- The stream of a session keeps its framing, whatever its input. What is written falls into one
line for each reply, each of them an object: the first shows the initial workspace, and those after
it answer the lines that hold something, each at its place, up to the first that is not UTF-8; only
then does the session end with an error. It ends before that only if the evaluation of a workspace
breaks down, after all answers that were owed till then; this cannot be with the linear engine, nor
where the matches of each workspace stand one behind another and come to an end. What is
written for the first lines comes first in what is written for all of them. -/
theorem run_framed (forced : Option Engine) (initial : Workspace) (input : List UInt8) :
    let b := Backend.ofEngine forced
    let t := run b initial input
    ∃ lines, Cut input lines ∧
      (∃ texts, List.Forall₂ Says t.replies texts ∧
        t.output = String.join (texts.map (· ++ "\n")) ∧ Cut (utf8 t.output) (texts.map utf8)) ∧
      Goes b initial lines t ∧
      (t.breakdown = none → t.replies.length = 1 + (owed lines).length ∧
        (t.unreadable = true ↔ ∃ line ∈ lines, textOf? line = none)) ∧
      (t.breakdown = none ↔
        ∀ w ∈ initial.history (updatesOf (owed lines)), ∃ r, evaluate b w.inputs = .ok r) ∧
      (forced = some .linear → t.breakdown = none) ∧
      ((∀ w ∈ initial.history (updatesOf (owed lines)), ∀ c,
        Compiled.ofPattern forced w.pattern = .ok c → c.Orderly w.text) → t.breakdown = none) ∧
      ∀ m input', Cut input' (lines.take m) →
        (run b initial input').replies <+: t.replies ∧
          utf8 (run b initial input').output <+: utf8 t.output := by
  intro b t
  have hgoes : Goes b initial (byteLines input) t := run_goes (cut_iff.2 rfl)
  have hbreakdown := hgoes.breakdown_eq_none_iff
  refine ⟨byteLines input, cut_iff.2 rfl, ⟨_, t.says_replies, t.output_eq, t.cut_output⟩, hgoes,
    hgoes.length_eq, hbreakdown, fun hlinear => ?_,
    fun horderly => ?_, fun m input' hinput' => ?_⟩
  · exact hbreakdown.2 fun w _ => Backend.evaluate_of_linear_or_orderly (.inl hlinear)
  · exact hbreakdown.2 fun w hw => Backend.evaluate_of_linear_or_orderly (.inr (horderly w hw))
  · have hreplies : (run b initial input').replies <+: t.replies := by
      simp only [t, run, cut_iff.1 hinput']
      cases start b initial with
      | error e => exact List.prefix_rfl
      | ok started => exact (List.prefix_append_right_inj _).2 (feedAll_take b _ _ m)
    refine ⟨hreplies, ?_⟩
    obtain ⟨more, hmore⟩ := hreplies
    rw [Transcript.output, Transcript.output, ← hmore, List.map_append, String.join_append,
      utf8_append]
    exact List.prefix_append _ _

theorem run_framed_unreadable :
    ∃ t, t = run (.ofEngine (some .linear)) { pattern := "a" }
        ("[]\r\n\x7b\"text\":\"ba\"\x7d\n \n".toUTF8.toList ++ [0xff, 10]) ∧
      t.breakdown = none ∧ t.replies.length = 3 ∧ t.unreadable = true ∧
      (∃ texts : List String, Cut (utf8 t.output) (texts.map utf8) ∧ texts.length = 3) ∧
      (run (.ofEngine (some .linear)) { pattern := "a" } "[]\r\n".toUTF8.toList).replies <+:
        t.replies := by
  obtain ⟨lines, hcut, ⟨texts, hsays, -, htexts⟩, -, hlength, -, hlinear, horderly, htake⟩ :=
    run_framed (some .linear) { pattern := "a" }
      ("[]\r\n\x7b\"text\":\"ba\"\x7d\n \n".toUTF8.toList ++ [0xff, 10])
  have hlines : byteLines ("[]\r\n\x7b\"text\":\"ba\"\x7d\n \n".toUTF8.toList ++ [0xff, 10]) =
      ["[]".toUTF8.toList, "\x7b\"text\":\"ba\"\x7d".toUTF8.toList, [32], [0xff]] := by cbv
  have hbad : textOf? [0xff] = none := by cbv
  have howed : owed ["[]".toUTF8.toList, "\x7b\"text\":\"ba\"\x7d".toUTF8.toList, [32], [0xff]] =
      ["[]", "\x7b\"text\":\"ba\"\x7d"] := by
    have hfirst : ¬Blank "[]" := fun h => absurd (h '[' (by simp)) (by decide)
    have hsecond : ¬Blank "\x7b\"text\":\"ba\"\x7d" := fun h =>
      absurd (h '\x7b' (by simp)) (by decide)
    have hthird : Blank " " := fun c hc => by
      obtain rfl : c = ' ' := by simpa using hc
      rfl
    rw [owed_cons (by cbv) hfirst, owed_cons (by cbv) hsecond, owed_blank (by cbv) hthird,
      owed_unreadable hbad]
  obtain rfl := (cut_iff.1 hcut).symm.trans hlines
  have hnone := horderly fun w _ c hc => Compiled.orderly_of_linear (Compiled.engine_of_forced hc) _
  obtain ⟨hcount, hunreadable⟩ := hlength (hlinear rfl)
  rw [howed] at hcount
  exact ⟨_, rfl, hnone, hcount, hunreadable.2 ⟨[0xff], by simp, hbad⟩,
    ⟨texts, htexts, hsays.length_eq.symm.trans hcount⟩, (htake 1 _ (cut_iff.2 (by cbv))).1⟩

end Session

end RegexStudio
