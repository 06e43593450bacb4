import RegexStudio.Proofs.TextEdits

/-! A single evaluation against a session that is given the same texts, on one line or on several:
both come to the same result, and where one breaks down so does the other. -/

namespace RegexStudio

open Json (IsText)
open UpdateReader (named?)

variable {b : Backend} {forced : Option Engine} {groups : List Edits}

theorem Answered.snapshots {w w' : Workspace} {lines : List String} {replies : List Reply}
    {first : Snapshot} (h : Answered b w lines replies w')
    (hlines : ∀ line ∈ lines, ∃ u, Update.parse line = .ok u) (hfirst : first.Shows b w) :
    ∃ (frames : List Snapshot) (last : Snapshot),
      .snapshot first :: replies = frames.map Reply.snapshot ++ [.snapshot last] ∧
      frames.length = lines.length ∧ last.Shows b w' := by
  induction h generalizing first with
  | nothing => exact ⟨[], first, rfl, rfl, hfirst⟩
  | update _ hf _ ih =>
    obtain ⟨frames, last, hframes, hlength, hlast⟩ :=
      ih (fun line hline => hlines line (List.mem_cons_of_mem _ hline)) hf
    exact ⟨first :: frames, last, congrArg _ hframes, congrArg (· + 1) hlength, hlast⟩
  | refused hp =>
    obtain ⟨u, hu⟩ := hlines _ List.mem_cons_self
    cases hu.symm.trans hp

namespace Session

def inputOf (groups : List Edits) : List UInt8 :=
  utf8 (String.join (groups.map fun es => lineOf es ++ "\n"))

theorem cut_inputOf (groups : List Edits) :
    Cut (inputOf groups) ((groups.map lineOf).map utf8) := by
  have hlines : ∀ s ∈ groups.map lineOf, Json.Unbroken s.toList := fun s hs => by
    obtain ⟨es, -, rfl⟩ := List.mem_map.1 hs
    exact unbroken_lineOf es
  have h := cut_lines hlines
  rwa [List.map_map] at h

theorem owed_lines (h : ∀ es ∈ groups, Edits.Apart es) :
    owed ((groups.map lineOf).map utf8) = groups.map lineOf := by
  induction groups with
  | nil => rfl
  | cons es groups ih =>
    have hblank := Update.not_blank (parse_lineOf (h es List.mem_cons_self))
    rw [List.map_cons, List.map_cons, owed_cons (textOf?_utf8 _) hblank,
      ih fun es' hes' => h es' (List.mem_cons_of_mem _ hes')]

theorem updatesOf_lines (h : ∀ es ∈ groups, Edits.Apart es) :
    updatesOf (groups.map lineOf) = groups.map Update.ofEdits := by
  induction groups with
  | nil => rfl
  | cons es groups ih =>
    rw [List.map_cons, updatesOf_ok (parse_lineOf (h es List.mem_cons_self)),
      ih fun es' hes' => h es' (List.mem_cons_of_mem _ hes'), List.map_cons]

theorem run_edits (h : ∀ es ∈ groups, Edits.Apart es)
    (hnone : (run b {} (inputOf groups)).breakdown = none) :
    (run b {} (inputOf groups)).unreadable = false ∧
      ∃ (frames : List Snapshot) (last : Snapshot), (run b {} (inputOf groups)).replies =
          frames.map Reply.snapshot ++ [.snapshot last] ∧ frames.length = groups.length ∧
        last.Shows b ((groups.map Update.ofEdits).foldl (fun w u => u.apply w) {}) := by
  have hgoes : Goes b {} _ (run b {} (inputOf groups)) := run_goes (cut_inputOf groups)
  have hunreadable := (hgoes.length_eq hnone).2
  cases hgoes with
  | nowhere hbreakdown => cases hnone.symm.trans hbreakdown
  | on hreplies hfirst hrest hstops =>
    cases hstops with
    | broken hbreakdown => cases hnone.symm.trans hbreakdown
    | complete _ hdone =>
      rw [owed_lines h] at hdone
      subst hdone
      have hlines : ∀ line ∈ groups.map lineOf, ∃ u, Update.parse line = .ok u := by
        intro line hline
        obtain ⟨es, hes, rfl⟩ := List.mem_map.1 hline
        exact ⟨_, parse_lineOf (h es hes)⟩
      obtain ⟨frames, last, hframes, hlength, hlast⟩ := hrest.snapshots hlines hfirst
      rw [← hrest.foldl_eq, updatesOf_lines h] at hlast
      rw [List.length_map] at hlength
      refine ⟨Bool.eq_false_iff.2 fun htrue => ?_,
        frames, last, hreplies.trans hframes, hlength, hlast⟩
      obtain ⟨line, hline, hnot⟩ := hunreadable.1 htrue
      obtain ⟨s, -, rfl⟩ := List.mem_map.1 hline
      rw [textOf?_utf8] at hnot
      cases hnot

theorem run_edits_breakdown (h : ∀ es ∈ groups, Edits.Apart es) :
    (run b {} (inputOf groups)).breakdown = none ↔ ∀ before, before <+: groups → ∃ r, evaluate b
      ((before.map Update.ofEdits).foldl (fun w u => u.apply w) ({} : Workspace)).inputs =
        .ok r := by
  rw [(run_goes (cut_inputOf groups)).breakdown_eq_none_iff, owed_lines h, updatesOf_lines h]
  constructor
  · intro hall before hbefore
    exact hall _ (Workspace.mem_history.2 ⟨_, hbefore.map _, rfl⟩)
  · intro hall w hw
    obtain ⟨us, hus, rfl⟩ := Workspace.mem_history.1 hw
    obtain ⟨before, hbefore, rfl⟩ := List.prefix_map_iff.1 hus
    exact hall before hbefore

theorem run_edit {es : Edits} (h : Edits.Apart es) {r : Evaluation}
    (hr : evaluate b ({} : Workspace).inputs = .ok r) :
    (∀ e, evaluate b (Workspace.edited es).inputs = .error e →
      (run b {} (inputOf [es])).breakdown = some e) ∧
    (∀ r', evaluate b (Workspace.edited es).inputs = .ok r' →
      (run b {} (inputOf [es])).breakdown = none) := by
  have hes : ∀ es' ∈ [es], Edits.Apart es' := fun es' hes' => List.mem_singleton.1 hes' ▸ h
  refine ⟨fun e he => ?_, fun r' hr' => (run_edits_breakdown hes).2 fun before hbefore => ?_⟩
  · have hgoes : Goes b {} _ (run b {} (inputOf [es])) := run_goes (cut_inputOf [es])
    cases hgoes with
    | nowhere _ _ _ he' => cases hr.symm.trans he'
    | on _ _ hrest hstops =>
      cases hstops with
      | complete hbreakdown =>
        obtain ⟨_, hr'⟩ := (run_edits_breakdown hes).1 hbreakdown [es] List.prefix_rfl
        cases he.symm.trans hr'
      | @broken line u e' hbreakdown _ hline hp he' =>
        rw [owed_lines hes] at hline
        obtain hnil | ⟨rest, hrest', hnil⟩ := List.prefix_cons_iff.1 hline
        · exact absurd hnil (List.append_ne_nil_of_right_ne_nil _ (List.cons_ne_nil _ _))
        · obtain rfl := List.prefix_nil.1 hnil
          obtain ⟨rfl, hline'⟩ | ⟨-, hline'⟩ := List.append_eq_singleton_iff.1 hrest'
          · obtain rfl := List.singleton_inj.1 hline'
            cases hp.symm.trans (parse_lineOf h)
            cases hrest
            cases he.symm.trans he'
            exact hbreakdown
          · cases hline'
  · obtain rfl | ⟨rest, rfl, hnil⟩ := List.prefix_cons_iff.1 hbefore
    · exact ⟨r, hr⟩
    · obtain rfl := List.prefix_nil.1 hnil
      exact ⟨r', hr'⟩

end Session

theorem Mode.parse_name (m : Mode) : Mode.parse m.name = some m := by
  cases m <;> cbv

theorem Backend.evaluate_default (forced : Option Engine) :
    ∃ r, evaluate (ofEngine forced) ({} : Workspace).inputs = .ok r := by
  rcases forced with _ | _ | _
  · exact ⟨.find [⟨"", 0, 0, []⟩], by cbv⟩
  · exact ⟨.find [⟨"", 0, 0, []⟩], by cbv⟩
  · exact ⟨.find [⟨"", 0, 0, []⟩], by cbv⟩

def ShowsResult (text : String) (result : Evaluation) : Prop :=
  ∃ ms named, IsText text (.object ms) ∧ named? ms = some named ∧
    named.lookup "result" = some result.toJson.written

theorem Snapshot.IsFrame.showsResult {f : Snapshot} {text : String} (h : f.IsFrame text) :
    ShowsResult text f.result := ⟨_, _, h, named?_written _, rfl⟩

namespace CommandLine

theorem EvalReport.showsResult (r : EvalReport) : ShowsResult r.toJson.pretty r.result :=
  ⟨_, _, Json.isText_pretty r.exact_toJson, named?_written _, rfl⟩

variable {r : EvalRequest} {contents : Contents} {subject : String}

def EvalRequest.edits (r : EvalRequest) (subject : String) : Edits :=
  [("pattern", r.pattern), ("text", subject), ("replacement", r.replacement.getD ""),
    ("method", r.mode.name)]

theorem EvalRequest.apart_edits (r : EvalRequest) (subject : String) :
    Edits.Apart (r.edits subject) :=
  ⟨by simp [edits, editable], by simp [edits]⟩

theorem EvalRequest.inputs_edited (r : EvalRequest) (subject : String) :
    (Workspace.edited (r.edits subject)).inputs =
      { pattern := r.pattern
        subject := subject
        mode := some r.mode
        replacement := r.replacement.getD "" } := by
  have hmode : Mode.parse r.mode.name = some r.mode := Mode.parse_name r.mode
  show Inputs.mk r.pattern (r.replacement.getD "") subject (Mode.parse r.mode.name) true none = _
  rw [hmode]

theorem runEval_eq (hengine : engineOf r.engine = .ok forced)
    (hsubject : r.source.subject contents = .ok subject) :
    (∀ e, runEval r .json contents = .error e ↔
      evaluate (.ofEngine forced) (Workspace.edited (r.edits subject)).inputs = .error e) ∧
    ∀ outcome, runEval r .json contents = .ok outcome → ∃ report : EvalReport,
      outcome.output = .ok report.toJson.pretty ∧
        evaluate (.ofEngine forced) (Workspace.edited (r.edits subject)).inputs =
          .ok report.result := by
  rw [EvalRequest.inputs_edited]
  simp only [runEval, hengine, hsubject, EvalRequest.answer, evaluate]
  cases hrun : Pass.run (Backend.ofEngine forced)
      { pattern := r.pattern, subject := subject, mode := some r.mode,
        replacement := r.replacement.getD "" } with
  | error e =>
    refine ⟨fun e' => ⟨fun h => ?_, fun h => ?_⟩, fun outcome h => ?_⟩ <;> cases h <;> rfl
  | ok pass =>
    refine ⟨fun e => iff_of_false (fun h => ?_) (fun h => ?_), fun outcome h => ?_⟩ <;> cases h
    exact ⟨_, rfl, rfl⟩

theorem foldl_singles {es : Edits} (h : Edits.Apart es) :
    ((es.map fun e => [e]).map Update.ofEdits).foldl (fun w u => u.apply w) {} =
      Workspace.edited es := by
  rw [List.map_map]
  exact Update.foldl_edits h {}

theorem apart_singles {es : Edits} (h : Edits.Apart es) :
    ∀ group ∈ es.map fun e => [e], Edits.Apart group := by
  intro group hgroup
  obtain ⟨e, he, rfl⟩ := List.mem_map.1 hgroup
  exact h.subset (List.singleton_sublist.2 he)

theorem run_singles_breakdown {es : Edits} (h : Edits.Apart es) :
    (Session.run b {} (Session.inputOf (es.map fun e => [e]))).breakdown = none ↔
      ∀ before, before <+: es → ∃ v, evaluate b (Workspace.edited before).inputs = .ok v := by
  rw [Session.run_edits_breakdown (apart_singles h)]
  constructor
  · intro hall before hbefore
    rw [← foldl_singles (h.subset hbefore.sublist)]
    exact hall _ (hbefore.map _)
  · intro hall groups hgroups
    obtain ⟨before, hbefore, rfl⟩ := List.prefix_map_iff.1 hgroups
    rw [foldl_singles (h.subset hbefore.sublist)]
    exact hall before hbefore

theorem inputs_singles {es : Edits} (hperm : es.Perm (r.edits subject)) {before : Edits}
    (hbefore : before <+: es) : (Workspace.edited before).pattern ∈ ["", r.pattern] ∧
      (Workspace.edited before).text ∈ ["", subject] := by
  have hapart := (r.apart_edits subject).perm hperm
  have hlookup {key value : String} (h : before.lookup key = some value) :
      (r.edits subject).lookup key = some value := by
    rw [← (r.apart_edits subject).lookup_perm hperm, hapart.lookup_iff]
    exact hbefore.subset ((hapart.subset hbefore.sublist).lookup_iff.1 h)
  have hfield {key value : String} (hkey : (r.edits subject).lookup key = some value) :
      (before.lookup key).getD "" ∈ ["", value] := by
    cases h : before.lookup key with
    | none => simp
    | some v =>
      obtain rfl := Option.some.inj ((hlookup h).symm.trans hkey)
      simp
  exact ⟨hfield rfl, hfield rfl⟩

/-- A request and a session that is given the same texts on one line come to the same result, and
the request breaks down exactly if the session does; so does a session that is given them one by
one, in any order, unless it breaks down at what it shows on the way. There is no breakdown with the
linear engine, nor where the matches stand one behind another and come to an end. -/
theorem runEval_eq_session (hengine : engineOf r.engine = .ok forced)
    (hsubject : r.source.subject contents = .ok subject) :
    let b := Backend.ofEngine forced
    let one := Session.run b {} (Session.inputOf [r.edits subject])
    let singles (es : Edits) := Session.run b {} (Session.inputOf (es.map fun e => [e]))
    (∀ e, runEval r .json contents = .error e ↔ one.breakdown = some e) ∧
    (∀ outcome, runEval r .json contents = .ok outcome → ∃ text result,
      outcome.output = .ok text ∧ ShowsResult text result ∧ one.unreadable = false ∧
      (∃ first second, one.replies = [.snapshot first, .snapshot second] ∧
        second.result = result ∧ ShowsResult second.toJson.compact result) ∧
      ∀ es, es.Perm (r.edits subject) → (singles es).breakdown = none →
        ∃ (frames : List Snapshot) (last : Snapshot),
          (singles es).replies = frames.map Reply.snapshot ++ [.snapshot last] ∧
          frames.length = 4 ∧ last.result = result ∧ ShowsResult last.toJson.compact result) ∧
    (∀ es, es.Perm (r.edits subject) → ((singles es).breakdown = none ↔
      ∀ before, before <+: es → ∃ v, evaluate b (Workspace.edited before).inputs = .ok v)) ∧
    ((forced = some .linear ∨ ∀ pattern ∈ ["", r.pattern], ∀ text ∈ ["", subject], ∀ c,
        Compiled.ofPattern forced pattern = .ok c → c.Orderly text) →
      (∃ outcome, runEval r .json contents = .ok outcome) ∧
        ∀ es, es.Perm (r.edits subject) → (singles es).breakdown = none) := by
  intro b one singles
  have hapart := r.apart_edits subject
  obtain ⟨_, hdefault⟩ := Backend.evaluate_default forced
  obtain ⟨hbroken, hfine⟩ := Session.run_edit hapart hdefault
  obtain ⟨herror, hok⟩ := runEval_eq hengine hsubject
  have hbreakdown {es : Edits} (hperm : es.Perm (r.edits subject)) :
      (singles es).breakdown = none ↔
        ∀ before, before <+: es → ∃ v, evaluate b (Workspace.edited before).inputs = .ok v :=
    run_singles_breakdown (hapart.perm hperm)
  refine ⟨fun e => ?_, fun outcome houtcome => ?_, fun es hperm => hbreakdown hperm,
    fun horderly => ?_⟩
  · rw [herror]
    refine ⟨hbroken e, fun he => ?_⟩
    cases hv : evaluate (.ofEngine forced) (Workspace.edited (r.edits subject)).inputs with
    | error e' =>
      cases he.symm.trans (hbroken e' hv)
      rfl
    | ok v => cases he.symm.trans (hfine v hv)
  · obtain ⟨report, houtput, hresult⟩ := hok outcome houtcome
    have hlast {f : Snapshot} (hf : f.Shows b (Workspace.edited (r.edits subject))) :
        f.result = report.result ∧ ShowsResult f.toJson.compact report.result := by
      have heq : f.result = report.result := Except.ok.inj (hf.result.symm.trans hresult)
      exact ⟨heq, heq ▸ f.isFrame_compact.showsResult⟩
    -- all edits on one line: the default workspace is shown, then the edited one
    obtain ⟨hread, frames, last, hreplies, hlength, hshows⟩ :=
      Session.run_edits (fun es hes => List.mem_singleton.1 hes ▸ hapart) (hfine _ hresult)
    obtain ⟨first, rfl⟩ := List.length_eq_one_iff.1 hlength
    refine ⟨_, _, houtput, report.showsResult, hread, ⟨first, last, hreplies, hlast hshows⟩,
      fun es hperm hnone => ?_⟩
    -- one edit a line: edits of different fields lead to one workspace in any order
    obtain ⟨-, frames, last, hreplies, hlength, hshows⟩ :=
      Session.run_edits (apart_singles (hapart.perm hperm)) hnone
    rw [foldl_singles (hapart.perm hperm), Workspace.edited, Update.ofEdits_perm hapart hperm]
      at hshows
    rw [List.length_map, hperm.length_eq] at hlength
    exact ⟨frames, last, hreplies, hlength, hlast hshows⟩
  · have hevaluates {es before : Edits} (hperm : es.Perm (r.edits subject))
        (hbefore : before <+: es) :
        ∃ v, evaluate b (Workspace.edited before).inputs = .ok v := by
      obtain ⟨hpattern, htext⟩ := inputs_singles hperm hbefore
      exact Backend.evaluate_of_linear_or_orderly
        (horderly.imp_right fun h => h _ hpattern _ htext)
    refine ⟨?_, fun es hperm => (hbreakdown hperm).2 fun before => hevaluates hperm⟩
    obtain ⟨v, hv⟩ := hevaluates (List.Perm.refl _) List.prefix_rfl
    cases houtcome : runEval r .json contents with
    | error e => cases hv.symm.trans ((herror e).1 houtcome)
    | ok outcome => exact ⟨outcome, rfl⟩

theorem runEval_eq_session_reversed :
    let r : EvalRequest :=
      { pattern := "(b)", text := some "abc", mode := .replace, replacement := some "<$1>",
        engine := some "regex" }
    let b := Backend.ofEngine (some .linear)
    let es : Edits :=
      [("method", "replace"), ("replacement", "<$1>"), ("text", "abc"), ("pattern", "(b)")]
    engineOf r.engine = .ok (some .linear) ∧ r.source.subject (.ok []) = .ok "abc" ∧
      es.Perm (r.edits "abc") ∧
      ∃ outcome text result first second frames last,
        runEval r .json (.ok []) = .ok outcome ∧ outcome.output = .ok text ∧
        ShowsResult text result ∧
        (Session.run b {} (Session.inputOf [r.edits "abc"])).replies =
          [.snapshot first, .snapshot second] ∧
        second.result = result ∧
        (Session.run b {} (Session.inputOf (es.map fun e => [e]))).replies =
          List.map Reply.snapshot frames ++ [.snapshot last] ∧
        frames.length = 4 ∧ last.result = result := by
  intro r b es
  have hperm : es.Perm (r.edits "abc") := List.reverse_perm (r.edits "abc")
  obtain ⟨-, hok, -, horderly⟩ := @runEval_eq_session (some .linear) r (.ok []) "abc" rfl rfl
  obtain ⟨⟨outcome, houtcome⟩, hnone⟩ := horderly (.inl rfl)
  obtain ⟨text, result, houtput, htext, -, ⟨first, second, hreplies, hsecond, -⟩, hsingles⟩ :=
    hok outcome houtcome
  obtain ⟨frames, last, hframes, hlength, hlast, -⟩ := hsingles es hperm (hnone es hperm)
  exact ⟨rfl, rfl, hperm, outcome, text, result, first, second, frames, last, houtcome, houtput,
    htext, hreplies, hsecond, hframes, hlength, hlast⟩

end CommandLine

end RegexStudio
