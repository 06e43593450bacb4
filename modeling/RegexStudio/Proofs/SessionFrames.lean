import RegexStudio.Proofs.OneShot

/-! The frames that a session writes against the workspaces that its lines lead through, each of
them evaluated anew: neither the cache nor a line without an update leaves a trace in them. -/

namespace RegexStudio

variable {b : Backend} {w : Workspace} {f : Snapshot}

/-- One snapshot for each of the workspaces `ws`, in their order. The first is computed, each of the
others unless nothing changed that a result depends on, and generations count the results
computed. -/
structure Follows (b : Backend) (ws : List Workspace) (fs : List Snapshot) : Prop where
  length : fs.length = ws.length
  shows : ∀ (k : Nat) (f : Snapshot) (w : Workspace),
    fs[k]? = some f → ws[k]? = some w → f.Shows b w
  first : ∀ f : Snapshot, fs[0]? = some f → f.recomputed = true ∧ f.generation = 1
  recomputed : ∀ (k : Nat) (f : Snapshot) (v w : Workspace),
    fs[k + 1]? = some f → ws[k]? = some v → ws[k + 1]? = some w →
      (f.recomputed = false ↔ w.flags.engine = v.flags.engine ∧
        Mode.parse w.modeName = Mode.parse v.modeName ∧ w.pattern = v.pattern ∧
        w.replacement = v.replacement ∧ w.text = v.text)
  generation : ∀ (k : Nat) (f : Snapshot), fs[k]? = some f →
    f.generation = (fs.take (k + 1)).countP (·.recomputed)

theorem Workspace.key_eq_iff {v w : Workspace} :
    w.inputs.key = v.inputs.key ↔ w.flags.engine = v.flags.engine ∧
      Mode.parse w.modeName = Mode.parse v.modeName ∧ w.pattern = v.pattern ∧
      w.replacement = v.replacement ∧ w.text = v.text := ResultKey.mk.injEq .. ▸ Iff.rfl

theorem Workspace.length_history (w : Workspace) (us : List Update) :
    (w.history us).length = us.length + 1 := List.length_scanl ..

theorem plain_length_lt (b : Backend) (w : Workspace) (g : Nat) (us : List Update) :
    (plain b w g us).1.length < (w.history us).length := by
  have hending := plain_ending b w g us
  cases hbroken : (plain b w g us).2 with
  | none =>
    rw [hbroken] at hending
    rw [Workspace.length_history, hending]
    exact Nat.lt_succ_self _
  | some e =>
    rw [hbroken] at hending
    obtain ⟨w', hw', -⟩ := hending
    have hlt := (List.getElem?_eq_some_iff.1 hw').1
    exact Nat.lt_of_succ_lt hlt

theorem of_getElem?_take {α : Type} {xs : List α} {n k : Nat} {x : α}
    (h : (xs.take n)[k]? = some x) : xs[k]? = some x := by
  rw [List.getElem?_take] at h
  split at h
  · exact h
  · cases h

theorem follows_plain {r : Evaluation} (hr : evaluate b w.inputs = .ok r) (us : List Update) :
    Follows b ((w.history us).take ((plain b w 1 us).1.length + 1))
      (w.snapshot 1 true r :: (plain b w 1 us).1) where
  length := by
    rw [List.length_take, List.length_cons, Nat.min_eq_left]
    exact plain_length_lt b w 1 us
  shows
    | 0, f, w', hf, hw' => by
      obtain rfl := Option.some.inj hf
      obtain rfl := Option.some.inj ((Workspace.history_zero w us).symm.trans
        (of_getElem?_take hw'))
      exact ⟨rfl, rfl, rfl, hr⟩
    | k + 1, f, w', hf, hw' => by
      obtain ⟨_, w₀, -, hw₀, hshows, -⟩ := plain_shows (k := k) hf
      obtain rfl := Option.some.inj (hw₀.symm.trans (of_getElem?_take hw'))
      exact hshows
  first := by
    rintro f ⟨⟩
    exact ⟨rfl, rfl⟩
  recomputed := by
    intro k f v w' hf hv hw'
    obtain ⟨v₀, w₀, hv₀, hw₀, -, hre, -⟩ := plain_shows (k := k) hf
    obtain rfl := Option.some.inj (hv₀.symm.trans (of_getElem?_take hv))
    obtain rfl := Option.some.inj (hw₀.symm.trans (of_getElem?_take hw'))
    rw [hre, decide_eq_false_iff_not, not_not, Workspace.key_eq_iff]
  generation
    | 0, f, hf => by
      obtain rfl := Option.some.inj hf
      rfl
    | k + 1, f, hf => by
      obtain ⟨_, _, -, -, -, -, hge⟩ := plain_shows hf
      rw [hge, List.take_succ_cons, List.countP_cons_of_pos rfl, Nat.add_comm]

theorem Follows.evaluates {ws : List Workspace} {fs : List Snapshot} (h : Follows b ws fs)
    (hw : w ∈ ws) : ∃ r, evaluate b w.inputs = .ok r := by
  obtain ⟨k, hk⟩ := List.getElem?_of_mem hw
  have hlt : k < fs.length := by
    rw [h.length]
    exact (List.getElem?_eq_some_iff.1 hk).1
  exact ⟨_, (h.shows k _ w (List.getElem?_eq_getElem hlt) hk).result⟩

theorem Snapshot.IsFrame.not_refusal {text : String} (h : f.IsFrame text) : ¬Refusal text := by
  rintro ⟨members, htext, hcode⟩
  have hobject := Json.Written.object.inj (htext.unique h)
  have hnamed := named?_written members
  rw [show Json.writtenMembers members = _ from hobject, named?_written] at hnamed
  have hmem : "code" ∈ members.map Prod.fst := List.mem_map_of_mem hcode
  have hkeys := congrArg (List.map Prod.fst) (Option.some.inj hnamed)
  rw [List.map_map, List.map_map] at hkeys
  rw [show members.map Prod.fst =
    ["generation", "recomputed", "mode", "engine", "docs", "result"] from hkeys.symm] at hmem
  revert hmem
  decide

theorem Says.refusal {fault : Json.Fault} {text : String} (h : Says (.refused fault) text) :
    Refusal text := by
  cases h
  assumption

open scoped Classical in
theorem filter_refusal (replies : List Reply) :
    (replies.map fun reply => reply.toJson.compact).filter (fun text => ¬Refusal text) =
      (replies.filterMap Reply.snapshot?).map fun f => f.toJson.compact := by
  induction replies with
  | nil => rfl
  | cons reply replies ih =>
    rw [List.map_cons]
    cases reply with
    | snapshot f =>
      have hframe : ¬Refusal (Reply.snapshot f).toJson.compact := f.isFrame_compact.not_refusal
      rw [List.filter_cons_of_pos (by simpa using hframe), ih]
      rfl
    | refused fault =>
      have hrefusal : Refusal (Reply.refused fault).toJson.compact := (Reply.says_compact _).refusal
      rw [List.filter_cons_of_neg (by simpa using hrefusal), ih]
      rfl

theorem readable_eq {lines : List (List UInt8)} {texts : List String}
    (h : lines.map textOf? = texts.map some) : readable lines = texts := by
  induction lines generalizing texts with
  | nil =>
    obtain rfl : texts = [] := by simpa using h.symm
    rfl
  | cons line lines ih =>
    rcases texts with _ | ⟨text, texts⟩
    · cases h
    rw [List.map_cons, List.map_cons, List.cons.injEq] at h
    rw [readable, h.1, ih h.2]

namespace Session

variable {initial : Workspace} {input : List UInt8} {lines : List String}

theorem Goes.snapshots {lines : List (List UInt8)} {t : Transcript}
    (h : Goes b initial lines t) (hlines : ∀ line ∈ owed lines, ∃ u, Update.parse line = .ok u) :
    ∃ fs : List Snapshot, t.replies = fs.map Reply.snapshot := by
  cases h with
  | nowhere _ _ hreplies => exact ⟨[], hreplies⟩
  | @on first rest done w hreplies hfirst hrest hstops =>
    have hdone : ∀ line ∈ done, ∃ u, Update.parse line = .ok u := by
      intro line hline
      apply hlines
      cases hstops with
      | complete _ hdone => exact hdone ▸ hline
      | broken _ _ hprefix => exact hprefix.subset (List.mem_append_left _ hline)
    obtain ⟨fs, last, hfs, -⟩ := hrest.snapshots hdone hfirst
    refine ⟨fs ++ [last], ?_⟩
    rw [hreplies, hfs, List.map_append]
    rfl

theorem run_updates (hlines : (byteLines input).map textOf? =
      (lines.filter fun line => (Update.ofLine? line).isSome).map some) :
    (run b initial input).replies = (run b initial input).snapshots.map Reply.snapshot := by
  have hgoes : Goes b initial _ (run b initial input) := run_goes (cut_iff.2 rfl)
  have howed : ∀ line ∈ owed (byteLines input), ∃ u, Update.parse line = .ok u := by
    intro line hline
    rw [owed, readable_eq hlines] at hline
    have hsome := List.of_mem_filter (List.mem_of_mem_filter hline)
    obtain ⟨u, hu⟩ := Option.isSome_iff_exists.1 hsome
    exact ⟨u, (Update.ofLine?_eq_some.1 hu).2⟩
  obtain ⟨fs, hfs⟩ := hgoes.snapshots howed
  have hsnapshots : (run b initial input).snapshots = fs := by
    rw [Transcript.snapshots, hfs, List.filterMap_map]
    exact List.filterMap_some
  rw [hsnapshots, hfs]

theorem run_follows_plain (hlines : (byteLines input).map textOf? = lines.map some) :
    let t := run b initial input
    let ws := initial.history (lines.filterMap Update.ofLine?)
    t.unreadable = false ∧ Follows b (ws.take t.snapshots.length) t.snapshots ∧
      match t.breakdown with
      | none => t.snapshots.length = ws.length
      | some e => ∃ w : Workspace, ws[t.snapshots.length]? = some w ∧
          evaluate b w.inputs = .error e := by
  intro t ws
  obtain ⟨hread, hrun⟩ := run_eq_plain (b := b) (w := initial) hlines
  refine ⟨hread, ?_⟩
  cases he : evaluate b initial.inputs with
  | error e =>
    rw [he] at hrun
    obtain ⟨hsnap, hbroken⟩ := Prod.mk.inj hrun
    rw [show t.snapshots = [] from hsnap, show t.breakdown = some e from hbroken]
    refine ⟨⟨rfl, ?_, ?_, ?_, ?_⟩, initial, Workspace.history_zero _ _, he⟩ <;>
      intros <;> contradiction
  | ok r =>
    rw [he] at hrun
    obtain ⟨hsnap, hbroken⟩ := Prod.mk.inj hrun
    have hending := plain_ending b initial 1 (lines.filterMap Update.ofLine?)
    rw [show t.snapshots = _ from hsnap, show t.breakdown = _ from hbroken]
    refine ⟨follows_plain he _, ?_⟩
    revert hending
    cases (plain b initial 1 (lines.filterMap Update.ofLine?)).2 with
    | none =>
      intro hending
      rw [List.length_cons, hending, Workspace.length_history]
    | some e => exact id

open scoped Classical in
/-- A session writes what a session without a cache would write: besides refusals, one frame for
each workspace that the accepted lines lead through, each with the result of an evaluation of its
own. It breaks down exactly at the first workspace that breaks the evaluation down, after the frames
of those before it; this cannot be with the linear engine, nor where the matches of each workspace
stand one behind another and come to an end. Lines of blanks and refused lines change no frame. -/
theorem run_frames (b : Backend) (initial : Workspace) (input : List UInt8) (lines : List String)
    (hlines : (byteLines input).map textOf? = lines.map some) :
    let t := run b initial input
    let ws := initial.history (lines.filterMap Update.ofLine?)
    t.unreadable = false ∧
    (t.breakdown = none ↔ ∀ w ∈ ws, ∃ r, evaluate b w.inputs = .ok r) ∧
    (t.breakdown = none → Follows b ws t.snapshots) ∧
    (∀ e, t.breakdown = some e → Follows b (ws.take t.snapshots.length) t.snapshots ∧
      ∃ w : Workspace, ws[t.snapshots.length]? = some w ∧ evaluate b w.inputs = .error e) ∧
    (∀ forced, b = Backend.ofEngine forced → (forced = some .linear ∨ ∀ w ∈ ws, ∀ c,
      Compiled.ofPattern forced w.pattern = .ok c → c.Orderly w.text) → t.breakdown = none) ∧
    ∃ texts : List String, Cut (utf8 t.output) (texts.map utf8) ∧
      List.Forall₂ Snapshot.IsFrame t.snapshots (texts.filter fun text => ¬Refusal text) ∧
      ∀ input', (byteLines input').map textOf? =
          (lines.filter fun line => (Update.ofLine? line).isSome).map some →
        (run b initial input').snapshots = t.snapshots ∧
        (run b initial input').breakdown = t.breakdown ∧
        (run b initial input').output =
          String.join ((texts.filter fun text => ¬Refusal text).map (· ++ "\n")) := by
  intro t ws
  have hplain := @run_follows_plain b initial input lines hlines
  obtain ⟨hread, hfollows, hending⟩ := hplain
  have hnone (h : t.breakdown = none) : Follows b ws t.snapshots := by
    have hlength : t.snapshots.length = ws.length := by
      have := hending
      rwa [show (run b initial input).breakdown = none from h] at this
    rwa [List.take_of_length_le hlength.ge] at hfollows
  have hsome (e : Breakdown) (h : t.breakdown = some e) :
      ∃ w : Workspace, ws[t.snapshots.length]? = some w ∧ evaluate b w.inputs = .error e := by
    have := hending
    rwa [show (run b initial input).breakdown = some e from h] at this
  have hbreakdown : t.breakdown = none ↔ ∀ w ∈ ws, ∃ r, evaluate b w.inputs = .ok r := by
    refine ⟨fun h w hw => (hnone h).evaluates hw, fun hall => ?_⟩
    cases hbroken : t.breakdown with
    | none => rfl
    | some e =>
      obtain ⟨w, hw, he⟩ := hsome e hbroken
      obtain ⟨r, hr⟩ := hall w (List.mem_of_getElem? hw)
      cases hr.symm.trans he
  refine ⟨hread, hbreakdown, hnone, fun e he => ⟨hfollows, hsome e he⟩, ?_, ?_⟩
  · rintro forced rfl horderly
    exact hbreakdown.2 fun w hw =>
      Backend.evaluate_of_linear_or_orderly (horderly.imp_right fun h => h w hw)
  refine ⟨t.replies.map fun reply => reply.toJson.compact, t.cut_output, ?_, fun input' h' => ?_⟩
  · rw [filter_refusal]
    exact List.forall₂_map_right_iff.2 (List.forall₂_same.2 fun f _ => f.isFrame_compact)
  -- the account sees the updates of the lines only, and the lines left out have none
  obtain ⟨-, hrun'⟩ := run_eq_plain (b := b) (w := initial) h'
  have hkept : (lines.filter fun line => (Update.ofLine? line).isSome).filterMap Update.ofLine? =
      lines.filterMap Update.ofLine? := by
    rw [List.filterMap_filter]
    congr
    funext line
    cases Update.ofLine? line <;> rfl
  rw [hkept, ← (run_eq_plain (b := b) (w := initial) hlines).2] at hrun'
  obtain ⟨hsnapshots, hbroken⟩ := Prod.mk.inj hrun'
  refine ⟨hsnapshots, hbroken, ?_⟩
  have htexts : (t.snapshots.map Reply.snapshot).map (fun reply => reply.toJson.compact) =
      t.snapshots.map fun f => f.toJson.compact := List.map_map ..
  rw [filter_refusal, Transcript.output_eq, run_updates h', hsnapshots, htexts]
  rfl

theorem run_frames_accepted :
    ∃ t f g text text',
      t = run (.ofEngine none) { pattern := "a" }
        "  \n[]\n\x7b\"text\":\"ba\"\x7d\n".toUTF8.toList ∧
      t.breakdown = none ∧ t.snapshots = [f, g] ∧ f.IsFrame text ∧ g.IsFrame text' ∧
      f.recomputed = true ∧ f.generation = 1 ∧ f.result = .find [] ∧
      g.recomputed = true ∧ g.generation = 2 ∧ g.result = .find [⟨"a", 1, 2, []⟩] ∧
      (run (.ofEngine none) { pattern := "a" }
        "\x7b\"text\":\"ba\"\x7d\n".toUTF8.toList).output = text ++ "\n" ++ (text' ++ "\n") := by
  have hlines : (byteLines "  \n[]\n\x7b\"text\":\"ba\"\x7d\n".toUTF8.toList).map textOf? =
      ["  ", "[]", "\x7b\"text\":\"ba\"\x7d"].map some := by cbv
  have hline : (byteLines "\x7b\"text\":\"ba\"\x7d\n".toUTF8.toList).map textOf? =
      ["\x7b\"text\":\"ba\"\x7d"].map some := by cbv
  have hkept : ["  ", "[]", "\x7b\"text\":\"ba\"\x7d"].filter
      (fun line => (Update.ofLine? line).isSome) = ["\x7b\"text\":\"ba\"\x7d"] := rfl
  have hws : ({ pattern := "a" } : Workspace).history
      (["  ", "[]", "\x7b\"text\":\"ba\"\x7d"].filterMap Update.ofLine?) =
        [{ pattern := "a" }, { pattern := "a", text := "ba" }] := rfl
  have hfirst : evaluate (.ofEngine none) ({ pattern := "a" } : Workspace).inputs =
      .ok (.find []) := by cbv
  have hlast : evaluate (.ofEngine none) ({ pattern := "a", text := "ba" } : Workspace).inputs =
      .ok (.find [⟨"a", 1, 2, []⟩]) := by cbv
  obtain ⟨-, hbreakdown, hfollows, -, -, texts, -, htexts, houtput⟩ :=
    run_frames (.ofEngine none) { pattern := "a" } _ _ hlines
  rw [hws] at hbreakdown hfollows
  have hnone := hbreakdown.2 fun w hw => by
    obtain rfl | rfl : w = _ ∨ w = _ := by simpa using hw
    · exact ⟨_, hfirst⟩
    · exact ⟨_, hlast⟩
  have h := hfollows hnone
  obtain ⟨f, g, hfg⟩ := List.length_eq_two.1 h.length
  rw [hfg] at h htexts
  obtain ⟨-, -, houtput⟩ := houtput _ (hkept ▸ hline)
  generalize List.filter _ texts = frames at htexts houtput
  obtain ⟨⟩ | ⟨hf, ⟨⟩ | ⟨hg, ⟨⟩⟩⟩ := htexts
  obtain ⟨hre, hge⟩ := h.first f rfl
  have hshows : ∀ (k : Nat) (f' : Snapshot) (w : Workspace), [f, g][k]? = some f' →
      [{ pattern := "a" }, { pattern := "a", text := "ba" }][k]? = some w →
      evaluate (.ofEngine none) w.inputs = .ok f'.result :=
    fun k f' w hf' hw => (h.shows k f' w hf' hw).result
  have hre' : g.recomputed = true := by
    rw [← Bool.not_eq_false, h.recomputed 0 g _ _ rfl rfl rfl]
    decide
  have hge' := h.generation 1 g rfl
  rw [show [f, g].take (1 + 1) = [f, g] from rfl, List.countP_cons_of_pos hre,
    List.countP_cons_of_pos hre'] at hge'
  exact ⟨_, f, g, _, _, rfl, hnone, hfg, hf, hg, hre, hge,
    Except.ok.inj ((hshows 0 f _ rfl rfl).symm.trans hfirst), hre', hge',
    Except.ok.inj ((hshows 1 g _ rfl rfl).symm.trans hlast), houtput⟩

end Session

end RegexStudio
