import Mathlib
import RegexStudio.Proofs.ResultCache
import RegexStudio.Session

/-! A session against a plain account of it: the workspaces that the updates lead through, each of
them evaluated anew. The cache shows only in the counts that go with the snapshots. -/

namespace RegexStudio

variable {b : Backend}

def Update.ofLine? (line : String) : Option Update :=
  if (Text.trim line.toList).isEmpty then none else (Update.parse line).toOption

theorem Update.ofLine?_eq_some {line : String} {u : Update} : Update.ofLine? line = some u ↔
    ¬(Text.trim line.toList).isEmpty = true ∧ Update.parse line = .ok u := by
  unfold Update.ofLine?
  split
  · simp_all
  · cases Update.parse line <;> simp_all [Except.toOption]

def Workspace.history (initial : Workspace) (updates : List Update) : List Workspace :=
  updates.scanl (fun w u => u.apply w) initial

def Reply.snapshot? : Reply → Option Snapshot
  | .snapshot f => some f
  | .refused _ => none

def Transcript.snapshots (t : Transcript) : List Snapshot := t.replies.filterMap Reply.snapshot?

structure Snapshot.Shows (b : Backend) (w : Workspace) (f : Snapshot) : Prop where
  mode : f.mode = w.modeName
  engine : f.engine = w.availability
  docs : f.docs = w.versions.manualLinks
  result : evaluate b w.inputs = .ok f.result

def Workspace.snapshot (w : Workspace) (generation : Nat) (recomputed : Bool) (r : Evaluation) :
    Snapshot where
  generation := generation
  recomputed := recomputed
  mode := w.modeName
  engine := w.availability
  docs := w.versions.manualLinks
  result := r

/-- What updates add to the snapshots after one of the workspace `w` and generation `g`, and the
breakdown that ends them, if there is one. -/
def plain (b : Backend) (w : Workspace) (g : Nat) : List Update → List Snapshot × Option Breakdown
  | [] => ([], none)
  | u :: us =>
    let next := u.apply w
    match evaluate b next.inputs with
    | .error e => ([], some e)
    | .ok r =>
      let fresh := decide (next.inputs.key ≠ w.inputs.key)
      let g := g + fresh.toNat
      let (more, breakdown) := plain b next g us
      (next.snapshot g fresh r :: more, breakdown)

structure ResultCache.Holds (b : Backend) (c : ResultCache) (w : Workspace) (g : Nat) : Prop where
  sound : c.Sound b
  hit : ∃ r, c.Hit w.inputs ⟨w.inputs.key, r, g⟩
  generation : c.generation = g

namespace ResultCache

variable {c : ResultCache} {w w' : Workspace} {g : Nat} {r : Evaluation}

theorem Holds.get (h : c.Holds b w g) (hr : evaluate b w'.inputs = .ok r) :
    ∃ events c',
      c.get b w'.inputs = .ok (⟨r, decide (w'.inputs.key ≠ w.inputs.key),
        g + (decide (w'.inputs.key ≠ w.inputs.key)).toNat, events⟩, c') ∧
      c'.Holds b w' (g + (decide (w'.inputs.key ≠ w.inputs.key)).toNat) := by
  obtain ⟨hsound, ⟨r₀, hentry, -⟩, rfl⟩ := h
  have hres := hsound.map_get w'.inputs
  rw [hr] at hres
  cases hget : c.get b w'.inputs with
  | error e => rw [hget] at hres; cases hres
  | ok x =>
    obtain ⟨⟨r', recomputed, generation, events⟩, c'⟩ := x
    rw [hget] at hres
    obtain rfl : r' = r := by injection hres
    rcases get_cases hget with ⟨e, he, -, hre, hge, rfl⟩ | ⟨hmiss, -, hre, hge, rfl⟩
    -- the one entry is that of `w`, so a hit is a key that stayed
    · obtain rfl := Option.some.inj (hentry.symm.trans he.1)
      have hkey : decide (w'.inputs.key ≠ w.inputs.key) = false :=
        decide_eq_false (not_not_intro he.2.symm)
      dsimp only at hre hge
      subst hre hge
      rw [hkey]
      exact ⟨events, _, rfl, hsound, ⟨_, hit_of_get hget⟩, rfl⟩
    · have hkey : decide (w'.inputs.key ≠ w.inputs.key) = true :=
        decide_eq_true fun hk => hmiss _ ⟨hentry, hk.symm⟩
      dsimp only at hre hge
      subst hre hge
      rw [hkey]
      exact ⟨events, _, rfl, sound_renewed hr, ⟨_, hit_of_get hget⟩, rfl⟩

theorem get_error {e : Breakdown} (hc : c.Sound b) (he : evaluate b w.inputs = .error e) :
    c.get b w.inputs = .error e := by
  have h := hc.map_get w.inputs
  rw [he] at h
  cases hget : c.get b w.inputs with
  | error _ => rw [hget] at h; injection h with h; rw [h]
  | ok _ => rw [hget] at h; cases h

end ResultCache

namespace Session

variable {s : Session} {w : Workspace} {g : Nat}

/-- A session that has shown the workspace `w` last, under generation `g`. -/
structure Shown (b : Backend) (s : Session) (w : Workspace) (g : Nat) : Prop where
  workspace : s.store.workspace = w
  listeners : s.store.listeners = [()]
  cache : s.cache.Holds b w g

theorem snapshots_error {e : Breakdown} {c : ResultCache} (hc : c.Sound b)
    (he : evaluate b w.inputs = .error e) : snapshots b [((), w)] c = .error e := by
  simp only [snapshots, ResultCache.get_error hc he]
  rfl

theorem snapshots_ok {c c' : ResultCache} {found : Lookup}
    (h : c.get b w.inputs = .ok (found, c')) :
    ∃ events, snapshots b [((), w)] c = .ok
      ({ replies := [.snapshot (w.snapshot found.generation found.recomputed found.result)],
         events }, c') := by
  simp only [snapshots, h]
  exact ⟨_, rfl⟩

theorem Shown.feed_none (h : s.Shown b w g) {line : String} (hl : Update.ofLine? line = none) :
    ∃ answer s', s.feed b line = .ok (answer, s') ∧
      answer.replies.filterMap Reply.snapshot? = [] ∧ s'.Shown b w g := by
  unfold Update.ofLine? at hl
  unfold feed
  split
  · exact ⟨_, _, rfl, rfl, h⟩
  · rename_i hblank
    rw [if_neg hblank] at hl
    cases hp : Update.parse line with
    | error fault => exact ⟨_, _, rfl, rfl, h.workspace, h.listeners, h.cache⟩
    | ok u => rw [hp] at hl; cases hl

theorem Shown.feed_some (h : s.Shown b w g) {line : String} {u : Update}
    (hl : Update.ofLine? line = some u) :
    (∀ e, evaluate b (u.apply w).inputs = .error e → s.feed b line = .error e) ∧
    (∀ r, evaluate b (u.apply w).inputs = .ok r →
      let fresh := decide ((u.apply w).inputs.key ≠ w.inputs.key)
      ∃ answer s', s.feed b line = .ok (answer, s') ∧
        answer.replies = [.snapshot ((u.apply w).snapshot (g + fresh.toNat) fresh r)] ∧
        s'.Shown b (u.apply w) (g + fresh.toNat)) := by
  obtain ⟨hblank, hp⟩ := Update.ofLine?_eq_some.1 hl
  have htold : (s.store.dispatch u).1 = [((), u.apply w)] := by
    simp only [Store.dispatch, Store.notify, h.listeners, h.workspace, List.map_cons, List.map_nil]
  unfold feed
  rw [if_neg hblank, hp]
  dsimp only
  rw [htold]
  refine ⟨fun e he => ?_, fun r hr => ?_⟩
  · rw [snapshots_error h.cache.sound he]
    rfl
  · obtain ⟨events, c', hget, hc'⟩ := h.cache.get hr
    obtain ⟨events', hsnap⟩ := snapshots_ok hget
    rw [hsnap]
    refine ⟨_, _, rfl, rfl, ?_, h.listeners, hc'⟩
    rw [← h.workspace]
    rfl

theorem snapshots_after (answer : Answer) (t : Transcript) :
    (t.after answer).snapshots = answer.replies.filterMap Reply.snapshot? ++ t.snapshots :=
  List.filterMap_append

theorem Shown.feedAll (h : s.Shown b w g) {input : List (List UInt8)} {lines : List String}
    (hlines : input.map textOf? = lines.map some) :
    (s.feedAll b input).unreadable = false ∧
      ((s.feedAll b input).snapshots, (s.feedAll b input).breakdown) =
        plain b w g (lines.filterMap Update.ofLine?) := by
  -- one line at a time, with the workspace and the generation shown last as the invariant
  induction input generalizing lines s w g with
  | nil =>
    obtain rfl : lines = [] := by simpa using hlines.symm
    exact ⟨rfl, rfl⟩
  | cons bytes input ih =>
    rcases lines with _ | ⟨line, lines⟩
    · cases hlines
    rw [List.map_cons, List.map_cons, List.cons.injEq] at hlines
    obtain ⟨hline, hlines⟩ := hlines
    simp only [Session.feedAll, hline]
    cases hl : Update.ofLine? line with
    | none =>
      obtain ⟨answer, s', hfeed, hnone, hs'⟩ := h.feed_none hl
      rw [hfeed, List.filterMap_cons_none hl]
      have hrest := ih hs' hlines
      exact ⟨hrest.1, by rw [snapshots_after, hnone]; exact hrest.2⟩
    | some u =>
      obtain ⟨hbroken, hok⟩ := h.feed_some hl
      rw [List.filterMap_cons_some hl]
      cases he : evaluate b (u.apply w).inputs with
      | error e =>
        rw [hbroken e he]
        exact ⟨rfl, by simp only [plain, he]; rfl⟩
      | ok r =>
        obtain ⟨answer, s', hfeed, hsome, hs'⟩ := hok r he
        rw [hfeed]
        have hrest := ih hs' hlines
        refine ⟨hrest.1, ?_⟩
        rw [snapshots_after, hsome]
        simp only [plain, he, ← hrest.2]
        rfl

theorem start_eq (b : Backend) (w : Workspace) :
    start b w = (snapshots b [((), w)] {}).map fun (answer, cache) =>
      ({ answer with events := .sessionStarted :: answer.events },
        { store := { workspace := w, listeners := [()] }, cache, lines := 0 }) := by
  unfold start
  change (snapshots b [((), w)] {} >>= _) = _
  cases snapshots b [((), w)] {} <;> rfl

theorem start_error {e : Breakdown} (he : evaluate b w.inputs = .error e) :
    start b w = .error e := by
  have h : snapshots b [((), w)] {} = .error e := snapshots_error ResultCache.sound_empty he
  rw [start_eq, h]
  rfl

theorem start_ok {r : Evaluation} (hr : evaluate b w.inputs = .ok r) :
    ∃ answer s, start b w = .ok (answer, s) ∧
      answer.replies = [.snapshot (w.snapshot 1 true r)] ∧ s.Shown b w 1 := by
  have hres := ResultCache.sound_empty.map_get (b := b) w.inputs
  rw [hr] at hres
  cases hget : ({} : ResultCache).get b w.inputs with
  | error e => rw [hget] at hres; cases hres
  | ok x =>
    obtain ⟨found, c⟩ := x
    rw [hget] at hres
    obtain rfl : found.result = r := by injection hres
    obtain ⟨events, hsnap⟩ := snapshots_ok hget
    rcases ResultCache.get_cases hget with ⟨e, he, -⟩ | ⟨-, -, hre, hge, rfl⟩
    · cases he.1
    rw [start_eq, hsnap]
    refine ⟨_, _, rfl, ?_, rfl, rfl, ResultCache.sound_renewed hr, ⟨_, rfl, rfl⟩, rfl⟩
    rw [hre, hge]

end Session

theorem Workspace.history_cons (w : Workspace) (u : Update) (us : List Update) :
    w.history (u :: us) = w :: (u.apply w).history us := List.scanl_cons

theorem Workspace.history_zero (w : Workspace) (us : List Update) :
    (w.history us)[0]? = some w := by
  cases us with
  | nil => rfl
  | cons u us => rw [history_cons]; rfl

theorem plain_shows {w : Workspace} {g k : Nat} {us : List Update} {f : Snapshot}
    (h : (plain b w g us).1[k]? = some f) :
    ∃ v w' : Workspace, (w.history us)[k]? = some v ∧ (w.history us)[k + 1]? = some w' ∧
      f.Shows b w' ∧ f.recomputed = decide (w'.inputs.key ≠ v.inputs.key) ∧
      f.generation = g + ((plain b w g us).1.take (k + 1)).countP (·.recomputed) := by
  induction us generalizing w g k with
  | nil => cases h
  | cons u us ih =>
    rw [Workspace.history_cons]
    cases he : evaluate b (u.apply w).inputs with
    | error e => simp only [plain, he] at h; cases h
    | ok r =>
      simp only [plain, he] at h ⊢
      cases k with
      | zero =>
        obtain rfl := Option.some.inj h
        refine ⟨w, u.apply w, rfl, Workspace.history_zero _ _, ⟨rfl, rfl, rfl, he⟩, rfl, ?_⟩
        cases hk : decide ((u.apply w).inputs.key ≠ w.inputs.key) <;>
          simp [Workspace.snapshot]
      | succ k =>
        obtain ⟨v, w', hv, hw', hshows, hre, hge⟩ := ih h
        refine ⟨v, w', hv, hw', hshows, hre, ?_⟩
        rw [hge, List.take_succ_cons, List.countP_cons]
        cases hk : decide ((u.apply w).inputs.key ≠ w.inputs.key) <;>
          simp [Workspace.snapshot, Nat.add_assoc, Nat.add_comm]

theorem plain_ending (b : Backend) (w : Workspace) (g : Nat) (us : List Update) :
    match (plain b w g us).2 with
    | none => (plain b w g us).1.length = us.length
    | some e => ∃ w' : Workspace, (w.history us)[(plain b w g us).1.length + 1]? = some w' ∧
        evaluate b w'.inputs = .error e := by
  induction us generalizing w g with
  | nil => rfl
  | cons u us ih =>
    rw [Workspace.history_cons]
    cases he : evaluate b (u.apply w).inputs with
    | error e =>
      simp only [plain, he]
      exact ⟨u.apply w, Workspace.history_zero _ _, he⟩
    | ok r =>
      simp only [plain, he]
      have := ih (u.apply w) (g + (decide ((u.apply w).inputs.key ≠ w.inputs.key)).toNat)
      revert this
      cases (plain b (u.apply w)
        (g + (decide ((u.apply w).inputs.key ≠ w.inputs.key)).toNat) us).2 with
      | none => exact congrArg (· + 1)
      | some e => exact id

namespace Session

theorem run_eq_plain {input : List UInt8} {lines : List String}
    (hlines : (byteLines input).map textOf? = lines.map some) :
    (run b w input).unreadable = false ∧
      ((run b w input).snapshots, (run b w input).breakdown) =
        match evaluate b w.inputs with
        | .error e => ([], some e)
        | .ok r =>
          let (more, breakdown) := plain b w 1 (lines.filterMap Update.ofLine?)
          (w.snapshot 1 true r :: more, breakdown) := by
  unfold run
  cases he : evaluate b w.inputs with
  | error e =>
    rw [start_error he]
    exact ⟨rfl, rfl⟩
  | ok r =>
    obtain ⟨answer, s, hstart, hfirst, hs⟩ := start_ok he
    rw [hstart]
    obtain ⟨hread, hrest⟩ := hs.feedAll hlines
    refine ⟨hread, ?_⟩
    rw [snapshots_after, hfirst, ← hrest]
    rfl

end Session

end RegexStudio
