import Mathlib
import RegexStudio.Proofs.Except
import RegexStudio.Proofs.Members
import RegexStudio.Store
import RegexStudio.UpdateReader

/-! What a store holds after any number of operations: in each field the value that was given last.
Updates leave no other trace, so two of them are one, and everyone who listens is told of each. -/

namespace RegexStudio

open Json (ByKey insertAll lookup_insertAll)

inductive Store.Op (L : Type)
  | subscribe (listener : L)
  | dispatch (u : Update)
  | notify

namespace Store

variable {L : Type}

def Op.update? : Op L → Option Update
  | dispatch u => some u
  | _ => none

def Op.listener? : Op L → Option L
  | subscribe l => some l
  | _ => none

def perform (s : Store L) : Op L → List (L × Workspace) × Store L
  | .subscribe l => ([], s.subscribe l)
  | .dispatch u => s.dispatch u
  | .notify => (s.notify, s)

def after (s : Store L) (ops : List (Op L)) : Store L := ops.foldl (fun s op => (s.perform op).2) s

theorem after_snoc (s : Store L) (ops : List (Op L)) (op : Op L) :
    s.after (ops ++ [op]) = ((s.after ops).perform op).2 := List.foldl_concat _ _ _ _

theorem workspace_perform (s : Store L) (op : Op L) :
    (s.perform op).2.workspace = (op.update?.elim id Update.apply) s.workspace := by
  cases op <;> rfl

theorem listeners_perform (s : Store L) (op : Op L) :
    (s.perform op).2.listeners = s.listeners ++ op.listener?.toList := by
  cases op with
  | subscribe l => rfl
  | dispatch u | notify => exact (List.append_nil _).symm

theorem listeners_after (s : Store L) (ops : List (Op L)) :
    (s.after ops).listeners = s.listeners ++ ops.filterMap Op.listener? := by
  induction ops using List.reverseRecOn with
  | nil => exact (List.append_nil _).symm
  | append_singleton ops op ih =>
    rw [after_snoc, listeners_perform, ih, List.filterMap_append, List.append_assoc]
    cases op <;> rfl

end Store

def lastGiven {α : Type} (field : Update → Option α) (us : List Update) : Option α :=
  us.reverse.findSome? field

theorem lastGiven_snoc {α : Type} (field : Update → Option α) (us : List Update) (u : Update) :
    lastGiven field (us ++ [u]) = (field u).or (lastGiven field us) := by
  rw [lastGiven, List.reverse_append, List.reverse_singleton, List.singleton_append,
    List.findSome?_cons]
  cases field u <;> rfl

theorem getD_lastGiven_snoc {α : Type} (field : Update → Option α) (us : List Update) (u : Update)
    (initial : α) : (lastGiven field (us ++ [u])).getD initial =
      (field u).getD ((lastGiven field us).getD initial) := by
  rw [lastGiven_snoc]
  cases field u <;> rfl

namespace Update

def engine? (u : Update) : Option Bool := u.flags.bind (·.engine)

def engineError? (u : Update) : Option String := u.flags.bind (·.engineError)

def completed? (u : Update) : Option Bool := u.flags.bind (·.completed)

def regex? (u : Update) : Option String := u.versions.bind (·.regex)

def regexSyntax? (u : Update) : Option String := u.versions.bind (·.regexSyntax)

def extra? (key : String) (u : Update) : Option Json := u.extra.reverse.lookup key

end Update

def keptError (error : String) : Option String := if error.isEmpty then none else some error

/-- Each field holds what the updates said of it last, and what it held at first if they said
nothing. -/
structure Workspace.Registers (initial : Workspace) (us : List Update) (w : Workspace) : Prop where
  pattern : w.pattern = (lastGiven Update.pattern us).getD initial.pattern
  replacement : w.replacement = (lastGiven Update.replacement us).getD initial.replacement
  text : w.text = (lastGiven Update.text us).getD initial.text
  modeName : w.modeName = (lastGiven Update.modeName us).getD initial.modeName
  engine : w.flags.engine = (lastGiven Update.engine? us).getD initial.flags.engine
  engineError : w.flags.engineError =
    ((lastGiven Update.engineError? us).map keptError).getD initial.flags.engineError
  completed : w.flags.completed = (lastGiven Update.completed? us).getD initial.flags.completed
  regex : w.versions.regex = (lastGiven Update.regex? us).or initial.versions.regex
  regexSyntax :
    w.versions.regexSyntax = (lastGiven Update.regexSyntax? us).or initial.versions.regexSyntax
  extra (key : String) :
    w.extra.lookup key = (lastGiven (Update.extra? key) us).or (initial.extra.lookup key)

namespace Update

variable {w : Workspace}

theorem engine_apply (u : Update) (w : Workspace) :
    (u.apply w).flags.engine = u.engine?.getD w.flags.engine := by
  obtain ⟨_, _, _, _, _ | _, _, _⟩ := u <;> rfl

theorem engineError_apply (u : Update) (w : Workspace) :
    (u.apply w).flags.engineError = (u.engineError?.map keptError).getD w.flags.engineError := by
  obtain ⟨_, _, _, _, _ | ⟨_, _ | _, _⟩, _, _⟩ := u <;> rfl

theorem completed_apply (u : Update) (w : Workspace) :
    (u.apply w).flags.completed = u.completed?.getD w.flags.completed := by
  obtain ⟨_, _, _, _, _ | _, _, _⟩ := u <;> rfl

theorem regex_apply (u : Update) (w : Workspace) :
    (u.apply w).versions.regex = u.regex?.or w.versions.regex := by
  obtain ⟨_, _, _, _, _, _ | _, _⟩ := u <;> rfl

theorem regexSyntax_apply (u : Update) (w : Workspace) :
    (u.apply w).versions.regexSyntax = u.regexSyntax?.or w.versions.regexSyntax := by
  obtain ⟨_, _, _, _, _, _ | _, _⟩ := u <;> rfl

theorem lookup_apply (u : Update) (w : Workspace) (key : String) :
    (u.apply w).extra.lookup key = (u.extra? key).or (w.extra.lookup key) :=
  lookup_insertAll _ _ _

end Update

namespace Workspace.Registers

variable {initial w : Workspace} {us : List Update}

theorem start (initial : Workspace) : Registers initial [] initial :=
  ⟨rfl, rfl, rfl, rfl, rfl, rfl, rfl, rfl, rfl, fun _ => rfl⟩

theorem apply (h : Registers initial us w) (u : Update) :
    Registers initial (us ++ [u]) (u.apply w) where
  pattern := by rw [getD_lastGiven_snoc, ← h.pattern]; rfl
  replacement := by rw [getD_lastGiven_snoc, ← h.replacement]; rfl
  text := by rw [getD_lastGiven_snoc, ← h.text]; rfl
  modeName := by rw [getD_lastGiven_snoc, ← h.modeName]; rfl
  engine := by rw [getD_lastGiven_snoc, ← h.engine, Update.engine_apply]
  engineError := by
    rw [Update.engineError_apply, h.engineError, lastGiven_snoc]
    cases u.engineError? <;> rfl
  completed := by rw [getD_lastGiven_snoc, ← h.completed, Update.completed_apply]
  regex := by rw [lastGiven_snoc, Option.or_assoc, ← h.regex, Update.regex_apply]
  regexSyntax := by
    rw [lastGiven_snoc, Option.or_assoc, ← h.regexSyntax, Update.regexSyntax_apply]
  extra key := by rw [lastGiven_snoc, Option.or_assoc, ← h.extra, Update.lookup_apply]

end Workspace.Registers

theorem Store.registers_after {L : Type} (s : Store L) (ops : List (Op L)) :
    s.workspace.Registers (ops.filterMap Op.update?) (s.after ops).workspace := by
  induction ops using List.reverseRecOn with
  | nil => exact .start _
  | append_singleton ops op ih =>
    rw [after_snoc, workspace_perform, List.filterMap_append]
    cases op with
    | subscribe l | notify =>
      rw [show List.filterMap Op.update? [_] = [] from rfl, List.append_nil]
      exact ih
    | dispatch u => exact ih.apply u

namespace EngineFlagsUpdate

def merge (f g : EngineFlagsUpdate) : EngineFlagsUpdate where
  engine := g.engine.or f.engine
  engineError := g.engineError.or f.engineError
  completed := g.completed.or f.completed

theorem apply_merge (f g : EngineFlagsUpdate) (flags : EngineFlags) :
    (f.merge g).apply flags = g.apply (f.apply flags) := by
  obtain ⟨_ | _, _ | _, _ | _⟩ := g <;> rfl

end EngineFlagsUpdate

namespace Update

theorem applyVersions_assoc (u v w : Versions) :
    applyVersions (applyVersions v u) w = applyVersions v (applyVersions u w) := by
  simp only [applyVersions, Option.or_assoc]

def merge (p q : Update) : Update where
  pattern := q.pattern.or p.pattern
  replacement := q.replacement.or p.replacement
  text := q.text.or p.text
  modeName := q.modeName.or p.modeName
  flags := Option.merge EngineFlagsUpdate.merge p.flags q.flags
  versions := Option.merge (fun u v => applyVersions v u) p.versions q.versions
  extra := insertAll p.extra q.extra

theorem getD_or {α : Type} (a b : Option α) (c : α) : (a.or b).getD c = a.getD (b.getD c) := by
  cases a <;> rfl

theorem extra_merge {p q : Update} {w : Workspace} (hw : ByKey w.extra) (hp : ByKey p.extra) :
    insertAll w.extra (insertAll p.extra q.extra) =
      insertAll (insertAll w.extra p.extra) q.extra := by
  refine (hw.insertAll _).ext ((hw.insertAll _).insertAll _) fun key => ?_
  have hmerged := (hp.insertAll q.extra).lookup_reverse key
  simp only [lookup_insertAll, hmerged, hp.lookup_reverse, Option.or_assoc]

theorem apply_merge {p q : Update} {w : Workspace} (hw : ByKey w.extra) (hp : ByKey p.extra) :
    (p.merge q).apply w = q.apply (p.apply w) := by
  have hextra : ((p.merge q).apply w).extra = (q.apply (p.apply w)).extra := extra_merge hw hp
  have hflags : ((p.merge q).apply w).flags = (q.apply (p.apply w)).flags := by
    simp only [apply, merge]
    cases p.flags <;> cases q.flags <;>
      simp [Option.merge, EngineFlagsUpdate.apply_merge]
  have hversions : ((p.merge q).apply w).versions = (q.apply (p.apply w)).versions := by
    simp only [apply, merge]
    cases p.versions <;> cases q.versions <;>
      simp [Option.merge, applyVersions_assoc]
  simp only [apply, Workspace.mk.injEq] at hextra hflags hversions ⊢
  refine ⟨?_, ?_, ?_, ?_, hflags, hversions, hextra⟩
  all_goals exact getD_or _ _ _

theorem merge_self {p : Update} (hp : ByKey p.extra) : p.merge p = p := by
  have hextra : insertAll p.extra p.extra = p.extra := by
    refine (hp.insertAll _).ext hp fun key => ?_
    rw [lookup_insertAll, hp.lookup_reverse, Option.or_self]
  obtain ⟨pattern, replacement, text, modeName, flags, versions, extra⟩ := p
  simp only [merge, Option.or_self, hextra, mk.injEq, true_and, and_true]
  refine ⟨?_, ?_⟩
  · cases flags <;> simp [Option.merge, EngineFlagsUpdate.merge]
  · cases versions <;> simp [Option.merge, applyVersions]

theorem apply_apply {p : Update} {w : Workspace} (hw : ByKey w.extra) (hp : ByKey p.extra) :
    p.apply (p.apply w) = p.apply w := by
  rw [← apply_merge hw hp, merge_self hp]

end Update

namespace UpdateReader

variable {σ : Type} {P : σ → Prop}
  {field : String → σ → Json.Cursor → Except Trouble (σ × Json.Cursor)}
  {s s' : σ} {c c' : Json.Cursor}

theorem members_keep
    (hfield : ∀ {key s c s' c'}, field key s c = .ok (s', c') → P s → P s')
    {fuel : Nat} {first : Bool} (h : members field fuel first s c = .ok (s', c')) (hs : P s) :
    P s' := by
  induction fuel generalizing first s c with
  | zero =>
    cases h
    exact hs
  | succ fuel ih =>
    obtain ⟨next, -, h⟩ := bind_eq_ok.1 h
    cases next with
    | none =>
      cases h
      exact hs
    | some next =>
      obtain ⟨⟨s₁, c₁⟩, hstep, h⟩ := bind_eq_ok.1 h
      exact ih h (hfield hstep hs)

theorem object_keeps
    (hfield : ∀ {key s c s' c'}, field key s c = .ok (s', c') → P s → P s')
    (h : object field s c = .ok (s', c')) (hs : P s) : P s' := by
  unfold object at h
  split at h
  · cases h
  · cases h
  · rename_i hmembers
    obtain ⟨_, -, h⟩ := map_eq_ok.1 h
    cases h
    exact members_keep hfield hmembers hs

theorem field_byKey {key : String} {f f' : Fields} (h : UpdateReader.field key f c = .ok (f', c'))
    (hf : ByKey f.extra) : ByKey f'.extra := by
  unfold UpdateReader.field at h
  split at h
  iterate 6
    obtain ⟨⟨_, _⟩, -, h⟩ := bind_eq_ok.1 h
    cases h
    exact hf
  obtain ⟨_, -, h⟩ := bind_eq_ok.1 h
  obtain ⟨⟨value, _⟩, -, h⟩ := bind_eq_ok.1 h
  cases h
  exact hf.insertMember key value

end UpdateReader

theorem Update.parse_byKey {line : String} {u : Update} (h : Update.parse line = .ok u) :
    ByKey u.extra := by
  unfold Update.parse at h
  dsimp only at h
  split at h
  · cases h
  · obtain ⟨⟨f, c⟩, hobject, h⟩ := bind_eq_ok.1 h
    obtain ⟨_, -, h⟩ := bind_eq_ok.1 h
    cases h
    have hstart : ByKey ({} : UpdateReader.Fields).extra := List.Pairwise.nil
    exact UpdateReader.object_keeps (P := fun f : UpdateReader.Fields => ByKey f.extra)
      UpdateReader.field_byKey hobject hstart
  · obtain ⟨_, -, h⟩ := bind_eq_ok.1 h
    cases h

namespace Store

variable {L : Type}

theorem byKey_after {s : Store L} (h : ByKey s.workspace.extra) (ops : List (Op L)) :
    ByKey (s.after ops).workspace.extra := by
  induction ops using List.reverseRecOn with
  | nil => exact h
  | append_singleton ops op ih =>
    rw [after_snoc, workspace_perform]
    cases op with
    | subscribe l | notify => exact ih
    | dispatch u => exact ih.insertAll u.extra

/-- After any operations a store holds in each field the value that was dispatched last. The next
operation loses no key, and unless it only adds a listener it tells everyone who came before, once
each and in the order in which they came, of the workspace that it leaves. Two updates come to the
same as their merge, and an update given twice to the same as once. -/
theorem after_registers {initial : Workspace} (hinitial : ByKey initial.extra)
    (ops : List (Op L)) :
    let s := (Store.mk initial []).after ops
    initial.Registers (ops.filterMap Op.update?) s.workspace ∧
    (∀ op, (s.perform op).1 =
      if op.listener?.isSome then []
      else (ops.filterMap Op.listener?).map fun l => (l, (s.perform op).2.workspace)) ∧
    (∀ op key, (s.workspace.extra.lookup key).isSome →
      ((s.perform op).2.workspace.extra.lookup key).isSome) ∧
    ∀ p : Update, ByKey p.extra →
      (∀ q : Update, q.apply (p.apply s.workspace) = (p.merge q).apply s.workspace) ∧
      p.apply (p.apply s.workspace) = p.apply s.workspace := by
  intro s
  have hkeys : ByKey s.workspace.extra := byKey_after hinitial ops
  have hlisteners : s.listeners = ops.filterMap Op.listener? := listeners_after _ _
  refine ⟨registers_after (Store.mk initial []) ops, fun op => ?_, fun op key hkey => ?_,
    fun p hp => ⟨fun q => (Update.apply_merge hkeys hp).symm, Update.apply_apply hkeys hp⟩⟩
  · rw [← hlisteners]
    cases op <;> rfl
  · rw [workspace_perform]
    cases op with
    | subscribe l | notify => exact hkey
    | dispatch u =>
      change ((u.apply s.workspace).extra.lookup key).isSome
      rw [Update.lookup_apply, Option.isSome_or, hkey, Bool.or_true]

theorem after_registers_cleared :
    let ops : List (Op String) :=
      [.subscribe "early",
        .dispatch
          { pattern := some "a+", flags := some { engineError := some "not found" },
            extra := [("scroll", .integer 40)] },
        .subscribe "late",
        .dispatch { flags := some { engineError := some "" }, extra := [("theme", .null)] }]
    let s := (Store.mk {} []).after ops
    ∃ p, Update.parse "\x7b\"subject\": \"baaab\", \"scroll\": null\x7d" = .ok p ∧
      ByKey ({} : Workspace).extra ∧ ByKey p.extra ∧
      s.workspace.pattern = "a+" ∧ s.workspace.flags.engineError = none ∧
      s.workspace.extra.lookup "scroll" = some (.integer 40) ∧
      s.workspace.extra.lookup "theme" = some .null ∧
      (s.perform (.dispatch p)).1 =
        [("early", p.apply s.workspace), ("late", p.apply s.workspace)] ∧
      p.apply (p.apply s.workspace) = p.apply s.workspace := by
  intro ops s
  have hinitial : ByKey ({} : Workspace).extra := List.Pairwise.nil
  have hparse : Update.parse "\x7b\"subject\": \"baaab\", \"scroll\": null\x7d" =
      .ok { text := some "baaab", extra := [("scroll", .null)] } := by cbv
  have hp := Update.parse_byKey hparse
  obtain ⟨hfields, htold, -, hupdates⟩ := after_registers hinitial ops
  exact ⟨_, hparse, hinitial, hp, hfields.pattern, hfields.engineError, hfields.extra "scroll",
    hfields.extra "theme", htold (.dispatch _), (hupdates _ hp).2⟩

end Store

end RegexStudio
