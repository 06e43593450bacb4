import Mathlib.Data.List.Basic
import RegexStudio.ResultCache

/-! What one use of a result cache does. The key of the inputs holds all that an evaluation reads,
and a look into the cache either finds the entry for that key or renews it. -/

namespace RegexStudio

variable {b : Backend}

theorem Pass.run_congr {s t : Inputs} (h : s.key = t.key) : Pass.run b s = Pass.run b t := by
  obtain ⟨pattern, replacement, subject, mode, available, _⟩ := s
  obtain ⟨pattern', replacement', subject', mode', available', _⟩ := t
  simp only [Inputs.key, ResultKey.mk.injEq] at h
  obtain ⟨rfl, rfl, rfl, rfl, rfl⟩ := h
  rfl

theorem evaluate_congr {s t : Inputs} (h : s.key = t.key) : evaluate b s = evaluate b t := by
  rw [evaluate, evaluate, Pass.run_congr h]

theorem Inputs.key_loadError (s : Inputs) (e : Option String) :
    { s with engineLoadError := e }.key = s.key := rfl

namespace ResultCache

variable {c c' : ResultCache} {s : Inputs} {found : Lookup}

def Hit (c : ResultCache) (s : Inputs) (e : Entry) : Prop := c.entry = some e ∧ e.key = s.key

def renewed (c : ResultCache) (s : Inputs) (e : Evaluation) : ResultCache where
  entry := some ⟨s.key, e, c.generation + 1⟩
  generation := c.generation + 1
  computed := c.computed + 1

theorem get_of_hit {e : Entry} (h : c.Hit s e) :
    c.get b s = .ok (⟨e.result, false, e.generation, [.reused e.generation]⟩, c) := by
  simp only [get, h.1, h.2, if_true]

theorem get_of_miss (h : ∀ e, ¬c.Hit s e) : c.get b s = c.renew b s := by
  unfold get
  split
  · rename_i e he
    rw [if_neg fun hk => h e ⟨he, hk⟩]
  · rfl

theorem map_renew (c : ResultCache) (b : Backend) (s : Inputs) :
    (c.renew b s).map (fun r => (r.1.result, r.1.recomputed, r.1.generation, r.2)) =
      (evaluate b s).map (fun e => (e, true, c.generation + 1, c.renewed s e)) := by
  unfold renew evaluate
  cases Pass.run b s <;> rfl

/-- A look that comes to a result has found the entry for the key or computed it anew. -/
theorem get_cases (h : c.get b s = .ok (found, c')) :
    (∃ e, c.Hit s e ∧ found.result = e.result ∧ found.recomputed = false ∧
      found.generation = e.generation ∧ c' = c) ∨
    ((∀ e, ¬c.Hit s e) ∧ evaluate b s = .ok found.result ∧ found.recomputed = true ∧
      found.generation = c.generation + 1 ∧ c' = c.renewed s found.result) := by
  by_cases hit : ∃ e, c.Hit s e
  · obtain ⟨e, he⟩ := hit
    rw [get_of_hit he, Except.ok.injEq, Prod.mk.injEq] at h
    obtain ⟨rfl, rfl⟩ := h
    exact .inl ⟨e, he, rfl, rfl, rfl, rfl⟩
  · have miss : ∀ e, ¬c.Hit s e := fun e he => hit ⟨e, he⟩
    have hm := map_renew c b s
    rw [← get_of_miss miss, h] at hm
    cases he : evaluate b s with
    | error _ => rw [he] at hm; cases hm
    | ok r =>
      rw [he] at hm
      simp only [Except.map, Except.ok.injEq, Prod.mk.injEq] at hm
      obtain ⟨rfl, hre, hg, hc⟩ := hm
      exact .inr ⟨miss, rfl, hre, hg, hc⟩

theorem compute_eq_ok {e : Evaluation} (h : c.compute b s = .ok (e, c')) :
    evaluate b s = .ok e ∧ c' = { c with computed := c.computed + 1 } := by
  unfold compute at h
  cases he : evaluate b s with
  | error _ => rw [he] at h; cases h
  | ok r =>
    rw [he] at h
    cases h
    exact ⟨rfl, rfl⟩

theorem commit_eq (c : ResultCache) (t : Ticket) (e : Evaluation) :
    c.commit t e = (decide (t.generation = c.generation),
      if t.generation = c.generation then { c with entry := some (.ofTicket t e) } else c) := by
  unfold commit
  by_cases h : t.generation = c.generation
  · rw [if_pos h, if_pos h, decide_eq_true h]
  · rw [if_neg h, if_neg h, decide_eq_false h]

/-- A result that is stored is the one that all inputs with its key evaluate to. -/
def Sound (b : Backend) (c : ResultCache) : Prop :=
  ∀ e, c.entry = some e → ∀ s : Inputs, s.key = e.key → evaluate b s = .ok e.result

theorem sound_empty : Sound b {} := fun _ h => nomatch h

theorem sound_clear (c : ResultCache) : c.clear.Sound b := fun _ h => nomatch h

theorem sound_renewed {e : Evaluation} (h : evaluate b s = .ok e) : (c.renewed s e).Sound b := by
  intro _ he t ht
  obtain rfl := Option.some.inj he
  rw [evaluate_congr ht, h]

theorem sound_ofTicket {t : Ticket} {e : Evaluation} {n m : Nat} (hk : s.key = t.key)
    (h : evaluate b s = .ok e) : Sound b ⟨some (.ofTicket t e), n, m⟩ := by
  intro _ he r hr
  obtain rfl := Option.some.inj he
  rw [evaluate_congr (hr.trans hk.symm), h]
  rfl

theorem Sound.map_get (hc : c.Sound b) (s : Inputs) :
    (c.get b s).map (·.1.result) = evaluate b s := by
  by_cases hit : ∃ e, c.Hit s e
  · obtain ⟨e, he⟩ := hit
    rw [get_of_hit he, hc e he.1 s he.2.symm]
    rfl
  · rw [get_of_miss fun e he => hit ⟨e, he⟩]
    have hm := congrArg (Except.map (·.1)) (map_renew c b s)
    revert hm
    cases c.renew b s <;> cases evaluate b s <;> simp [Except.map]

theorem Sound.get_result (hc : c.Sound b) (h : c.get b s = .ok (found, c')) :
    evaluate b s = .ok found.result := by
  rw [← hc.map_get s, h]
  rfl

theorem Sound.get (hc : c.Sound b) (h : c.get b s = .ok (found, c')) : c'.Sound b := by
  rcases get_cases h with ⟨_, _, _, _, _, rfl⟩ | ⟨_, he, _, _, rfl⟩
  · exact hc
  · exact sound_renewed he

theorem hit_of_get (h : c.get b s = .ok (found, c')) :
    c'.Hit s ⟨s.key, found.result, found.generation⟩ := by
  rcases get_cases h with ⟨e, he, hr, _, hg, rfl⟩ | ⟨_, _, _, hg, rfl⟩
  · rw [hr, hg, ← he.2]
    exact ⟨he.1, he.2⟩
  · rw [hg]
    exact ⟨rfl, rfl⟩

end ResultCache

end RegexStudio
