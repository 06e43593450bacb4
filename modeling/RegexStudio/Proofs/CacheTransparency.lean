import Mathlib
import RegexStudio.Proofs.CacheRun

/-! A result cache cannot be told from an evaluation each time, as long as what is handed in under a
ticket was computed for the ticket's key. -/

namespace RegexStudio

variable {b : Backend} {us : List Use} {d d' : Desk}

/-- Every commit hands in a result that was computed, earlier in the run, for inputs with the key of
its ticket. -/
def Proper (us : List Use) : Prop :=
  ∀ before t e stored after, us = before ++ .commit t e stored :: after →
    ∃ s : Inputs, s.key = t.key ∧ .compute s e ∈ before

theorem Proper.of_append {vs : List Use} (h : Proper (us ++ vs)) : Proper us := by
  intro before t e stored after hus
  exact h before t e stored (after ++ vs) (by rw [hus, List.append_assoc, List.cons_append])

theorem proper_nil : Proper [] := by
  intro before t e stored after hus
  simp at hus

theorem Proper.snoc (h : Proper us) (u : Use)
    (hu : ∀ t e stored, u = .commit t e stored →
      ∃ s : Inputs, s.key = t.key ∧ .compute s e ∈ us) : Proper (us ++ [u]) := by
  intro before t e stored after hus
  rcases after.eq_nil_or_concat with rfl | ⟨after, v, rfl⟩
  · obtain ⟨rfl, hv⟩ := List.append_inj' hus rfl
    exact hu t e stored (List.singleton_inj.1 hv)
  · rw [List.concat_eq_append, ← List.cons_append, ← List.append_assoc] at hus
    exact h before t e stored after (List.append_inj' hus rfl).1

theorem Proper.snoc_other (h : Proper us) {u : Use} (hu : ∀ t e stored, u ≠ .commit t e stored) :
    Proper (us ++ [u]) :=
  h.snoc u fun t e stored hcommit => absurd hcommit (hu t e stored)

theorem Step.evaluate_of_compute {s : Inputs} {e : Evaluation} (h : Step b d (.compute s e) d') :
    evaluate b s = .ok e := by
  cases h with
  | compute h => exact (ResultCache.compute_eq_ok h).1

theorem Run.evaluate_of_compute {s : Inputs} {e : Evaluation} (h : Run b us d)
    (hmem : .compute s e ∈ us) : evaluate b s = .ok e := by
  obtain ⟨before, after, hus⟩ := List.append_of_mem hmem
  obtain ⟨_, _, _, step, _⟩ := h.split hus
  exact step.evaluate_of_compute

/-- One use keeps a cache sound, if a commit hands in the right result. -/
theorem Step.sound {u : Use} (h : Step b d u d') (hd : d.cache.Sound b)
    (hu : ∀ t e stored, u = .commit t e stored →
      ∃ s : Inputs, s.key = t.key ∧ evaluate b s = .ok e) : d'.cache.Sound b := by
  cases h with
  | get h => exact hd.get h
  | issue s => exact hd
  | compute h =>
    rw [(ResultCache.compute_eq_ok h).2]
    exact hd
  | @commit t e _ =>
    obtain ⟨s, hk, he⟩ := hu t e _ rfl
    rw [ResultCache.commit_eq]
    by_cases hg : t.generation = d.cache.generation
    · rw [if_pos hg]
      exact ResultCache.sound_ofTicket hk he
    · rw [if_neg hg]
      exact hd
  | clear => exact ResultCache.sound_clear _

theorem Run.sound (h : Run b us d) (hp : Proper us) : d.cache.Sound b := by
  induction h with
  | start => exact ResultCache.sound_empty
  | @snoc us d d' u h step ih =>
    -- the result handed in with a ticket was computed earlier in this very run
    refine step.sound (ih hp.of_append) fun t e stored hu => ?_
    obtain ⟨s, hk, hs⟩ := hp us t e stored [] (by rw [hu])
    exact ⟨s, hk, h.evaluate_of_compute hs⟩

/-- Whatever was done with a cache before, a look into it comes to what an evaluation of the inputs
comes to; what it holds is the result for all inputs with the stored key; and inputs that differ
only in the load error are served with one result. -/
theorem Run.lookup_eq_evaluate (h : Run b us d) (hp : Proper us) :
    (∀ s found, .get s found ∈ us → evaluate b s = .ok found.result) ∧
    (∀ s, (d.cache.get b s).map (·.1.result) = evaluate b s) ∧
    (d.cache.stored = none ∨ ∃ e, d.cache.entry = some e ∧ d.cache.stored = some e.result ∧
      ∀ s : Inputs, s.key = e.key → evaluate b s = .ok e.result) ∧
    (∀ s found c, d.cache.get b s = .ok (found, c) → ∀ loadError, ∃ events,
      c.get b { s with engineLoadError := loadError } =
        .ok (⟨found.result, false, found.generation, events⟩, c)) := by
  have hd := h.sound hp
  refine ⟨?_, hd.map_get, ?_, ?_⟩
  · intro s found hmem
    obtain ⟨before, after, hus⟩ := List.append_of_mem hmem
    obtain ⟨d₀, _, hbefore, step, _⟩ := h.split hus
    have hsound : d₀.cache.Sound b := hbefore.sound (Proper.of_append (hus ▸ hp))
    cases step with
    | get hget => exact hsound.get_result hget
  · cases he : d.cache.entry with
    | none => exact .inl (by rw [ResultCache.stored, he]; rfl)
    | some e => exact .inr ⟨e, rfl, by rw [ResultCache.stored, he]; rfl, hd e he⟩
  · intro s found c hget loadError
    have hit := ResultCache.hit_of_get hget
    exact ⟨_, ResultCache.get_of_hit ⟨hit.1, hit.2.trans (s.key_loadError loadError).symm⟩⟩

theorem lookup_eq_evaluate_late :
    let s : Inputs := { pattern := "a", subject := "ba" }
    let e : Evaluation := .find [⟨"a", 1, 2, []⟩]
    let us : List Use := [.compute s e, .issue s ⟨s.key, 1⟩, .clear, .commit ⟨s.key, 1⟩ e true,
      .get s ⟨e, false, 1, [.reused 1]⟩]
    ∃ d, Run (.ofEngine none) us d ∧ Proper us ∧ evaluate (.ofEngine none) s = .ok e := by
  intro s e us
  have hcompute : ({} : ResultCache).compute (.ofEngine none) s = .ok (e, ⟨none, 0, 1⟩) := by cbv
  have hticket : (⟨s.key, 1⟩ : Ticket) ∈ [⟨s.key, 1⟩] := List.mem_cons_self
  have run : Run (.ofEngine none) us ⟨⟨some ⟨s.key, e, 1⟩, 1, 1⟩, []⟩ :=
    ((((Run.start.snoc (.compute hcompute)).snoc (.issue _ s)).snoc (.clear _)).snoc
      (.commit e hticket)).snoc (.get rfl)
  have proper : Proper us :=
    ((((proper_nil.snoc_other (by simp)).snoc_other (by simp)).snoc_other (by simp)).snoc
      (.commit ⟨s.key, 1⟩ e true) fun t e' stored hu => by
        obtain ⟨rfl, rfl, rfl⟩ := Use.commit.inj hu
        exact ⟨s, rfl, List.mem_cons_self⟩).snoc_other (by simp)
  exact ⟨_, run, proper, (run.lookup_eq_evaluate proper).1 s _ (List.mem_of_getLast? rfl)⟩

end RegexStudio
