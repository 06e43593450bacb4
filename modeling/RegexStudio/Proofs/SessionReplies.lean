import RegexStudio.Proofs.Session

/-! One line of a session: what it is answered with, and what is left of the snapshot before it. -/

namespace RegexStudio.Session

variable {b : Backend} {s s' : Session} {w initial : Workspace} {g : Nat} {line : String}
  {f : Snapshot} {answer : Answer} {u : Update}

def Blank (line : String) : Prop := ∀ c ∈ line.toList, Text.isBlank c = true

instance : DecidablePred Blank := fun line => List.decidableBAll _ line.toList

theorem blank_iff : Blank line ↔ (Text.trim line.toList).isEmpty = true := by
  unfold Blank Text.trim
  rw [List.isEmpty_iff, List.reverse_eq_nil_iff, List.dropWhile_eq_nil_iff]
  constructor
  · intro h c hc
    exact h c ((List.dropWhile_sublist _).subset (List.mem_reverse.1 hc))
  · intro h
    -- what the first step leaves would begin with no blank
    have hnil : line.toList.dropWhile Text.isBlank = [] := by
      by_contra hne
      have hblank := h _ (List.mem_reverse.2 (List.head_mem hne))
      exact Bool.false_ne_true ((List.head_dropWhile_not Text.isBlank hne).symm.trans hblank)
    exact List.dropWhile_eq_nil_iff.1 hnil

theorem feed_blank (h : Blank line) : s.feed b line = .ok ({}, s) := by
  rw [feed, if_pos (blank_iff.1 h)]

theorem feed_refused {fault : Json.Fault} (h : ¬Blank line)
    (hp : Update.parse line = .error fault) :
    s.feed b line = .ok ({ replies := [.refused fault], events := [.lineRejected fault.display] },
      { s with lines := s.lines + 1 }) := by
  rw [feed, if_neg fun he => h (blank_iff.2 he), hp]

theorem Shown.feed_update (h : s.Shown b w g) (hblank : ¬Blank line)
    (hp : Update.parse line = .ok u) :
    (∀ e, evaluate b (u.apply w).inputs = .error e → s.feed b line = .error e) ∧
    (∀ r, evaluate b (u.apply w).inputs = .ok r →
      let fresh := decide ((u.apply w).inputs.key ≠ w.inputs.key)
      ∃ answer s', s.feed b line = .ok (answer, s') ∧
        answer.replies = [.snapshot ((u.apply w).snapshot (g + fresh.toNat) fresh r)] ∧
        s'.Shown b (u.apply w) (g + fresh.toNat)) := by
  refine h.feed_some ?_
  rw [Update.ofLine?, if_neg fun he => hblank (blank_iff.2 he), hp]
  rfl

theorem Shown.feed_cases (h : s.Shown b w g) (hfeed : s.feed b line = .ok (answer, s')) :
    ((∀ f, .snapshot f ∉ answer.replies) ∧ s'.Shown b w g) ∨
      ∃ w' f, answer.replies = [.snapshot f] ∧ s'.Shown b w' f.generation ∧
        evaluate b w'.inputs = .ok f.result := by
  cases hl : Update.ofLine? line with
  | none =>
    obtain ⟨answer', s'', hfeed', hnone, hs'⟩ := h.feed_none hl
    cases hfeed.symm.trans hfeed'
    refine .inl ⟨fun f hf => ?_, hs'⟩
    cases List.filterMap_eq_nil_iff.1 hnone _ hf
  | some u =>
    obtain ⟨hbroken, hok⟩ := h.feed_some hl
    cases he : evaluate b (u.apply w).inputs with
    | error e => cases hfeed.symm.trans (hbroken e he)
    | ok r =>
      obtain ⟨_, _, hfeed', hreplies, hs'⟩ := hok r he
      cases hfeed.symm.trans hfeed'
      exact .inr ⟨_, _, hreplies, hs', he⟩

/-- A session that was started on a workspace and has answered some lines, with the snapshot that
it has shown last. -/
inductive Reached (b : Backend) (initial : Workspace) : Session → Snapshot → Prop
  | start {s : Session} {f : Snapshot} {answer : Answer} (h : start b initial = .ok (answer, s))
      (hf : answer.replies = [.snapshot f]) : Reached b initial s f
  | same {s s' : Session} {f : Snapshot} {line : String} {answer : Answer}
      (hs : Reached b initial s f) (h : s.feed b line = .ok (answer, s'))
      (hf : ∀ f', .snapshot f' ∉ answer.replies) : Reached b initial s' f
  | next {s s' : Session} {f f' : Snapshot} {line : String} {answer : Answer}
      (hs : Reached b initial s f) (h : s.feed b line = .ok (answer, s'))
      (hf : answer.replies = [.snapshot f']) : Reached b initial s' f'

theorem Reached.shown (h : Reached b initial s f) :
    ∃ w, s.Shown b w f.generation ∧ evaluate b w.inputs = .ok f.result := by
  induction h with
  | start h hf =>
    cases he : evaluate b initial.inputs with
    | error e => rw [start_error he] at h; cases h
    | ok r =>
      obtain ⟨answer, s, hstart, hreplies, hs⟩ := start_ok he
      cases h.symm.trans hstart
      cases hf.symm.trans hreplies
      exact ⟨initial, hs, he⟩
  | @same s s' f line answer _ h hf ih =>
    obtain ⟨w, hs, hr⟩ := ih
    rcases hs.feed_cases h with ⟨-, hs'⟩ | ⟨w', f', hreplies, -, -⟩
    · exact ⟨w, hs', hr⟩
    · exact absurd (by rw [hreplies]; exact List.mem_singleton_self _) (hf f')
  | @next s s' f f' line answer _ h hf ih =>
    obtain ⟨w, hs, -⟩ := ih
    rcases hs.feed_cases h with ⟨hnone, -⟩ | ⟨w', f'', hreplies, hs', hr'⟩
    · exact absurd (by rw [hf]; exact List.mem_singleton_self _) (hnone f')
    · cases hf.symm.trans hreplies
      exact ⟨w', hs', hr'⟩

theorem Reached.feed_unchanged (h : Reached b initial s f) (hblank : ¬Blank line)
    (hp : Update.parse line = .ok u)
    (hkey : ∀ w : Workspace, (u.apply w).inputs.key = w.inputs.key) :
    ∃ answer s' f', s.feed b line = .ok (answer, s') ∧ answer.replies = [.snapshot f'] ∧
      f'.recomputed = false ∧ f'.generation = f.generation ∧ f'.result = f.result := by
  obtain ⟨w, hs, hr⟩ := h.shown
  have hfresh : decide ((u.apply w).inputs.key ≠ w.inputs.key) = false :=
    decide_eq_false (not_not_intro (hkey w))
  obtain ⟨answer, s', hfeed, hreplies, -⟩ :=
    (hs.feed_update hblank hp).2 f.result (by rw [evaluate_congr (hkey w), hr])
  rw [hfresh] at hreplies
  exact ⟨answer, s', _, hfeed, hreplies, rfl, rfl, rfl⟩

end RegexStudio.Session
