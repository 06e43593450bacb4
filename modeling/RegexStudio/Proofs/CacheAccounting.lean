import Mathlib.Data.Nat.Basic
import Mathlib.Order.Basic
import RegexStudio.Proofs.CacheRun

/-! What the counters of a result cache mean, and which commits it takes: those of the newest
ticket, with the looks that compute a result counted as tickets of their own. -/

namespace RegexStudio

variable {b : Backend} {us : List Use} {d d' : Desk}

def fills (us : List Use) : List Nat := us.filterMap Use.fill?

theorem fills_snoc (us : List Use) (u : Use) : fills (us ++ [u]) = fills us ++ u.fill?.toList := by
  rw [fills, List.filterMap_append]
  cases h : u.fill? <;> simp [fills, h]

theorem reserved_snoc (us : List Use) (u : Use) :
    reserved (us ++ [u]) = reserved us + if u.reserves then 1 else 0 := by
  rw [reserved_append, reserved_cons]
  rfl

def computations (us : List Use) : Nat := us.countP Use.isCompute + us.countP Use.isMiss

theorem computations_snoc (us : List Use) (u : Use) :
    computations (us ++ [u]) =
      computations us + ((if u.isCompute then 1 else 0) + if u.isMiss then 1 else 0) := by
  simp only [computations, List.countP_append, List.countP_singleton]
  omega

/-- How the counters of a cache and the tickets outside stand to what was done. No ticket outside
has been used to store an entry, so only a generation that was never stored can be stored. -/
structure Tally (us : List Use) (d : Desk) : Prop where
  generation : d.cache.generation = reserved us
  computed : d.cache.computed = computations us
  issued : ∀ t ∈ d.tickets, t.generation ≤ d.cache.generation
  distinct : (d.tickets.map Ticket.generation).Nodup
  filled : ∀ g ∈ fills us, g ≤ d.cache.generation
  unfilled : ∀ t ∈ d.tickets, t.generation ∉ fills us
  increasing : (fills us).Pairwise (· < ·)
  entry : ∀ e, d.cache.entry = some e → (fills us).getLast? = some e.generation

theorem tally_start : Tally [] {} where
  generation := rfl
  computed := rfl
  issued := by simp
  distinct := .nil
  filled := by simp [fills]
  unfilled := by simp
  increasing := .nil
  entry := by simp

theorem pairwise_concat {gs : List Nat} {g : Nat} (hgs : gs.Pairwise (· < ·))
    (hlt : ∀ g' ∈ gs, g' < g) : (gs ++ [g]).Pairwise (· < ·) := by
  refine List.pairwise_append.2 ⟨hgs, List.pairwise_singleton _ _, fun g' hmem g'' hmem' => ?_⟩
  rw [List.mem_singleton.1 hmem']
  exact hlt g' hmem

namespace Tally

theorem quiet {u : Use} (h : Tally us d) (hr : u.reserves = false) (hf : u.fill? = none)
    (hg : d'.cache.generation = d.cache.generation)
    (hc : d'.cache.computed = d.cache.computed + if u.isCompute then 1 else 0)
    (ht : d'.tickets.Sublist d.tickets)
    (he : ∀ e, d'.cache.entry = some e → d.cache.entry = some e) : Tally (us ++ [u]) d' := by
  have hfills : fills (us ++ [u]) = fills us := by rw [fills_snoc, hf]; exact List.append_nil _
  have hm : u.isMiss = false := (Bool.or_eq_false_iff.1 hr).2
  refine ⟨?_, ?_, ?_, ?_, ?_, ?_, ?_, ?_⟩
  · rw [hg, h.generation, reserved_snoc, hr]
    rfl
  · rw [hc, h.computed, computations_snoc, hm]
    rfl
  · exact fun t hmem => hg ▸ h.issued t (ht.subset hmem)
  · exact h.distinct.sublist (ht.map _)
  · exact hfills ▸ hg ▸ h.filled
  · exact fun t hmem => hfills ▸ h.unfilled t (ht.subset hmem)
  · exact hfills ▸ h.increasing
  · exact fun e hd' => hfills ▸ h.entry e (he e hd')

theorem renewed {s : Inputs} {found : Lookup} (h : Tally us d) (hr : found.recomputed = true)
    (hg : found.generation = d.cache.generation + 1) :
    Tally (us ++ [.get s found]) { d with cache := d.cache.renewed s found.result } := by
  have hfills : fills (us ++ [.get s found]) = fills us ++ [d.cache.generation + 1] := by
    simp only [fills_snoc, Use.fill?, hr, if_true, hg, Option.toList_some]
  refine ⟨?_, ?_, ?_, h.distinct, ?_, ?_, ?_, ?_⟩
  · simp [ResultCache.renewed, reserved_snoc, Use.reserves, Use.isIssue, Use.isMiss, hr,
      h.generation]
  · simp [ResultCache.renewed, computations_snoc, Use.isCompute, Use.isMiss, hr, h.computed]
  · exact fun t hmem => (h.issued t hmem).trans (Nat.le_succ _)
  · intro g hmem
    rw [hfills, List.mem_append, List.mem_singleton] at hmem
    rcases hmem with hmem | rfl
    · exact (h.filled g hmem).trans (Nat.le_succ _)
    · exact le_rfl
  · intro t hmem hf
    rw [hfills, List.mem_append, List.mem_singleton] at hf
    rcases hf with hf | hf
    · exact h.unfilled t hmem hf
    · have := h.issued t hmem
      omega
  · rw [hfills]
    exact pairwise_concat h.increasing fun g hmem => Nat.lt_succ_of_le (h.filled g hmem)
  · intro e he
    obtain rfl := Option.some.inj he
    rw [hfills, List.getLast?_concat]

theorem issue (h : Tally us d) (s : Inputs) :
    Tally (us ++ [.issue s (d.cache.issue s).1])
      ⟨(d.cache.issue s).2, (d.cache.issue s).1 :: d.tickets⟩ := by
  have hfills : fills (us ++ [.issue s (d.cache.issue s).1]) = fills us := by
    rw [fills_snoc]
    exact List.append_nil _
  have hnew : ∀ g ∈ fills us, g ≠ d.cache.generation + 1 := fun g hmem =>
    (Nat.lt_succ_of_le (h.filled g hmem)).ne
  refine ⟨?_, ?_, ?_, ?_, ?_, ?_, hfills ▸ h.increasing, ?_⟩
  · rw [reserved_snoc, ← h.generation]
    rfl
  · rw [computations_snoc, ← h.computed]
    rfl
  · intro t hmem
    rcases List.mem_cons.1 hmem with rfl | hmem
    · exact le_rfl
    · exact (h.issued t hmem).trans (Nat.le_succ _)
  · rw [List.map_cons, List.nodup_cons]
    refine ⟨fun hmem => ?_, h.distinct⟩
    obtain ⟨t, hmem, heq⟩ := List.mem_map.1 hmem
    have hle := h.issued t hmem
    have heq : t.generation = d.cache.generation + 1 := heq
    omega
  · exact fun g hmem => (h.filled g (hfills ▸ hmem)).trans (Nat.le_succ _)
  · intro t hmem
    rw [hfills]
    rcases List.mem_cons.1 hmem with rfl | hmem
    · exact fun hf => hnew _ hf rfl
    · exact h.unfilled t hmem
  · exact fun e he => hfills ▸ h.entry e he

theorem commit {t : Ticket} (h : Tally us d) (e : Evaluation) (ht : t ∈ d.tickets)
    (hg : t.generation = d.cache.generation) :
    Tally (us ++ [.commit t e true])
      ⟨{ d.cache with entry := some (.ofTicket t e) }, d.tickets.erase t⟩ := by
  have hfills : fills (us ++ [.commit t e true]) = fills us ++ [t.generation] := fills_snoc _ _
  have hsub : (d.tickets.erase t).Sublist d.tickets := List.erase_sublist
  -- tickets that differ are of different generations, so no other one is used up with this
  have hother : ∀ t' ∈ d.tickets.erase t, t'.generation ≠ t.generation := by
    intro t' hmem heq
    have hnodup : (t :: d.tickets.erase t).map Ticket.generation |>.Nodup :=
      ((List.perm_cons_erase ht).map _).nodup_iff.1 h.distinct
    rw [List.map_cons, List.nodup_cons] at hnodup
    exact hnodup.1 (heq ▸ List.mem_map_of_mem hmem)
  refine ⟨?_, ?_, ?_, h.distinct.sublist (hsub.map _), ?_, ?_, ?_, ?_⟩
  · rw [reserved_snoc, ← h.generation]
    rfl
  · rw [computations_snoc, ← h.computed]
    rfl
  · exact fun t' hmem => h.issued t' (hsub.subset hmem)
  · intro g hmem
    rw [hfills, List.mem_append, List.mem_singleton] at hmem
    rcases hmem with hmem | rfl
    · exact h.filled g hmem
    · exact hg.le
  · intro t' hmem hf
    rw [hfills, List.mem_append, List.mem_singleton] at hf
    rcases hf with hf | hf
    · exact h.unfilled t' (hsub.subset hmem) hf
    · exact hother t' hmem hf
  · rw [hfills]
    -- the newest generation was not stored before, since its ticket was still outside
    refine pairwise_concat h.increasing fun g hmem => ?_
    rw [hg]
    refine lt_of_le_of_ne (h.filled g hmem) fun heq => h.unfilled t ht ?_
    rw [hg, ← heq]
    exact hmem
  · intro e' he
    obtain rfl := Option.some.inj he
    rw [hfills, List.getLast?_concat]
    rfl

theorem step {u : Use} (h : Tally us d) (step : Step b d u d') : Tally (us ++ [u]) d' := by
  cases step with
  | @get s found c hget =>
    rcases ResultCache.get_cases hget with ⟨e, he, _, hr, hg, rfl⟩ | ⟨_, _, hr, hg, rfl⟩
    · exact h.quiet (by simp [Use.reserves, Use.isIssue, Use.isMiss, hr])
        (by simp [Use.fill?, hr]) rfl rfl (.refl _) fun _ he => he
    · exact h.renewed hr hg
  | issue s => exact h.issue s
  | @compute s e c hcompute =>
    obtain ⟨_, rfl⟩ := ResultCache.compute_eq_ok hcompute
    exact h.quiet rfl rfl rfl rfl (.refl _) fun _ he => he
  | @commit t e ht =>
    rw [ResultCache.commit_eq]
    by_cases hg : t.generation = d.cache.generation
    · rw [if_pos hg, decide_eq_true hg]
      exact h.commit e ht hg
    · rw [if_neg hg, decide_eq_false hg]
      exact h.quiet rfl rfl rfl rfl List.erase_sublist fun _ he => he
  | clear =>
    refine h.quiet rfl rfl rfl rfl (.refl _) fun _ he => ?_
    cases he

end Tally

theorem Run.tally (h : Run b us d) : Tally us d := by
  induction h with
  | start => exact tally_start
  | snoc _ step ih => exact ih.step step

theorem Run.generation_of_issue {pre mid : List Use} {s : Inputs} {t : Ticket} (h : Run b us d)
    (hus : us = pre ++ .issue s t :: mid) : t.generation = reserved pre + 1 := by
  obtain ⟨d₀, _, hpre, step, _⟩ := h.split hus
  cases step
  rw [← hpre.tally.generation]
  rfl

theorem Run.issue_of_mem_tickets {t : Ticket} (h : Run b us d) (ht : t ∈ d.tickets) :
    ∃ pre s mid, us = pre ++ .issue s t :: mid := by
  induction h with
  | start => simp at ht
  | @snoc us d d' u h step ih =>
    have before (hmem : t ∈ d.tickets) : ∃ pre s mid, us ++ [u] = pre ++ .issue s t :: mid := by
      obtain ⟨pre, s, mid, rfl⟩ := ih hmem
      exact ⟨pre, s, mid ++ [u], by rw [List.append_assoc, List.cons_append]⟩
    cases step with
    | issue s =>
      rcases List.mem_cons.1 ht with rfl | hmem
      · exact ⟨us, s, [], rfl⟩
      · exact before hmem
    | commit e _ => exact before (List.mem_of_mem_erase ht)
    | get _ => exact before ht
    | compute _ => exact before ht
    | clear => exact before ht

theorem Run.commit_iff {before after : List Use} {t : Ticket} {e : Evaluation} {stored : Bool}
    (h : Run b us d) (hus : us = before ++ .commit t e stored :: after) :
    (∃ pre s mid, before = pre ++ .issue s t :: mid) ∧
      ∀ pre s mid, before = pre ++ .issue s t :: mid →
        (stored = true ↔ ∀ u ∈ mid, u.reserves = false) := by
  obtain ⟨d₀, _, hbefore, step, _⟩ := h.split hus
  have hgen := hbefore.tally.generation
  -- the flag of the use is an index of the step, so the use is named before the step is split
  generalize hu : Use.commit t e stored = u at step
  cases step with
  | commit e ht =>
    obtain ⟨rfl, rfl, rfl⟩ := Use.commit.inj hu
    refine ⟨hbefore.issue_of_mem_tickets ht, fun pre s mid hpre => ?_⟩
    have hissue : (Use.issue s t).reserves = true := rfl
    rw [ResultCache.commit_eq, decide_eq_true_iff, hbefore.generation_of_issue hpre, hgen, hpre,
      reserved_append, reserved_cons, if_pos hissue, ← reserved_eq_zero_iff]
    omega
  | _ => cases hu

theorem Step.recomputed_iff {s : Inputs} {found : Lookup} (h : Step b d (.get s found) d') :
    found.recomputed = true ↔ ∀ e, ¬d.cache.Hit s e := by
  cases h with
  | get hget =>
    rcases ResultCache.get_cases hget with ⟨e, he, _, hr, _⟩ | ⟨hmiss, _, hr, _⟩
    · rw [hr]
      exact ⟨fun h => (Bool.false_ne_true h).elim, fun h => (h e he).elim⟩
    · exact ⟨fun _ => hmiss, fun _ => hr⟩

theorem Step.cache_of_stale {t : Ticket} {e : Evaluation} (h : Step b d (.commit t e false) d') :
    d'.cache = d.cache := by
  generalize hu : Use.commit t e false = u at h
  cases h with
  | commit e _ =>
    obtain ⟨rfl, rfl, hs⟩ := Use.commit.inj hu
    rw [ResultCache.commit_eq] at hs ⊢
    exact if_neg (of_decide_eq_false hs.symm)
  | _ => cases hu

theorem Step.entry_of_taken {t : Ticket} {e : Evaluation} (h : Step b d (.commit t e true) d') :
    t.generation = d.cache.generation ∧ d'.cache.entry = some ⟨t.key, e, t.generation⟩ := by
  generalize hu : Use.commit t e true = u at h
  cases h with
  | commit e _ =>
    obtain ⟨rfl, rfl, hs⟩ := Use.commit.inj hu
    rw [ResultCache.commit_eq] at hs ⊢
    have hg := of_decide_eq_true hs.symm
    rw [if_pos hg]
    exact ⟨hg, rfl⟩
  | _ => cases hu

theorem Step.entry_of_miss {s : Inputs} {found : Lookup} (h : Step b d (.get s found) d')
    (hmiss : found.recomputed = true) :
    found.generation = d.cache.generation + 1 ∧
      d'.cache.entry = some ⟨s.key, found.result, found.generation⟩ := by
  cases h with
  | get hget =>
    rcases ResultCache.get_cases hget with ⟨_, _, _, hr, _⟩ | ⟨_, _, _, hg, rfl⟩
    · cases hmiss.symm.trans hr
    · exact ⟨hg, by rw [hg]; rfl⟩

theorem ofNat_eq_iff_of_lt {m n : Nat} (hm : m < UInt64.size) (hn : n < UInt64.size) :
    UInt64.ofNat m = UInt64.ofNat n ↔ m = n := by
  rw [← UInt64.toNat_inj, UInt64.toNat_ofNat_of_lt' hm, UInt64.toNat_ofNat_of_lt' hn]

/-- The books of a cache after any run. A look counts as a miss if the cache had no entry for its
key. A commit is taken exactly if neither a ticket nor a miss came after its ticket, and changes
nothing if it is not taken. What is taken, or computed at a miss, is the entry from then on; the
entries that were stored are of ever greater generations, and the one that is there is the last of
them; and the counters count. While the generations taken fit a word, it is enough to compare them
as words. -/
theorem Run.accounting (h : Run b us d) :
    (∀ before s found after, us = before ++ .get s found :: after →
      ∃ d₀, Run b before d₀ ∧ (found.recomputed = true ↔ ∀ e, ¬d₀.cache.Hit s e)) ∧
    (∀ before t e stored after, us = before ++ .commit t e stored :: after →
      (∃ pre s mid, before = pre ++ .issue s t :: mid) ∧
      ∀ pre s mid, before = pre ++ .issue s t :: mid →
        (stored = true ↔ ∀ u ∈ mid, u.reserves = false)) ∧
    (∀ t e d', Step b d (.commit t e false) d' → d'.cache = d.cache) ∧
    (∀ t e d', Step b d (.commit t e true) d' → t.generation = d.cache.generation ∧
      d'.cache.entry = some ⟨t.key, e, t.generation⟩) ∧
    (∀ s found d', Step b d (.get s found) d' → found.recomputed = true →
      found.generation = d.cache.generation + 1 ∧
        d'.cache.entry = some ⟨s.key, found.result, found.generation⟩) ∧
    ((fills us).Pairwise (· < ·) ∧
      ∀ e, d.cache.entry = some e → (fills us).getLast? = some e.generation) ∧
    (d.cache.generation = us.countP Use.isIssue + us.countP Use.isMiss ∧
      d.cache.computed = us.countP Use.isCompute + us.countP Use.isMiss) ∧
    (us.countP Use.reserves < UInt64.size → d.cache.generation < UInt64.size ∧
      ∀ t ∈ d.tickets, (UInt64.ofNat t.generation = UInt64.ofNat d.cache.generation ↔
        t.generation = d.cache.generation)) := by
  have tally := h.tally
  refine ⟨?_, ?_, fun _ _ _ step => step.cache_of_stale, fun _ _ _ step => step.entry_of_taken,
    fun _ _ _ step => step.entry_of_miss, ⟨tally.increasing, tally.entry⟩,
    ⟨tally.generation, tally.computed⟩, ?_⟩
  · intro before s found after hus
    obtain ⟨d₀, _, hbefore, step, _⟩ := h.split hus
    exact ⟨d₀, hbefore, step.recomputed_iff⟩
  · exact fun _ _ _ _ _ hus => h.commit_iff hus
  · intro hfew
    have hgen : d.cache.generation < UInt64.size := by rwa [tally.generation, reserved_eq_countP]
    exact ⟨hgen, fun t ht => ofNat_eq_iff_of_lt ((tally.issued t ht).trans_lt hgen) hgen⟩

theorem accounting_two_tickets :
    let s : Inputs := { pattern := "a", subject := "ba" }
    let b := Backend.ofEngine none
    let us : List Use := [.issue s ⟨s.key, 1⟩, .issue s ⟨s.key, 2⟩]
    ∃ d d' d'', Run b us d ∧ us.countP Use.reserves < UInt64.size ∧
      d.cache.generation = 2 ∧ d.cache.generation < UInt64.size ∧
      Step b d (.commit ⟨s.key, 2⟩ (.find []) true) d' ∧
      d'.cache.entry = some ⟨s.key, .find [], 2⟩ ∧
      Step b d' (.commit ⟨s.key, 1⟩ .empty false) d'' ∧
      d''.cache.entry = some ⟨s.key, .find [], 2⟩ ∧
      fills (us ++ [.commit ⟨s.key, 2⟩ (.find []) true]) = [2] := by
  intro s b us
  have hnew : (⟨s.key, 2⟩ : Ticket) ∈ [⟨s.key, 2⟩, ⟨s.key, 1⟩] := List.mem_cons_self
  have hold : (⟨s.key, 1⟩ : Ticket) ∈ [⟨s.key, 1⟩] := List.mem_cons_self
  have run : Run b us ⟨⟨none, 2, 0⟩, [⟨s.key, 2⟩, ⟨s.key, 1⟩]⟩ :=
    (Run.start.snoc (.issue {} s)).snoc (.issue _ s)
  have taken := Step.commit (b := b) (.find []) hnew (d := ⟨⟨none, 2, 0⟩, _⟩)
  have stale := Step.commit (b := b) .empty hold (d := ⟨⟨some ⟨s.key, .find [], 2⟩, 2, 0⟩, _⟩)
  obtain ⟨_, _, _, htaken, _, _, ⟨hgen, _⟩, hword⟩ := run.accounting
  obtain ⟨_, _, hstale, _⟩ := (run.snoc taken).accounting
  have hfew : us.countP Use.reserves < UInt64.size := by decide
  have hentry := (htaken _ _ _ taken).2
  exact ⟨_, _, _, run, hfew, hgen, (hword hfew).1, taken, hentry, stale,
    (congrArg ResultCache.entry (hstale _ _ _ stale)).trans hentry, rfl⟩

end RegexStudio
