import RegexStudio.Linear.Regex
import RegexStudio.Proofs.Haystack

/-! Where the linear engine finds its matches: every place that a thread comes to or writes down
lies between the place where its search begins and the limit of the search. -/

namespace RegexStudio

def Hit.span (hit : Hit) : Nat × Nat := (hit.start, hit.stop)

namespace Linear

open Text (Haystack)

structure Thread.Within (lo hi : Nat) (t : Thread) : Prop where
  pos : lo ≤ t.pos ∧ t.pos ≤ hi
  trail : ∀ entry ∈ t.trail, lo ≤ entry.2 ∧ entry.2 ≤ hi

namespace Thread.Within

variable {lo hi : Nat} {t : Thread}

theorem initial (pc : Nat) {pos : Nat} (hlo : lo ≤ pos) (hhi : pos ≤ hi) :
    Within lo hi ⟨pc, pos, []⟩ :=
  ⟨⟨hlo, hhi⟩, fun _ h => nomatch h⟩

theorem weaken {hi' : Nat} (ht : t.Within lo hi) (hle : hi ≤ hi') : t.Within lo hi' :=
  ⟨⟨ht.pos.1, Nat.le_trans ht.pos.2 hle⟩, fun entry hentry =>
    ⟨(ht.trail entry hentry).1, Nat.le_trans (ht.trail entry hentry).2 hle⟩⟩

theorem goto (ht : t.Within lo hi) (pc : Nat) : Within lo hi { t with pc } := ⟨ht.pos, ht.trail⟩

theorem moved (ht : t.Within lo hi) (pc : Nat) {pos : Nat} (hpos : lo ≤ pos ∧ pos ≤ hi) :
    Within lo hi { t with pc, pos } := ⟨hpos, ht.trail⟩

theorem saved (ht : t.Within lo hi) (slot pc : Nat) :
    Within lo hi { t with pc, trail := (slot, t.pos) :: t.trail } :=
  ⟨ht.pos, List.forall_mem_cons.2 ⟨ht.pos, ht.trail⟩⟩

theorem slot {slot place : Nat} (ht : t.Within lo hi) (h : t.slot? slot = some place) :
    lo ≤ place ∧ place ≤ hi := by
  obtain ⟨before, after, htrail, -⟩ := List.lookup_eq_some_iff.1 h
  exact ht.trail (slot, place) (htrail ▸ List.mem_append_right _ List.mem_cons_self)

theorem group {index : Nat} {span : Nat × Nat} (ht : t.Within lo hi)
    (h : t.group? index = some span) :
    (lo ≤ span.1 ∧ span.1 ≤ hi) ∧ lo ≤ span.2 ∧ span.2 ≤ hi := by
  simp only [group?, Option.bind_eq_bind, Option.bind_eq_some_iff, Option.some.injEq] at h
  obtain ⟨start, hstart, stop, hstop, rfl⟩ := h
  exact ⟨ht.slot hstart, ht.slot hstop⟩

end Thread.Within

namespace Program

variable {p : Program} {h : Haystack} {limit lo hi start stop : Nat} {dir : Direction}
  {t : Thread}

theorem step_within (ht : t.Within lo hi)
    (hread : ∀ c pos, dir.read h limit t.pos = some (c, pos) → lo ≤ pos ∧ pos ≤ hi)
    (inst : Inst) : ∀ t' ∈ step h limit dir t inst, t'.Within lo hi := by
  intro t' ht'
  cases inst with
  | accept => cases ht'
  | set s next =>
    simp only [step] at ht'
    split at ht'
    · rename_i c pos hpos
      -- reading is the only way to another place
      split at ht'
      · obtain rfl := List.mem_singleton.1 ht'
        exact ht.moved next (hread c pos hpos)
      · cases ht'
    · cases ht'
  | look l next =>
    simp only [step] at ht'
    split at ht'
    · obtain rfl := List.mem_singleton.1 ht'
      exact ht.goto next
    · cases ht'
  | save slot next =>
    obtain rfl := List.mem_singleton.1 ht'
    exact ht.saved slot next
  | split first second =>
    rcases List.mem_cons.1 ht' with rfl | ht'
    · exact ht.goto first
    · obtain rfl := List.mem_singleton.1 ht'
      exact ht.goto second

/-- What every instruction of the program preserves holds of a thread that is accepted. -/
theorem explore_invariant {P : Thread → Prop}
    (hstep : ∀ t inst, p.code[t.pc]? = some inst → P t → ∀ t' ∈ step h limit dir t inst, P t')
    {fuel : Nat} {visited : Visited} {stack : List Thread} (hstack : ∀ t ∈ stack, P t)
    (hfound : (explore p h limit dir fuel visited stack).1 = some t) :
    P t ∧ p.code[t.pc]? = some .accept := by
  -- the addresses tried do not matter here: they only keep threads off the stack
  induction fuel generalizing visited stack with
  | zero => cases hfound
  | succ fuel ih =>
    cases stack with
    | nil => cases hfound
    | cons top rest =>
      obtain ⟨htop, hrest⟩ := List.forall_mem_cons.1 hstack
      simp only [explore] at hfound
      split at hfound
      · exact ih hrest hfound
      · split at hfound
        · exact ih hrest hfound
        · rename_i haccept
          obtain rfl := Option.some.inj hfound
          exact ⟨htop, haccept⟩
        · rename_i inst _ hinst
          refine ih (fun t' ht' => ?_) hfound
          rcases List.mem_append.1 ht' with hnew | hold
          · exact hstep top inst hinst htop t' hnew
          · exact hrest t' hold

theorem read_onward (hlo : lo ≤ t.pos) {c : Char} {pos : Nat}
    (hread : Direction.onward.read h limit t.pos = some (c, pos)) : lo ≤ pos ∧ pos ≤ limit := by
  simp only [Direction.read] at hread
  split at hread
  · obtain ⟨_, -, hpos⟩ := Option.map_eq_some_iff.1 hread
    obtain ⟨-, rfl⟩ := Prod.mk.inj hpos
    omega
  · cases hread

theorem read_back (hhi : t.pos ≤ hi) {c : Char} {pos : Nat}
    (hread : Direction.back.read h limit t.pos = some (c, pos)) : 0 ≤ pos ∧ pos ≤ hi := by
  obtain ⟨_, -, hpos⟩ := Option.map_eq_some_iff.1 hread
  obtain ⟨-, rfl⟩ := Prod.mk.inj hpos
  omega

theorem matchAt_within {visited : Visited} (hlimit : start ≤ limit)
    (hfound : (p.matchAt h limit .onward start visited).1 = some t) : t.Within start limit := by
  refine (explore_invariant (fun t inst _ ht => ?_) ?_ hfound).1
  · exact step_within ht (fun _ _ => read_onward ht.pos.1) inst
  · exact List.forall_mem_singleton.2 (.initial _ (Nat.le_refl _) hlimit)

theorem anchored_within (hlimit : start ≤ limit) (hfound : p.anchored h start limit = some t) :
    t.Within start limit := matchAt_within hlimit hfound

theorem anchoredBack_within (hfound : p.anchoredBack h stop = some t) : t.Within 0 stop := by
  refine (explore_invariant (fun t inst _ ht => ?_) ?_ hfound).1
  · exact step_within ht (fun _ _ => read_back ht.pos.2) inst
  · exact List.forall_mem_singleton.2 (.initial _ (Nat.zero_le _) (Nat.le_refl _))

theorem searchFrom_within {n i : Nat} {visited : Visited} (hn : start + n ≤ h.size + 1)
    (hfound : p.searchFrom h n start visited = some (i, t)) :
    start ≤ i ∧ i ≤ h.size ∧ t.Within i h.size := by
  induction n generalizing start visited with
  | zero => cases hfound
  | succ n ih =>
    simp only [searchFrom] at hfound
    split at hfound
    · rename_i hmatch
      obtain ⟨rfl, rfl⟩ := Prod.mk.inj (Option.some.inj hfound)
      have hstart : start ≤ h.size := by omega
      exact ⟨Nat.le_refl _, hstart, matchAt_within hstart (congrArg Prod.fst hmatch)⟩
    · obtain ⟨hi, hsize, ht⟩ := ih (by omega) hfound
      exact ⟨Nat.le_of_succ_le hi, hsize, ht⟩

theorem search_within {i : Nat} (hfound : p.search h start = some (i, t)) :
    start ≤ i ∧ i ≤ h.size ∧ t.Within i h.size := by
  rcases Nat.le_total start (h.size + 1) with hstart | hstart
  · exact searchFrom_within (by omega) hfound
  · rw [search, Nat.sub_eq_zero_of_le hstart] at hfound
    cases hfound

end Program

namespace Regex

variable {re : Regex} {h : Haystack} {start : Nat} {last : Option Nat} {m : Hit}

structure Found (h : Haystack) (start : Nat) (m : Hit) : Prop where
  start_le : start ≤ m.start
  start_le_stop : m.start ≤ m.stop
  stop_le : m.stop ≤ h.size
  groups : ∀ span, some span ∈ m.groups →
    (m.start ≤ span.1 ∧ span.1 ≤ h.size) ∧ m.start ≤ span.2 ∧ span.2 ≤ h.size

theorem find_found (hm : re.find h start = some m) : Found h start m := by
  obtain ⟨⟨i, t⟩, hsearch, rfl⟩ := Option.map_eq_some_iff.1 hm
  obtain ⟨hi, -, ht⟩ := Program.search_within hsearch
  refine ⟨hi, ht.pos.1, ht.pos.2, fun span hspan => ?_⟩
  obtain ⟨index, -, hgroup⟩ := List.mem_map.1 hspan
  exact ht.group hgroup

theorem findNext_found (hm : re.findNext h start last = some m) : Found h start m := by
  unfold findNext at hm
  split at hm
  · cases hm
  · rename_i hfind
    split at hm
    · have hnext := find_found hm
      exact { hnext with start_le := Nat.le_of_succ_le hnext.start_le }
    · obtain rfl := Option.some.inj hm
      exact find_found hfind

theorem hitsFrom_found {fuel : Nat} :
    ∀ m ∈ re.hitsFrom h fuel start last, Found h start m := by
  induction fuel generalizing start last with
  | zero => exact fun _ hm => nomatch hm
  | succ fuel ih =>
    intro m hm
    simp only [hitsFrom] at hm
    split at hm
    · cases hm
    · rename_i first hfirst
      have hf := findNext_found hfirst
      rcases List.mem_cons.1 hm with rfl | hm
      · exact hf
      · have hrest := ih m hm
        have hle := Nat.le_trans hf.start_le hf.start_le_stop
        exact { hrest with start_le := Nat.le_trans hle hrest.start_le }

theorem hitsFrom_inOrder {fuel : Nat} :
    Text.InOrder start ((re.hitsFrom h fuel start last).map Hit.span) := by
  induction fuel generalizing start last with
  | zero => trivial
  | succ fuel ih =>
    simp only [hitsFrom]
    split
    · trivial
    · rename_i hfirst
      exact ⟨(findNext_found hfirst).start_le, ih⟩

end Regex

end Linear

end RegexStudio
