import Mathlib
import RegexStudio.Proofs.LinearSearch

/-! The depth-first search loses no match. Where it fails, every address that it tried leads only to
addresses that it tried as well, so none of them leads to the end of the program; and it never runs
out of steps, for every address at every place is tried once at most. -/

namespace RegexStudio.Linear

open Text (Haystack)

namespace Visited

variable {v : Visited} {pc pos : Nat}

def row (v : Visited) (i : Nat) : Array Bool := v.rows[i]?.getD #[]

def Even (v : Visited) : Prop := ∀ i, (v.row i).size = 0 ∨ (v.row i).size = v.width

theorem contains_eq (v : Visited) (pc pos : Nat) :
    v.contains pc pos = (v.row (pos - v.base))[pc]?.getD false := by
  unfold contains row
  cases v.rows[pos - v.base]? with
  | none => rfl
  | some row => exact Array.getD_eq_getD_getElem? ..

theorem even_empty (width base : Nat) : (empty width base).Even := fun _ => .inl rfl

theorem row_insert (v : Visited) (pc pos i : Nat) :
    (v.insert pc pos).row i =
      if i = pos - v.base then
        (if (v.row i).isEmpty then Array.replicate v.width false else v.row i).setIfInBounds pc true
      else v.row i := by
  -- new rows are empty ones, and the row to be changed is there by then
  let grown := if pos - v.base < v.rows.size then v.rows
    else v.rows ++ Array.replicate (pos - v.base + 1 - v.rows.size) #[]
  have hsize : pos - v.base < grown.size := by
    simp only [grown]
    split
    · assumption
    · rw [Array.size_append, Array.size_replicate]
      omega
  have hgrown : grown[i]?.getD #[] = v.row i := by
    simp only [grown, row]
    split
    · rfl
    · rw [Array.getElem?_append]
      split
      · rfl
      · rename_i hi
        rw [Array.getElem?_eq_none (Nat.le_of_not_lt hi), Array.getElem?_replicate]
        split <;> rfl
  change (grown.modify (pos - v.base) _)[i]?.getD #[] = _
  rw [Array.getElem?_modify]
  by_cases hi : i = pos - v.base
  · subst hi
    rw [Array.getElem?_eq_getElem hsize, Option.getD_some] at hgrown
    rw [if_pos rfl, if_pos rfl, Array.getElem?_eq_getElem hsize, Option.map_some, Option.getD_some,
      hgrown]
  · rw [if_neg (Ne.symm hi), if_neg hi, hgrown]

theorem Even.insert (h : v.Even) (pc pos : Nat) : (v.insert pc pos).Even := by
  intro i
  rw [row_insert]
  split
  · rw [Array.size_setIfInBounds]
    split
    · exact .inr Array.size_replicate
    · exact h i
  · exact h i

theorem getElem?_fill {row : Array Bool} {width pc : Nat}
    (hrow : row.size = 0 ∨ row.size = width) (hpc : pc < width) (pc' : Nat) :
    ((if row.isEmpty then Array.replicate width false else row).setIfInBounds pc true)[pc']?.getD
        false = true ↔ pc' = pc ∨ row[pc']?.getD false = true := by
  rw [Array.getElem?_setIfInBounds]
  by_cases heq : pc = pc'
  · have hsize : pc < (if row.isEmpty then Array.replicate width false else row).size := by
      split
      · rwa [Array.size_replicate]
      · rename_i hempty
        rcases hrow with hzero | hfull
        · exact absurd (Array.isEmpty_iff_size_eq_zero.2 hzero) hempty
        · rwa [hfull]
    rw [if_pos heq, if_pos hsize]
    exact ⟨fun _ => .inl heq.symm, fun _ => rfl⟩
  · rw [if_neg heq]
    split
    · rename_i hempty
      have hnone : row[pc']? = none := by simp [Array.isEmpty_iff.1 hempty]
      rw [hnone, Array.getElem?_replicate]
      split <;> simp [Ne.symm heq]
    · simp [Ne.symm heq]

theorem contains_insert (h : v.Even) (hpc : pc < v.width) (hpos : v.base ≤ pos) {pc' pos' : Nat}
    (hpos' : v.base ≤ pos') :
    (v.insert pc pos).contains pc' pos' = true ↔
      pc' = pc ∧ pos' = pos ∨ v.contains pc' pos' = true := by
  have hbase : (v.insert pc pos).base = v.base := rfl
  have hplace : pos' - v.base = pos - v.base ↔ pos' = pos := by omega
  rw [contains_eq, contains_eq, row_insert, hbase]
  simp only [hplace]
  by_cases heq : pos' = pos
  · subst heq
    rw [if_pos rfl, getElem?_fill (h _) hpc]
    simp
  · simp [heq]

end Visited

namespace Program

variable {p : Program} {h : Haystack} {limit : Nat} {t t' u : Thread}

inductive Accepts (p : Program) (h : Haystack) (limit : Nat) : Nat → Thread → Thread → Prop
  | here {t : Thread} (hpc : p.code[t.pc]? = some .accept) : Accepts p h limit 0 t t
  | step {n : Nat} {t t' u : Thread} {inst : Inst} (hpc : p.code[t.pc]? = some inst)
    (ht' : t' ∈ step h limit .onward t inst) (hrest : Accepts p h limit n t' u) :
    Accepts p h limit (n + 1) t u

theorem step_place {t t' : Thread} (hpos : t.pos = t'.pos) (inst : Inst) :
    (step h limit .onward t inst).map (fun s => (s.pc, s.pos)) =
      (step h limit .onward t' inst).map fun s => (s.pc, s.pos) := by
  cases inst with
  | accept | save | split => simp [step, hpos]
  | set s next =>
    simp only [step, hpos]
    split
    · split <;> rfl
    · rfl
  | look l next =>
    simp only [step, hpos]
    split <;> rfl

theorem length_step (h : Haystack) (limit : Nat) (t : Thread) (inst : Inst) :
    (step h limit .onward t inst).length ≤ 2 := by
  cases inst with
  | accept | save | split => simp [step]
  | set s next =>
    simp only [step]
    split
    · split <;> simp
    · simp
  | look l next =>
    simp only [step]
    split <;> simp

theorem pos_le_of_step {t t' : Thread} {inst : Inst}
    (ht' : t' ∈ step h limit .onward t inst) : t.pos ≤ t'.pos := by
  -- what was written down does not matter, so let it be nothing
  have hmem := List.mem_map_of_mem (f := fun s : Thread => (s.pc, s.pos)) ht'
  have hplace : t.pos = (⟨t.pc, t.pos, []⟩ : Thread).pos := rfl
  rw [step_place hplace] at hmem
  obtain ⟨s, hs, heq⟩ := List.mem_map.1 hmem
  have hwithin := step_within (.initial t.pc (Nat.le_refl _) (Nat.le_max_left t.pos limit))
    (fun c pos hread => ?_) inst s hs
  · rw [← (Prod.mk.inj heq).2]
    exact hwithin.pos.1
  · have hbounds := read_onward (h := h) (t := ⟨t.pc, t.pos, []⟩) (Nat.le_refl _) hread
    exact ⟨hbounds.1, Nat.le_trans hbounds.2 (Nat.le_max_right _ _)⟩

def Waits (stack : List Thread) (t : Thread) : Prop :=
  (t.pc, t.pos) ∈ stack.map fun s => (s.pc, s.pos)

def Tried (p : Program) (v : Visited) (t : Thread) : Prop :=
  v.contains t.pc t.pos = true ∨ p.code[t.pc]? = none

/-- A set of addresses and a stack, as they are during a search: no address of the set ends the
program, and each leads only to addresses that were tried or wait on the stack. -/
structure Exploring (p : Program) (h : Haystack) (limit : Nat) (v : Visited)
    (stack : List Thread) : Prop where
  even : v.Even
  width : v.width = p.code.size
  within : ∀ t ∈ stack, t.Within v.base limit
  closed : ∀ t, v.base ≤ t.pos → v.contains t.pc t.pos = true →
    ∃ inst, p.code[t.pc]? = some inst ∧ inst ≠ .accept ∧
      ∀ t' ∈ step h limit .onward t inst, p.Tried v t' ∨ Waits stack t'

def untried (p : Program) (limit : Nat) (v : Visited) : Finset (Nat × Nat) :=
  (Finset.range p.code.size ×ˢ Finset.Icc v.base limit).filter fun x => v.contains x.1 x.2 = false

variable {v : Visited} {stack : List Thread} {t : Thread} {inst : Inst}

theorem exploring_empty (start : Nat) : Exploring p h limit (.empty p.code.size start) [] :=
  ⟨Visited.even_empty _ _, rfl, fun _ ht => (nomatch ht), fun _ _ ht => (nomatch ht)⟩

theorem Exploring.drop (hx : Exploring p h limit v (t :: stack)) (ht : p.Tried v t) :
    Exploring p h limit v stack := by
  refine ⟨hx.even, hx.width, fun s hs => hx.within s (List.mem_cons_of_mem _ hs), ?_⟩
  intro s hpos hs
  obtain ⟨inst, hpc, hne, hnext⟩ := hx.closed s hpos hs
  refine ⟨inst, hpc, hne, fun s' hs' => ?_⟩
  rcases hnext s' hs' with htried | hwaits
  · exact .inl htried
  · rcases List.mem_cons.1 hwaits with heq | hwaits
    · obtain ⟨hpc', hpos'⟩ := Prod.mk.inj heq
      exact .inl (by rwa [Tried, hpc', hpos'])
    · exact .inr hwaits

theorem Tried.insert (hs : p.Tried v t) {pc pos : Nat} (heven : v.Even) (hpc : pc < v.width)
    (hpos : v.base ≤ pos) (ht : v.base ≤ t.pos) : p.Tried (v.insert pc pos) t :=
  hs.imp_left fun h => (Visited.contains_insert heven hpc hpos ht).2 (.inr h)

theorem Exploring.step (hx : Exploring p h limit v (t :: stack))
    (hpc : p.code[t.pc]? = some inst) (hne : inst ≠ .accept) :
    Exploring p h limit (v.insert t.pc t.pos) (step h limit .onward t inst ++ stack) := by
  have ht := hx.within t List.mem_cons_self
  have hsize : t.pc < v.width := hx.width ▸ (Array.getElem?_eq_some_iff.1 hpc).1
  have hnew := step_within ht (fun _ _ => read_onward (h := h) ht.pos.1) inst
  refine ⟨hx.even.insert _ _, hx.width, ?_, fun s hpos hs => ?_⟩
  · intro s hs
    rcases List.mem_append.1 hs with hs | hs
    · exact hnew s hs
    · exact hx.within s (List.mem_cons_of_mem _ hs)
  -- either the address just tried, whose next ones are on the stack now, or one tried before
  · rcases (Visited.contains_insert hx.even hsize ht.pos.1 hpos).1 hs with ⟨hpc', hpos'⟩ | hold
    · refine ⟨inst, hpc' ▸ hpc, hne, fun s' hs' => .inr ?_⟩
      have hmem := List.mem_map_of_mem (f := fun s : Thread => (s.pc, s.pos)) hs'
      rw [step_place hpos'] at hmem
      rw [Waits, List.map_append]
      exact List.mem_append_left _ hmem
    · obtain ⟨inst', hinst', hne', hnext⟩ := hx.closed s hpos hold
      refine ⟨inst', hinst', hne', fun s' hs' => ?_⟩
      have hbase : v.base ≤ s'.pos := Nat.le_trans hpos (pos_le_of_step hs')
      rcases hnext s' hs' with htried | hwaits
      · exact .inl (htried.insert hx.even hsize ht.pos.1 hbase)
      · rcases List.mem_cons.1 hwaits with heq | hwaits
        · obtain ⟨hpc', hpos'⟩ := Prod.mk.inj heq
          exact .inl (.inl ((Visited.contains_insert hx.even hsize ht.pos.1 hbase).2
            (.inl ⟨hpc', hpos'⟩)))
        · rw [Waits, List.map_append]
          exact .inr (List.mem_append_right _ hwaits)

theorem card_untried_insert (heven : v.Even) (hwidth : v.width = p.code.size)
    (hpc : p.code[t.pc]? = some inst) (ht : t.Within v.base limit)
    (hnot : ¬v.contains t.pc t.pos = true) :
    (p.untried limit (v.insert t.pc t.pos)).card < (p.untried limit v).card := by
  have hsize : t.pc < p.code.size := (Array.getElem?_eq_some_iff.1 hpc).1
  have hins {x : Nat × Nat} (hx : v.base ≤ x.2) :
      (v.insert t.pc t.pos).contains x.1 x.2 = true ↔
        x.1 = t.pc ∧ x.2 = t.pos ∨ v.contains x.1 x.2 = true :=
    Visited.contains_insert heven (hwidth ▸ hsize) ht.pos.1 hx
  refine Finset.card_lt_card (Finset.ssubset_iff_subset_ne.2 ⟨fun x hx => ?_, fun heq => ?_⟩)
  · simp only [untried, Finset.mem_filter, Finset.mem_product, Finset.mem_Icc] at hx ⊢
    refine ⟨hx.1, Bool.eq_false_iff.2 fun hmem => ?_⟩
    exact Bool.eq_false_iff.1 hx.2 ((hins hx.1.2.1).2 (.inr hmem))
  · have hmem : (t.pc, t.pos) ∈ p.untried limit v := by
      simp only [untried, Finset.mem_filter, Finset.mem_product, Finset.mem_Icc, Finset.mem_range]
      exact ⟨⟨hsize, ht.pos⟩, Bool.eq_false_iff.2 hnot⟩
    rw [← heq] at hmem
    have hno := (Finset.mem_filter.1 hmem).2
    exact Bool.eq_false_iff.1 hno ((hins (x := (t.pc, t.pos)) ht.pos.1).2 (.inl ⟨rfl, rfl⟩))

theorem not_accepts_of_tried (hx : Exploring p h limit v []) {n : Nat} {u : Thread}
    (hpos : v.base ≤ t.pos) (ht : p.Tried v t) : ¬Accepts p h limit n t u := by
  intro haccepts
  induction haccepts with
  | here hpc =>
    rcases ht with ht | ht
    · obtain ⟨inst, hinst, hne, -⟩ := hx.closed _ hpos ht
      exact hne (Option.some.inj (hinst.symm.trans hpc))
    · cases ht.symm.trans hpc
  | step hpc ht' hrest ih =>
    rcases ht with ht | ht
    · obtain ⟨inst, hinst, -, hnext⟩ := hx.closed _ hpos ht
      obtain rfl := Option.some.inj (hinst.symm.trans hpc)
      refine ih (Nat.le_trans hpos (pos_le_of_step ht')) ((hnext _ ht').resolve_right ?_)
      exact fun hwaits => nomatch hwaits
    · cases ht.symm.trans hpc

/-- A search that fails has tried all that was on its stack, and leaves nothing open. -/
theorem explore_none {fuel : Nat} {v' : Visited} (hx : Exploring p h limit v stack)
    (hfuel : stack.length + 2 * (p.untried limit v).card ≤ fuel)
    (hnone : explore p h limit .onward fuel v stack = (none, v')) :
    Exploring p h limit v' [] ∧ v'.base = v.base ∧
      ∀ t, v.base ≤ t.pos → p.Tried v t ∨ Waits stack t → p.Tried v' t := by
  induction fuel generalizing v stack with
  | zero =>
    obtain rfl : stack = [] := List.eq_nil_of_length_eq_zero (by omega)
    obtain rfl : v = v' := congrArg Prod.snd hnone
    exact ⟨hx, rfl, fun t _ ht => ht.resolve_right fun hwaits => nomatch hwaits⟩
  | succ fuel ih =>
    cases stack with
    | nil =>
      obtain rfl : v = v' := congrArg Prod.snd hnone
      exact ⟨hx, rfl, fun t _ ht => ht.resolve_right fun hwaits => nomatch hwaits⟩
    | cons top rest =>
      rw [List.length_cons] at hfuel
      -- an address that was tried, or is none, falls off the stack
      have hdrop (htop : p.Tried v top)
          (hnone : explore p h limit .onward fuel v rest = (none, v')) :
          Exploring p h limit v' [] ∧ v'.base = v.base ∧
            ∀ t, v.base ≤ t.pos → p.Tried v t ∨ Waits (top :: rest) t → p.Tried v' t := by
        obtain ⟨hx', hbase, htried⟩ := ih (hx.drop htop) (by omega) hnone
        refine ⟨hx', hbase, fun t hpos ht => htried t hpos ?_⟩
        rcases ht with ht | hwaits
        · exact .inl ht
        · rcases List.mem_cons.1 hwaits with heq | hwaits
          · obtain ⟨hpc, hpos⟩ := Prod.mk.inj heq
            exact .inl (by rwa [Tried, hpc, hpos])
          · exact .inr hwaits
      simp only [explore] at hnone
      split at hnone
      · rename_i htop
        exact hdrop (.inl htop) hnone
      · rename_i hnot
        split at hnone
        · rename_i hpc
          exact hdrop (.inr hpc) hnone
        · cases congrArg Prod.fst hnone
        · rename_i inst hne hpc
          have hwithin := hx.within top List.mem_cons_self
          have hcard := card_untried_insert hx.even hx.width hpc hwithin hnot
          have hlen := length_step h limit top inst
          obtain ⟨hx', hbase, htried⟩ := ih (hx.step hpc hne)
            (by rw [List.length_append]; omega) hnone
          have hsize : top.pc < v.width := hx.width ▸ (Array.getElem?_eq_some_iff.1 hpc).1
          refine ⟨hx', hbase, fun t hpos ht => htried t hpos ?_⟩
          rcases ht with ht | hwaits
          · exact .inl (ht.insert hx.even hsize hwithin.pos.1 hpos)
          · rcases List.mem_cons.1 hwaits with heq | hwaits
            · have hplace := Prod.mk.inj heq
              exact .inl (.inl ((Visited.contains_insert hx.even hsize hwithin.pos.1 hpos).2
                (.inl hplace)))
            · rw [Waits, List.map_append]
              exact .inr (List.mem_append_right _ hwaits)

def Succeeds (p : Program) (h : Haystack) (place : Nat) : Prop :=
  ∃ n u, Accepts p h h.size n ⟨p.entry, place, []⟩ u

theorem matchAt_accepts {start : Nat} {v v' : Visited}
    (hfound : p.matchAt h limit .onward start v = (some t, v')) :
    ∃ n, Accepts p h limit n ⟨p.entry, start, []⟩ t := by
  have hreached := explore_invariant
    (P := fun t' => ∀ n, Accepts p h limit n t' t → ∃ m, Accepts p h limit m ⟨p.entry, start, []⟩ t)
    (fun t' inst hpc ht' s hs n hn => ht' (n + 1) (.step hpc hs hn))
    (List.forall_mem_singleton.2 fun n hn => ⟨n, hn⟩) (congrArg Prod.fst hfound)
  exact hreached.1 0 (.here hreached.2)

theorem matchAt_none {start : Nat} {v v' : Visited} (hx : Exploring p h h.size v [])
    (hbase : v.base ≤ start) (hstart : start ≤ h.size)
    (hnone : p.matchAt h h.size .onward start v = (none, v')) :
    Exploring p h h.size v' [] ∧ v'.base = v.base ∧ ¬p.Succeeds h start := by
  have hcard : (p.untried h.size v).card ≤ p.code.size * (h.size + 1) := by
    refine (Finset.card_filter_le _ _).trans ?_
    rw [Finset.card_product, Finset.card_range, Nat.card_Icc]
    exact Nat.mul_le_mul_left _ (Nat.sub_le _ _)
  have hx' : Exploring p h h.size v [⟨p.entry, start, []⟩] := by
    refine ⟨hx.even, hx.width, List.forall_mem_singleton.2 (.initial _ hbase hstart), ?_⟩
    intro t hpos ht
    obtain ⟨inst, hpc, hne, hnext⟩ := hx.closed t hpos ht
    exact ⟨inst, hpc, hne, fun t' ht' =>
      .inl ((hnext t' ht').resolve_right fun hwaits => nomatch hwaits)⟩
  have hfuel : [(⟨p.entry, start, []⟩ : Thread)].length + 2 * (p.untried h.size v).card ≤
      p.enough h := by
    rw [enough, List.length_singleton, Nat.mul_assoc]
    omega
  obtain ⟨hclosed, hsame, htried⟩ := explore_none hx' hfuel hnone
  refine ⟨hclosed, hsame, fun ⟨n, u, hu⟩ => ?_⟩
  exact not_accepts_of_tried hclosed (hsame ▸ hbase)
    (htried _ hbase (.inr List.mem_cons_self)) hu

/-- What a search from a place on has to say: the first place from which the program comes to its
end, and as which thread. -/
def IsFirst (p : Program) (h : Haystack) (start : Nat) : Option (Nat × Thread) → Prop
  | none => ∀ j, start ≤ j → j ≤ h.size → ¬p.Succeeds h j
  | some (i, t) => (∃ n, Accepts p h h.size n ⟨p.entry, i, []⟩ t) ∧
      ∀ j, start ≤ j → j < i → ¬p.Succeeds h j

theorem IsFirst.of_succ {start : Nat} {found : Option (Nat × Thread)}
    (hfails : ¬p.Succeeds h start) (hfirst : p.IsFirst h (start + 1) found) :
    p.IsFirst h start found := by
  have hsplit : ∀ j, start ≤ j → j = start ∨ start + 1 ≤ j := by omega
  cases found with
  | none =>
    intro j hj hsize
    rcases hsplit j hj with rfl | hj
    · exact hfails
    · exact hfirst j hj hsize
  | some found =>
    refine ⟨hfirst.1, fun j hj hlt => ?_⟩
    rcases hsplit j hj with rfl | hj
    · exact hfails
    · exact hfirst.2 j hj hlt

theorem searchFrom_first {n start : Nat} {v : Visited} (hx : Exploring p h h.size v [])
    (hbase : v.base ≤ start) (hn : start + n = h.size + 1) :
    p.IsFirst h start (p.searchFrom h n start v) := by
  induction n generalizing start v with
  | zero => exact fun j hj hsize => absurd hj (by omega)
  | succ n ih =>
    rw [searchFrom]
    split
    · rename_i t v' hmatch
      exact ⟨matchAt_accepts hmatch, fun j hj hlt => absurd hj (Nat.not_le.2 hlt)⟩
    · rename_i v' hmatch
      obtain ⟨hx', hbase', hfails⟩ := matchAt_none hx hbase (by omega) hmatch
      exact .of_succ hfails (ih hx' (Nat.le_succ_of_le (hbase' ▸ hbase)) (by omega))

theorem search_first (p : Program) (h : Haystack) (start : Nat) :
    p.IsFirst h start (p.search h start) := by
  rcases Nat.lt_or_ge (h.size + 1) start with hstart | hstart
  · rw [search, Nat.sub_eq_zero_of_le (Nat.le_of_lt hstart)]
    exact fun j hj hsize => absurd hj (by omega)
  · exact searchFrom_first (exploring_empty start) (Nat.le_refl _) (by omega)

end Program

end RegexStudio.Linear
