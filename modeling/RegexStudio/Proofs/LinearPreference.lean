import Mathlib
import RegexStudio.Proofs.LinearExploration

/-! Which of the matches that begin at one place is found: the preferred one. Among the runs of the
program that come to no address twice at the same place, it is the one whose choices come first. -/

namespace RegexStudio.Linear.Program

open Text (Haystack)

variable {p : Program} {h : Haystack} {v : Visited} {seen : List (Nat × Nat)} {t u : Thread}
  {w : List Nat}

inductive Run (p : Program) (h : Haystack) :
    List (Nat × Nat) → List Nat → Thread → Thread → Prop
  | here {seen : List (Nat × Nat)} {t : Thread} (hnew : (t.pc, t.pos) ∉ seen)
    (hpc : p.code[t.pc]? = some .accept) : Run p h seen [] t t
  | step {seen : List (Nat × Nat)} {k : Nat} {w : List Nat} {t t' u : Thread} {inst : Inst}
    (hnew : (t.pc, t.pos) ∉ seen) (hpc : p.code[t.pc]? = some inst)
    (ht' : (step h h.size .onward t inst)[k]? = some t')
    (hrest : Run p h ((t.pc, t.pos) :: seen) w t' u) : Run p h seen (k :: w) t u

def Preferred (p : Program) (h : Haystack) (t u : Thread) : Prop :=
  ∃ w, Run p h [] w t u ∧ ∀ w' u', Run p h [] w' t u' → ¬List.Lex (· < ·) w' w

/-- A set of addresses in the middle of a search: only those on the way to where the search is now
may lead to addresses not tried yet. -/
structure Descending (p : Program) (v : Visited) (h : Haystack) (seen : List (Nat × Nat)) :
    Prop where
  even : v.Even
  width : v.width = p.code.size
  way : ∀ x ∈ seen, v.base ≤ x.2 ∧ v.contains x.1 x.2 = true
  closed : ∀ t, v.base ≤ t.pos → v.contains t.pc t.pos = true → (t.pc, t.pos) ∈ seen ∨
    ∃ inst, p.code[t.pc]? = some inst ∧ inst ≠ .accept ∧
      ∀ t' ∈ step h h.size .onward t inst, p.Tried v t'

theorem Exploring.descending (hx : Exploring p h h.size v []) : Descending p v h [] := by
  refine ⟨hx.even, hx.width, fun _ hx => (nomatch hx), fun t hpos ht => .inr ?_⟩
  obtain ⟨inst, hpc, hne, hnext⟩ := hx.closed t hpos ht
  exact ⟨inst, hpc, hne, fun t' ht' =>
    (hnext t' ht').resolve_right fun hwaits => nomatch hwaits⟩

theorem mem_of_getElem?_step {inst : Inst} {k : Nat} {t' : Thread}
    (ht' : (step h h.size .onward t inst)[k]? = some t') :
    t' ∈ step h h.size .onward t inst := List.mem_of_getElem? ht'

theorem Run.not_tried (hd : Descending p v h seen) (hpos : v.base ≤ t.pos)
    (hrun : Run p h seen w t u) : ¬p.Tried v t := by
  intro ht
  induction hrun with
  | here hnew hpc =>
    rcases ht with ht | ht
    · obtain ⟨inst, hinst, hne, -⟩ := (hd.closed _ hpos ht).resolve_left hnew
      exact hne (Option.some.inj (hinst.symm.trans hpc))
    · cases ht.symm.trans hpc
  | @step seen k w t t' u inst hnew hpc ht' hrest ih =>
    rcases ht with ht | ht
    · obtain ⟨inst', hinst, -, hnext⟩ := (hd.closed t hpos ht).resolve_left hnew
      obtain rfl := Option.some.inj (hinst.symm.trans hpc)
      have hmem := mem_of_getElem?_step ht'
      refine ih ⟨hd.even, hd.width, ?_, fun s hs hin => ?_⟩
        (Nat.le_trans hpos (pos_le_of_step hmem)) (hnext t' hmem)
      · exact List.forall_mem_cons.2 ⟨⟨hpos, ht⟩, hd.way⟩
      · exact (hd.closed s hs hin).imp_left (List.mem_cons_of_mem _)
    · cases ht.symm.trans hpc

theorem Descending.insert {inst : Inst} (hd : Descending p v h seen) (hpos : v.base ≤ t.pos)
    (hpc : p.code[t.pc]? = some inst) :
    Descending p (v.insert t.pc t.pos) h ((t.pc, t.pos) :: seen) := by
  have hsize : t.pc < v.width := hd.width ▸ (Array.getElem?_eq_some_iff.1 hpc).1
  have hins {pc pos : Nat} (hle : v.base ≤ pos) :
      (v.insert t.pc t.pos).contains pc pos = true ↔
        pc = t.pc ∧ pos = t.pos ∨ v.contains pc pos = true :=
    Visited.contains_insert hd.even hsize hpos hle
  refine ⟨hd.even.insert _ _, hd.width, ?_, fun s hs hin => ?_⟩
  · refine List.forall_mem_cons.2 ⟨⟨hpos, (hins hpos).2 (.inl ⟨rfl, rfl⟩)⟩, fun x hx => ?_⟩
    obtain ⟨hle, hin⟩ := hd.way x hx
    exact ⟨hle, (hins hle).2 (.inr hin)⟩
  · rcases (hins hs).1 hin with ⟨hpc', hpos'⟩ | hold
    · exact .inl (hpc' ▸ hpos' ▸ List.mem_cons_self)
    · rcases hd.closed s hs hold with hseen | ⟨inst', hpc', hne, hnext⟩
      · exact .inl (List.mem_cons_of_mem _ hseen)
      · refine .inr ⟨inst', hpc', hne, fun s' hs' => ?_⟩
        exact (hnext s' hs').insert hd.even hsize hpos (Nat.le_trans hs (pos_le_of_step hs'))

theorem Descending.leave {inst : Inst} (hd : Descending p v h ((t.pc, t.pos) :: seen))
    (hpc : p.code[t.pc]? = some inst) (hne : inst ≠ .accept)
    (hnext : ∀ t' ∈ step h h.size .onward t inst, p.Tried v t') : Descending p v h seen := by
  refine ⟨hd.even, hd.width, fun x hx => hd.way x (List.mem_cons_of_mem _ hx), ?_⟩
  intro s hs hin
  rcases hd.closed s hs hin with hseen | hdone
  · rcases List.mem_cons.1 hseen with heq | hseen
    · -- the same address at the same place leads to the same addresses
      obtain ⟨hpc', hpos'⟩ := Prod.mk.inj heq
      refine .inr ⟨inst, hpc' ▸ hpc, hne, fun s' hs' => ?_⟩
      have hmem := List.mem_map_of_mem (f := fun s : Thread => (s.pc, s.pos)) hs'
      rw [step_place hpos'] at hmem
      obtain ⟨t', ht', heq'⟩ := List.mem_map.1 hmem
      obtain ⟨hpc'', hpos''⟩ := Prod.mk.inj heq'
      have htried := hnext t' ht'
      rwa [Tried, hpc'', hpos''] at htried
    · exact .inl hseen
  · exact .inr hdone

def FirstOf (p : Program) (h : Haystack) (seen : List (Nat × Nat)) (ts : List Thread)
    (u : Thread) : Prop :=
  ∃ k w t, ts[k]? = some t ∧ Run p h seen w t u ∧
    ∀ k' w' t' u', ts[k']? = some t' → Run p h seen w' t' u' →
      ¬List.Lex (· < ·) (k' :: w') (k :: w)

theorem FirstOf.cons {ts : List Thread} (hfirst : FirstOf p h seen ts u)
    (hnone : ∀ w' u', ¬Run p h seen w' t u') : FirstOf p h seen (t :: ts) u := by
  obtain ⟨k, w, t₀, hk, hrun, hleast⟩ := hfirst
  refine ⟨k + 1, w, t₀, by simpa using hk, hrun, fun k' w' t' u' hk' hrun' => ?_⟩
  cases k' with
  | zero =>
    obtain rfl : t = t' := by simpa using hk'
    exact absurd hrun' (hnone w' u')
  | succ k' =>
    have hnot := hleast k' w' t' u' (by simpa using hk') hrun'
    intro hlt
    cases hlt with
    | rel hlt => exact hnot (.rel (Nat.lt_of_succ_lt_succ hlt))
    | cons hlt => exact hnot (.cons hlt)

theorem FirstOf.head {ts : List Thread} (hrun : Run p h seen w t u)
    (hleast : ∀ w' u', Run p h seen w' t u' → ¬List.Lex (· < ·) w' w) :
    FirstOf p h seen (t :: ts) u := by
  refine ⟨0, w, t, rfl, hrun, fun k' w' t' u' hk' hrun' => ?_⟩
  cases k' with
  | zero =>
    obtain rfl : t = t' := by simpa using hk'
    intro hlt
    cases hlt with
    | rel hlt => exact Nat.lt_irrefl 0 hlt
    | cons hlt => exact hleast w' u' hrun' hlt
  | succ k' =>
    intro hlt
    cases hlt with
    | rel hlt => exact Nat.not_lt_zero _ hlt

/-- A search that comes to the end of the program has found the first run from the threads on top of
its stack, or it has tried all of these without success and found its run below. -/
theorem explore_first {fuel : Nat} {ts rest : List Thread} (hd : Descending p v h seen)
    (hpos : ∀ t ∈ ts, v.base ≤ t.pos)
    (hfound : (explore p h h.size .onward fuel v (ts ++ rest)).1 = some u) :
    FirstOf p h seen ts u ∨ ∃ fuel' v', fuel' ≤ fuel ∧ v'.base = v.base ∧
      (explore p h h.size .onward fuel' v' rest).1 = some u ∧ Descending p v' h seen ∧
      (∀ t, v.base ≤ t.pos → p.Tried v t → p.Tried v' t) ∧ ∀ t ∈ ts, p.Tried v' t := by
  induction fuel using Nat.strong_induction_on generalizing v seen ts rest with
  | _ fuel ih =>
    cases ts with
    | nil => exact .inr ⟨fuel, v, Nat.le_refl _, rfl, hfound, hd, fun _ _ h => h, nofun⟩
    | cons t ts =>
      obtain ⟨htop, hbelow⟩ := List.forall_mem_cons.1 hpos
      -- from a state where the top thread was tried without success on to the ones below it
      have hbeside {fuel' : Nat} {v' : Visited} (hlt : fuel' < fuel) (hbase : v'.base = v.base)
          (hd' : Descending p v' h seen)
          (hmono : ∀ s, v.base ≤ s.pos → p.Tried v s → p.Tried v' s) (htried : p.Tried v' t)
          (hfound' : (explore p h h.size .onward fuel' v' (ts ++ rest)).1 = some u) :
          FirstOf p h seen (t :: ts) u ∨ ∃ fuel' v', fuel' ≤ fuel ∧ v'.base = v.base ∧
            (explore p h h.size .onward fuel' v' rest).1 = some u ∧ Descending p v' h seen ∧
            (∀ s, v.base ≤ s.pos → p.Tried v s → p.Tried v' s) ∧
            ∀ s ∈ t :: ts, p.Tried v' s := by
        rcases ih fuel' hlt hd' (hbase ▸ hbelow) hfound' with hfirst | hrest
        · exact .inl (hfirst.cons fun w' u' hrun => hrun.not_tried hd' (hbase ▸ htop) htried)
        · obtain ⟨fuel'', v'', hle, hbase', hfound'', hd'', hmono', hall⟩ := hrest
          refine .inr ⟨fuel'', v'', by omega, hbase'.trans hbase, hfound'', hd'', ?_, ?_⟩
          · exact fun s hs h => hmono' s (hbase ▸ hs) (hmono s hs h)
          · exact List.forall_mem_cons.2 ⟨hmono' t (hbase ▸ htop) htried, hall⟩
      cases fuel with
      | zero => cases hfound
      | succ fuel =>
        simp only [List.cons_append, explore] at hfound
        split at hfound
        · rename_i htried
          exact hbeside (Nat.lt_succ_self fuel) rfl hd (fun _ _ h => h) (.inl htried) hfound
        · rename_i hnot
          have hnew : (t.pc, t.pos) ∉ seen := fun hmem => hnot (hd.way _ hmem).2
          split at hfound
          · rename_i hpc
            exact hbeside (Nat.lt_succ_self fuel) rfl hd (fun _ _ h => h) (.inr hpc) hfound
          · rename_i hpc
            obtain rfl := Option.some.inj hfound
            exact .inl (.head (.here hnew hpc) fun _ _ _ => List.not_lex_nil)
          · rename_i inst hne hpc
            have hsteps : ∀ s ∈ step h h.size .onward t inst, v.base ≤ s.pos := fun s hs =>
              Nat.le_trans htop (pos_le_of_step hs)
            rcases ih fuel (Nat.lt_succ_self fuel) (hd.insert htop hpc) hsteps hfound with
              ⟨k, w, t', hk, hrun, hleast⟩ | hrest
            · refine .inl (.head (.step hnew hpc hk hrun) fun w' u' hrun' => ?_)
              cases hrun' with
              | here _ hpc' => exact absurd (Option.some.inj (hpc.symm.trans hpc')) hne
              | step _ hpc' hk' hrun' =>
                obtain rfl := Option.some.inj (hpc.symm.trans hpc')
                exact hleast _ _ _ _ hk' hrun'
            · obtain ⟨fuel', v', hle, hbase, hfound', hd', hmono, hall⟩ := hrest
              have hsize : t.pc < v.width := hd.width ▸ (Array.getElem?_eq_some_iff.1 hpc).1
              have htried : p.Tried v' t := .inl (hd'.way _ List.mem_cons_self).2
              refine hbeside (Nat.lt_succ_of_le hle) hbase (hd'.leave hpc hne hall) ?_ htried
                hfound'
              exact fun s hs h => hmono s hs (h.insert hd.even hsize htop hs)

theorem matchAt_preferred {start : Nat} {v v' : Visited} (hx : Exploring p h h.size v [])
    (hbase : v.base ≤ start) (hfound : p.matchAt h h.size .onward start v = (some t, v')) :
    p.Preferred h ⟨p.entry, start, []⟩ t := by
  have hpos : ∀ s ∈ [(⟨p.entry, start, []⟩ : Thread)], v.base ≤ s.pos :=
    List.forall_mem_singleton.2 hbase
  have hfound' : (explore p h h.size .onward (p.enough h) v ([⟨p.entry, start, []⟩] ++ [])).1 =
      some t := congrArg Prod.fst hfound
  rcases explore_first hx.descending hpos hfound' with ⟨k, w, t', hk, hrun, hleast⟩ | hrest
  · cases k with
    | zero =>
      obtain rfl : (⟨p.entry, start, []⟩ : Thread) = t' := by simpa using hk
      refine ⟨w, hrun, fun w' u' hrun' => ?_⟩
      exact fun hlt => hleast 0 w' _ u' rfl hrun' (.cons hlt)
    | succ k => simp at hk
  · obtain ⟨fuel', v', -, -, hnone, -⟩ := hrest
    cases fuel' <;> cases hnone

theorem searchFrom_preferred {n start i : Nat} {v : Visited} (hx : Exploring p h h.size v [])
    (hbase : v.base ≤ start) (hn : start + n = h.size + 1)
    (hfound : p.searchFrom h n start v = some (i, t)) :
    p.Preferred h ⟨p.entry, i, []⟩ t := by
  induction n generalizing start v with
  | zero => cases hfound
  | succ n ih =>
    rw [searchFrom] at hfound
    split at hfound
    · rename_i hmatch
      obtain ⟨rfl, rfl⟩ := Prod.mk.inj (Option.some.inj hfound)
      exact matchAt_preferred hx hbase hmatch
    · rename_i v' hmatch
      obtain ⟨hx', hbase', -⟩ := matchAt_none hx hbase (by omega) hmatch
      exact ih hx' (Nat.le_succ_of_le (hbase' ▸ hbase)) (by omega) hfound

theorem search_preferred {start i : Nat} (hfound : p.search h start = some (i, t)) :
    p.Preferred h ⟨p.entry, i, []⟩ t := by
  rcases Nat.lt_or_ge (h.size + 1) start with hstart | hstart
  · rw [search, Nat.sub_eq_zero_of_le (Nat.le_of_lt hstart)] at hfound
    cases hfound
  · have hbase : (Visited.empty p.code.size start).base ≤ start := Nat.le_refl _
    exact searchFrom_preferred (exploring_empty start) hbase (by omega) hfound

end RegexStudio.Linear.Program
