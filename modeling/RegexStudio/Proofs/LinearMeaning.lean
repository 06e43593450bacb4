import Mathlib
import RegexStudio.Proofs.LinearExploration

/-! What the expressions of the linear engine match, said without a program, and the proof that the
program laid down for an expression comes to its end exactly where the expression matches. -/

namespace RegexStudio.Linear

open Text (Haystack)

structure Mark where
  pos : Nat
  trail : List (Nat × Nat)
deriving DecidableEq, Repr

namespace Mark

def save (s : Mark) (slot : Nat) : Mark := ⟨s.pos, (slot, s.pos) :: s.trail⟩

def thread (s : Mark) (pc : Nat) : Thread := ⟨pc, s.pos, s.trail⟩

end Mark

def Rounds (round : Mark → Mark → Prop) : Nat → Mark → Mark → Prop
  | 0, s, s' => s' = s
  | n + 1, s, s' => ∃ m, round s m ∧ Rounds round n m s'

namespace Expr

def Matches (h : Haystack) : Expr → Mark → Mark → Prop
  | empty, s, s' => s' = s
  | set cs, s, s' => ∃ c, h.char? s.pos = some c ∧ cs.contains c = true ∧ s' = ⟨s.pos + 1, s.trail⟩
  | look l, s, s' => l.holds h s.pos = true ∧ s' = s
  | cat a b, s, s' => ∃ m, a.Matches h s m ∧ b.Matches h m s'
  | alt a b, s, s' => a.Matches h s s' ∨ b.Matches h s s'
  | rep lo hi _ sub, s, s' =>
    ∃ n, lo ≤ n ∧ (∀ most ∈ hi, n ≤ max lo most) ∧ Rounds (sub.Matches h) n s s'
  | cap index _ sub, s, s' =>
    ∃ m, sub.Matches h (s.save (2 * index)) m ∧ s' = m.save (2 * index + 1)

end Expr

variable {round : Mark → Mark → Prop} {s s' : Mark}

theorem rounds_add {m n : Nat} :
    Rounds round (m + n) s s' ↔ ∃ t, Rounds round m s t ∧ Rounds round n t s' := by
  induction m generalizing s with
  | zero =>
    rw [Nat.zero_add]
    exact ⟨fun h => ⟨s, rfl, h⟩, fun ⟨t, ht, h⟩ => (show t = s from ht) ▸ h⟩
  | succ m ih =>
    rw [Nat.add_right_comm]
    simp only [Rounds, ih]
    exact ⟨fun ⟨a, ha, t, ht, h⟩ => ⟨t, ⟨a, ha, ht⟩, h⟩,
      fun ⟨t, ⟨a, ha, ht⟩, h⟩ => ⟨a, ha, t, ht, h⟩⟩

theorem rounds_one : Rounds round 1 s s' ↔ round s s' :=
  ⟨fun ⟨_, hm, hs⟩ => (show s' = _ from hs) ▸ hm, fun h => ⟨s', h, rfl⟩⟩

namespace Program

variable {p : Program} {h : Haystack} {R S : Mark → Mark → Prop} {entry middle next : Nat}

/-- Code between two addresses that leads from a mark to all those that a relation allows. -/
structure Does (p : Program) (h : Haystack) (R : Mark → Mark → Prop) (entry next : Nat) : Prop where
  sound : ∀ {n s u}, Accepts p h h.size n (s.thread entry) u →
    ∃ s' m, m ≤ n ∧ R s s' ∧ Accepts p h h.size m (s'.thread next) u
  complete : ∀ {m s s' u}, R s s' → Accepts p h h.size m (s'.thread next) u →
    ∃ n, Accepts p h h.size n (s.thread entry) u

theorem Does.refl (p : Program) (h : Haystack) (next : Nat) :
    Does p h (fun s s' => s' = s) next next :=
  ⟨fun {n s _} hu => ⟨s, n, Nat.le_refl n, rfl, hu⟩, fun {m _ _ _} hs hu => ⟨m, hs ▸ hu⟩⟩

theorem Does.comp (hR : Does p h R entry middle) (hS : Does p h S middle next) :
    Does p h (fun s s' => ∃ m, R s m ∧ S m s') entry next := by
  refine ⟨fun {n s u} hu => ?_, fun {m s s' u} ⟨t, hst, hts⟩ hu => ?_⟩
  · obtain ⟨t, m, hm, hst, hu⟩ := hR.sound hu
    obtain ⟨s', k, hk, hts, hu⟩ := hS.sound hu
    exact ⟨s', k, Nat.le_trans hk hm, ⟨t, hst, hts⟩, hu⟩
  · obtain ⟨n, hu⟩ := hS.complete hts hu
    exact hR.complete hst hu

theorem Does.congr (hR : Does p h R entry next) (hRS : ∀ s s', R s s' ↔ S s s') :
    Does p h S entry next :=
  ⟨fun hu => let ⟨s', m, hm, hs, hu⟩ := hR.sound hu; ⟨s', m, hm, (hRS _ _).1 hs, hu⟩,
    fun hs hu => hR.complete ((hRS _ _).2 hs) hu⟩

theorem accepts_succ {n : Nat} {t u : Thread} {inst : Inst} (hpc : p.code[t.pc]? = some inst)
    (hne : inst ≠ .accept) (hu : Accepts p h h.size n t u) :
    ∃ t' m, n = m + 1 ∧ t' ∈ step h h.size .onward t inst ∧ Accepts p h h.size m t' u := by
  cases hu with
  | here hpc' => exact absurd (Option.some.inj (hpc.symm.trans hpc')) hne
  | step hpc' ht' hrest =>
    obtain rfl := Option.some.inj (hpc.symm.trans hpc')
    exact ⟨_, _, rfl, ht', hrest⟩

theorem Does.inst {inst : Inst} (hpc : p.code[entry]? = some inst) (hne : inst ≠ .accept)
    (hstep : ∀ s t, t ∈ step h h.size .onward (Mark.thread s entry) inst ↔
      ∃ s', R s s' ∧ t = s'.thread next) :
    Does p h R entry next := by
  refine ⟨fun {n s u} hu => ?_, fun {m s s' u} hs hu => ?_⟩
  · obtain ⟨t', m, rfl, ht', hu⟩ := accepts_succ hpc hne hu
    obtain ⟨s', hs, rfl⟩ := (hstep s t').1 ht'
    exact ⟨s', m, Nat.le_succ m, hs, hu⟩
  · exact ⟨m + 1, .step hpc ((hstep s _).2 ⟨s', hs, rfl⟩) hu⟩

theorem Does.split {first second : Nat} (hpc : p.code[entry]? = some (.split first second))
    (hR : Does p h R first next) (hS : Does p h S second next) :
    Does p h (fun s s' => R s s' ∨ S s s') entry next := by
  refine ⟨fun {n s u} hu => ?_, fun {m s s' u} hs hu => ?_⟩
  · obtain ⟨t', m, rfl, ht', hu⟩ := accepts_succ hpc (by simp) hu
    rcases List.mem_cons.1 ht' with rfl | ht'
    · obtain ⟨s', k, hk, hs, hu⟩ := hR.sound (s := s) hu
      exact ⟨s', k, Nat.le_succ_of_le hk, .inl hs, hu⟩
    · obtain rfl := List.mem_singleton.1 ht'
      obtain ⟨s', k, hk, hs, hu⟩ := hS.sound (s := s) hu
      exact ⟨s', k, Nat.le_succ_of_le hk, .inr hs, hu⟩
  · rcases hs with hs | hs
    · obtain ⟨n, hu⟩ := hR.complete hs hu
      exact ⟨n + 1, .step hpc List.mem_cons_self hu⟩
    · obtain ⟨n, hu⟩ := hS.complete hs hu
      exact ⟨n + 1, .step hpc (List.mem_cons_of_mem _ List.mem_cons_self) hu⟩

theorem Does.fork {greedy : Bool} {inside outside : Nat}
    (hpc : p.code[entry]? = some (branch greedy inside outside)) (hR : Does p h R inside next)
    (hS : Does p h S outside next) : Does p h (fun s s' => R s s' ∨ S s s') entry next := by
  cases greedy with
  | true => exact .split hpc hR hS
  | false => exact (Does.split hpc hS hR).congr fun s s' => or_comm

theorem Does.loop {greedy : Bool} {inside : Nat}
    (hpc : p.code[entry]? = some (branch greedy inside next)) (hR : Does p h R inside entry) :
    Does p h (fun s s' => ∃ n, Rounds R n s s') entry next := by
  have hfork : ∀ s t, t ∈ step h h.size .onward (Mark.thread s entry) (branch greedy inside next) ↔
      t = s.thread inside ∨ t = s.thread next := by
    intro s t
    cases greedy <;> simp [branch, step, Mark.thread, or_comm]
  have hne : branch greedy inside next ≠ .accept := by cases greedy <;> simp [branch]
  refine ⟨fun {n s u} hu => ?_, fun {m s s' u} hs hu => ?_⟩
  · -- each round takes a step at least, the one over the branch
    induction n using Nat.strong_induction_on generalizing s with
    | _ n ih =>
      obtain ⟨t', m, rfl, ht', hu⟩ := accepts_succ hpc hne hu
      rcases (hfork s t').1 ht' with rfl | rfl
      · obtain ⟨t, k, hk, hst, hu⟩ := hR.sound hu
        obtain ⟨s', l, hl, ⟨rounds, hrounds⟩, hu⟩ := ih k (Nat.lt_succ_of_le hk) hu
        exact ⟨s', l, Nat.le_succ_of_le (Nat.le_trans hl hk), ⟨rounds + 1, t, hst, hrounds⟩, hu⟩
      · exact ⟨s, m, Nat.le_succ m, ⟨0, rfl⟩, hu⟩
  · obtain ⟨n, hs⟩ := hs
    induction n generalizing s with
    | zero =>
      obtain rfl : s' = s := hs
      exact ⟨m + 1, .step hpc ((hfork s' _).2 (.inr rfl)) hu⟩
    | succ n ih =>
      obtain ⟨t, hst, hts⟩ := hs
      obtain ⟨k, hu⟩ := ih hts
      obtain ⟨l, hu⟩ := hR.complete hst hu
      exact ⟨l + 1, .step hpc ((hfork s _).2 (.inl rfl)) hu⟩

def Extends (code code' : Array Inst) : Prop :=
  code.size ≤ code'.size ∧ ∀ a < code.size, code'[a]? = code[a]?

theorem Extends.refl (code : Array Inst) : Extends code code := ⟨Nat.le_refl _, fun _ _ => rfl⟩

theorem Extends.trans {a b c : Array Inst} (hab : Extends a b) (hbc : Extends b c) :
    Extends a c :=
  ⟨Nat.le_trans hab.1 hbc.1, fun i hi => (hbc.2 i (Nat.lt_of_lt_of_le hi hab.1)).trans (hab.2 i hi)⟩

theorem extends_push (code : Array Inst) (inst : Inst) : Extends code (code.push inst) := by
  refine ⟨by simp, fun a ha => ?_⟩
  rw [Array.getElem?_push, if_neg (Nat.ne_of_lt ha)]

theorem Extends.push {code code' : Array Inst} (h : Extends code code') (inst : Inst) :
    Extends code (code'.push inst) := h.trans (extends_push code' inst)

def Holds (p : Program) (start : Nat) (code : Array Inst) : Prop :=
  ∀ a, start ≤ a → a < code.size → p.code[a]? = code[a]?

theorem Holds.weaken {start start' : Nat} {code : Array Inst} (h : p.Holds start code)
    (hle : start ≤ start') : p.Holds start' code := fun a ha => h a (Nat.le_trans hle ha)

theorem Holds.of_extends {start : Nat} {code code' : Array Inst} (h : p.Holds start code')
    (hcode : Extends code code') : p.Holds start code := fun a ha hlt =>
  (h a ha (Nat.lt_of_lt_of_le hlt hcode.1)).trans (hcode.2 a hlt)

theorem Holds.last {start : Nat} {code : Array Inst} {inst : Inst}
    (h : p.Holds start (code.push inst)) (hstart : start ≤ code.size) :
    p.code[code.size]? = some inst := by
  rw [h code.size hstart (by simp), Array.getElem?_push_size]

/-- A way to lay down code that adds to the code there is, and does what a relation says. -/
structure Lays (p : Program) (h : Haystack) (R : Mark → Mark → Prop)
    (lay : Nat → Array Inst → Nat × Array Inst) : Prop where
  adds : ∀ next code, Extends code (lay next code).2
  does : ∀ next code, p.Holds code.size (lay next code).2 → Does p h R (lay next code).1 next

variable {lay : Nat → Array Inst → Nat × Array Inst}

theorem Lays.congr (hR : Lays p h R lay) (hRS : ∀ s s', R s s' ↔ S s s') : Lays p h S lay :=
  ⟨hR.adds, fun next code hcode => (hR.does next code hcode).congr hRS⟩

theorem lays_copies (hR : Lays p h R lay) (n : Nat) : Lays p h (Rounds R n) (copies lay n) := by
  induction n with
  | zero => exact ⟨fun _ code => .refl code, fun next _ _ => .refl p h next⟩
  | succ n ih =>
    refine ⟨fun next code => (hR.adds next code).trans (ih.adds _ _), fun next code hcode => ?_⟩
    have hlast := hR.does next code (hcode.of_extends (ih.adds _ _))
    have hfirst := ih.does _ _ (hcode.weaken (hR.adds next code).1)
    refine (hfirst.comp hlast).congr fun s s' => ?_
    rw [rounds_add]
    exact exists_congr fun t => and_congr_right fun _ => rounds_one.symm

def AtMost (R : Mark → Mark → Prop) (k : Nat) (s s' : Mark) : Prop := ∃ n ≤ k, Rounds R n s s'

theorem atMost_succ (k : Nat) (s s' : Mark) :
    ((∃ m, R s m ∧ AtMost R k m s') ∨ s' = s) ↔ AtMost R (k + 1) s s' := by
  constructor
  · rintro (⟨m, hm, n, hn, hs⟩ | hs)
    · exact ⟨n + 1, Nat.succ_le_succ hn, m, hm, hs⟩
    · exact ⟨0, Nat.zero_le _, hs⟩
  · rintro ⟨n, hn, hs⟩
    cases n with
    | zero => exact .inr hs
    | succ n =>
      obtain ⟨m, hm, hs⟩ := hs
      exact .inl ⟨m, hm, n, Nat.le_of_succ_le_succ hn, hs⟩

theorem options_adds (hR : Lays p h R lay) (greedy : Bool) (next n entry : Nat)
    (code : Array Inst) : Extends code (options lay greedy next n entry code).2 := by
  induction n generalizing entry code with
  | zero => exact .refl code
  | succ n ih => exact ((hR.adds entry code).push _).trans (ih _ _)

theorem options_does (hR : Lays p h R lay) (greedy : Bool) (next n : Nat) {k entry : Nat}
    {code : Array Inst} (hcode : p.Holds code.size (options lay greedy next n entry code).2)
    (hentry : Does p h (AtMost R k) entry next) :
    Does p h (AtMost R (k + n)) (options lay greedy next n entry code).1 next := by
  induction n generalizing k entry code with
  | zero => exact hentry
  | succ n ih =>
    let inner := lay entry code
    let branching := inner.2.push (branch greedy inner.1 next)
    have hadds : Extends code inner.2 := hR.adds entry code
    have hbranching := hcode.of_extends (options_adds hR greedy next n inner.2.size branching)
    have hround := hR.does entry code (hbranching.of_extends (extends_push _ _))
    have hfork := Does.fork (hbranching.last hadds.1) (hround.comp hentry) (.refl p h next)
    have hle : code.size ≤ branching.size := ((hadds.push _).1)
    have hrest := ih (hcode.weaken hle) (hfork.congr (atMost_succ k))
    rwa [Nat.add_right_comm, Nat.add_assoc] at hrest

theorem lays_loop (hR : Lays p h R lay) (greedy : Bool) :
    Lays p h (fun s s' => ∃ n, Rounds R (n + 1) s s') (loop lay greedy) := by
  have hbody (next : Nat) (code : Array Inst) :
      Extends (code.push (.split next next)) (lay code.size (code.push (.split next next))).2 :=
    hR.adds _ _
  refine ⟨fun next code => ?_, fun next code hcode => ?_⟩
  · have hadds := (extends_push code (.split next next)).trans (hbody next code)
    refine ⟨by simpa [loop] using hadds.1, fun a ha => ?_⟩
    rw [loop, Array.getElem?_setIfInBounds, if_neg (Nat.ne_of_gt ha)]
    exact hadds.2 a ha
  · -- the branch is put in where only its place was held before
    have hsize : code.size < (lay code.size (code.push (.split next next))).2.size := by
      have hle := (hbody next code).1
      rw [Array.size_push] at hle
      exact hle
    have hback := hcode code.size (Nat.le_refl _) (by simpa [loop] using hsize)
    rw [loop, Array.getElem?_setIfInBounds, if_pos rfl, if_pos hsize] at hback
    have hholds : p.Holds (code.push (.split next next)).size
        (lay code.size (code.push (.split next next))).2 := by
      intro a ha hlt
      rw [Array.size_push] at ha
      have hfinal := hcode a (Nat.le_of_succ_le ha) (by simpa [loop] using hlt)
      rwa [loop, Array.getElem?_setIfInBounds, if_neg (Nat.ne_of_lt ha)] at hfinal
    have hround := hR.does _ _ hholds
    refine (hround.comp (Does.loop hback hround)).congr fun s s' => ?_
    exact ⟨fun ⟨m, hm, n, hs⟩ => ⟨n, m, hm, hs⟩, fun ⟨n, m, hm, hs⟩ => ⟨m, hm, n, hs⟩⟩

theorem lays_inst {inst : Nat → Inst} (hne : ∀ next, inst next ≠ .accept)
    (hstep : ∀ s pc next t, t ∈ step h h.size .onward (Mark.thread s pc) (inst next) ↔
      ∃ s', R s s' ∧ t = s'.thread next) :
    Lays p h R fun next code => (code.size, code.push (inst next)) :=
  ⟨fun _ code => extends_push code _, fun next code hcode =>
    .inst (hcode.last (Nat.le_refl _)) (hne next) fun s t => hstep s code.size next t⟩

theorem lays_save (slot : Nat) :
    Lays p h (fun s s' => s' = s.save slot)
      fun next code => (code.size, code.push (.save slot next)) :=
  lays_inst (fun _ => by simp) fun s pc next t => by
    simp [step, Mark.thread, Mark.save]

theorem Lays.comp {lay' : Nat → Array Inst → Nat × Array Inst} (hR : Lays p h R lay)
    (hS : Lays p h S lay') :
    Lays p h (fun s s' => ∃ m, R s m ∧ S m s') fun next code =>
      lay (lay' next code).1 (lay' next code).2 := by
  refine ⟨fun next code => (hS.adds next code).trans (hR.adds _ _), fun next code hcode => ?_⟩
  have hlast := hS.does next code (hcode.of_extends (hR.adds _ _))
  exact (hR.does _ _ (hcode.weaken (hS.adds next code).1)).comp hlast

theorem lays_counted (hR : Lays p h R lay) (lo hi : Nat) (greedy : Bool) :
    Lays p h (fun s s' => ∃ n, lo ≤ n ∧ n ≤ max lo hi ∧ Rounds R n s s') fun next code =>
      let (entry, code) := options lay greedy next (hi - lo) next code
      copies lay lo entry code := by
  have hoptions : Lays p h (AtMost R (hi - lo)) fun next code =>
      options lay greedy next (hi - lo) next code := by
    refine ⟨fun next code => options_adds hR _ _ _ _ _, fun next code hcode => ?_⟩
    have hnone : Does p h (AtMost R 0) next next := (Does.refl p h next).congr fun s s' => by
      simp [AtMost, Rounds]
    have hmost := options_does hR greedy next (hi - lo) hcode hnone
    rwa [Nat.zero_add] at hmost
  refine ((lays_copies hR lo).comp hoptions).congr fun s s' => ?_
  constructor
  · rintro ⟨m, hm, k, hk, hs⟩
    exact ⟨lo + k, Nat.le_add_right _ _, by omega, rounds_add.2 ⟨m, hm, hs⟩⟩
  · rintro ⟨n, hlo, hhi, hs⟩
    obtain ⟨k, rfl⟩ := Nat.exists_eq_add_of_le hlo
    obtain ⟨m, hm, hs⟩ := rounds_add.1 hs
    exact ⟨m, hm, k, by omega, hs⟩

theorem lays_any (hR : Lays p h R lay) (greedy : Bool) :
    Lays p h (fun s s' => ∃ n, Rounds R n s s') fun next code =>
      let (inside, code) := loop lay greedy next code
      (code.size, code.push (branch greedy inside next)) := by
  have hloop := lays_loop hR greedy
  refine ⟨fun next code => (hloop.adds next code).push _, fun next code hcode => ?_⟩
  have hround := hloop.does next code (hcode.of_extends (extends_push _ _))
  have hbranch := hcode.last (hloop.adds next code).1
  refine (Does.fork hbranch hround (.refl p h next)).congr fun s s' => ?_
  constructor
  · rintro (⟨n, hs⟩ | hs)
    · exact ⟨n + 1, hs⟩
    · exact ⟨0, hs⟩
  · rintro ⟨n, hs⟩
    cases n with
    | zero => exact .inr hs
    | succ n => exact .inl ⟨n, hs⟩

theorem lays_atLeast (hR : Lays p h R lay) (lo : Nat) (greedy : Bool) :
    Lays p h (fun s s' => ∃ n, lo + 1 ≤ n ∧ Rounds R n s s') fun next code =>
      let (inside, code) := loop lay greedy next code
      copies lay lo inside code := by
  refine ((lays_copies hR lo).comp (lays_loop hR greedy)).congr fun s s' => ?_
  constructor
  · rintro ⟨m, hm, k, hs⟩
    exact ⟨lo + (k + 1), by omega, rounds_add.2 ⟨m, hm, hs⟩⟩
  · rintro ⟨n, hlo, hs⟩
    obtain ⟨k, rfl⟩ := Nat.exists_eq_add_of_le hlo
    rw [Nat.add_right_comm, Nat.add_assoc, rounds_add] at hs
    obtain ⟨m, hm, hs⟩ := hs
    exact ⟨m, hm, k, hs⟩

theorem read_onward_size (h : Haystack) (pos : Nat) :
    Direction.onward.read h h.size pos = (h.char? pos).map fun c => (c, pos + 1) := by
  simp only [Direction.read]
  split
  · rfl
  · rename_i hpos
    rw [Haystack.char?, Array.getElem?_eq_none (Nat.le_of_not_lt hpos), Option.map_none]

/-- The code of an expression does what the expression matches. -/
theorem lays_emit (p : Program) (h : Haystack) (e : Expr) : Lays p h (e.Matches h) (emit e) := by
  induction e with
  | empty => exact ⟨fun _ code => .refl code, fun next _ _ => .refl p h next⟩
  | set cs =>
    refine lays_inst (fun _ => by simp) fun s pc next t => ?_
    simp only [step, Mark.thread, read_onward_size, Expr.Matches]
    cases h.char? s.pos with
    | none => simp
    | some c => by_cases hc : cs.contains c = true <;> simp [hc]
  | look l =>
    refine lays_inst (fun _ => by simp) fun s pc next t => ?_
    by_cases hl : l.holds h s.pos = true <;> simp [step, Mark.thread, Expr.Matches, hl]
  | cat a b iha ihb => exact iha.comp ihb
  | alt a b iha ihb =>
    refine ⟨fun next code => ((iha.adds next code).trans (ihb.adds _ _)).push _,
      fun next code hcode => ?_⟩
    have hpushed := hcode.of_extends (extends_push _ _)
    have hfirst := iha.does next code (hpushed.of_extends (ihb.adds _ _))
    have hsecond := ihb.does next _ (hpushed.weaken (iha.adds next code).1)
    exact .split (hcode.last ((iha.adds next code).trans (ihb.adds _ _)).1) hfirst hsecond
  | rep lo hi greedy sub ih =>
    cases hi with
    | some hi =>
      exact (lays_counted ih lo hi greedy).congr fun s s' => by simp [Expr.Matches]
    | none =>
      cases lo with
      | zero =>
        refine (lays_any ih greedy).congr fun s s' => ?_
        simp [Expr.Matches]
      | succ lo =>
        refine (lays_atLeast ih lo greedy).congr fun s s' => ?_
        simp [Expr.Matches]
  | cap index name sub ih =>
    refine ((lays_save (2 * index)).comp (ih.comp (lays_save (2 * index + 1)))).congr fun s s' => ?_
    simp [Expr.Matches]

/-- The program of a whole pattern comes to its end exactly where the pattern matches, and with the
slots that the match has written. -/
theorem ofExpr_accepts (h : Haystack) (e : Expr) (s : Mark) (u : Thread) :
    (∃ n, Accepts (ofExpr e) h h.size n (s.thread (ofExpr e).entry) u) ↔
      ∃ s', e.Matches h s s' ∧ u = s'.thread 0 := by
  have hlays := lays_emit (ofExpr e) h e
  have hdoes := hlays.does 0 #[.accept] fun a _ _ => rfl
  have haccept : (ofExpr e).code[0]? = some .accept := (hlays.adds 0 #[.accept]).2 0 Nat.zero_lt_one
  constructor
  · rintro ⟨n, hu⟩
    obtain ⟨s', m, -, hs, hu⟩ := hdoes.sound hu
    refine ⟨s', hs, ?_⟩
    cases hu with
    | here => rfl
    | step hpc ht' =>
      obtain rfl := Option.some.inj (haccept.symm.trans hpc)
      cases ht'
  · rintro ⟨s', hs, rfl⟩
    exact hdoes.complete hs (.here haccept)

theorem ofExpr_succeeds (h : Haystack) (e : Expr) (place : Nat) :
    (ofExpr e).Succeeds h place ↔ ∃ s', e.Matches h ⟨place, []⟩ s' := by
  have haccepts := ofExpr_accepts h e ⟨place, []⟩
  constructor
  · rintro ⟨n, u, hu⟩
    obtain ⟨s', hs, -⟩ := (haccepts u).1 ⟨n, hu⟩
    exact ⟨s', hs⟩
  · rintro ⟨s', hs⟩
    obtain ⟨n, hu⟩ := (haccepts _).2 ⟨s', hs, rfl⟩
    exact ⟨n, _, hu⟩

end Program

end RegexStudio.Linear
