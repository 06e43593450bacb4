import RegexStudio.Backtracking.Regex

/-! What one instruction of the machine with backtracking does. The machine keeps several moments,
but each of them comes from one earlier moment by one instruction; so what every instruction keeps
holds of all moments of a run. -/

namespace RegexStudio.Backtracking

open Machine

/-- An instruction leads from one moment to another, and goes on at an address. -/
inductive Inst.Moves (s : Search) (now : Moment) : Inst → Moment → Nat → Prop
  | any {newline : Bool} {next : Nat} {c : Char} (hc : s.text.char? now.pos = some c) :
      Moves s now (.any newline next) { now with pos := now.pos + 1 } next
  | text {cs : List Char} {next : Nat} (hstands : standsAt s.text cs now.pos = true) :
      Moves s now (.text cs next) { now with pos := now.pos + cs.length } next
  | assertion {a : Assertion} {next : Nat} (hholds : a.holds s.text now.pos = true) :
      Moves s now (.assertion a next) now next
  | first {first second : Nat} : Moves s now (.split first second) now first
  | second {first second : Nat} : Moves s now (.split first second) now second
  | save {slot next : Nat} : Moves s now (.save slot next) (setSlot now slot (some now.pos)) next
  | clear {slot next : Nat} : Moves s now (.clear slot next) (setSlot now slot (some 0)) next
  | restore {slot next : Nat} :
      Moves s now (.restore slot next) { now with pos := (slot? now slot).getD now.pos } next
  | counted {lo hi counter body next : Nat} {greedy : Bool} :
      Moves s now (.counted lo hi greedy counter body next) now next
  | countedBody {lo hi counter body next : Nat} {greedy : Bool} :
      Moves s now (.counted lo hi greedy counter body next)
        (setSlot now counter (some ((slot? now counter).getD 0 + 1))) body
  | countedNext {lo hi counter body next : Nat} {greedy : Bool} :
      Moves s now (.counted lo hi greedy counter body next)
        (setSlot now counter (some ((slot? now counter).getD 0 + 1))) next
  | rounds {lo counter place body next : Nat} {greedy : Bool} :
      Moves s now (.rounds lo greedy counter place body next) now next
  | roundsFirst {lo counter place body next : Nat} {greedy : Bool} :
      Moves s now (.rounds lo greedy counter place body next)
        (setSlot now counter (some ((slot? now counter).getD 0 + 1))) body
  | roundsBody {lo counter place body next : Nat} {greedy : Bool} :
      Moves s now (.rounds lo greedy counter place body next)
        (setSlot (setSlot now counter (some ((slot? now counter).getD 0 + 1))) place
          (some now.pos)) body
  | roundsNext {lo counter place body next : Nat} {greedy : Bool} :
      Moves s now (.rounds lo greedy counter place body next)
        (setSlot (setSlot now counter (some ((slot? now counter).getD 0 + 1))) place
          (some now.pos)) next
  | back {n next : Nat} (hn : n ≤ now.pos) :
      Moves s now (.back n next) { now with pos := now.pos - n } next
  | linear {part : LinearPart} {next : Nat} {t : Linear.Thread}
      (ht : part.program.anchored s.text now.pos s.text.size = some t) :
      Moves s now (.linear part next) (setGroups { now with pos := t.pos } part t) next
  | linearBack {mirrored : Linear.Program} {part : LinearPart} {next : Nat} {t : Linear.Thread}
      (ht : mirrored.anchoredBack s.text now.pos = some t) :
      Moves s now (.linearBack mirrored part next) { now with pos := t.pos } next
  | linearBackGroups {mirrored : Linear.Program} {part : LinearPart} {next : Nat}
      {t t' : Linear.Thread} (ht : mirrored.anchoredBack s.text now.pos = some t)
      (ht' : part.program.anchored s.text t.pos now.pos = some t') :
      Moves s now (.linearBack mirrored part next) (setGroups { now with pos := t.pos } part t')
        next
  | backref {group next lo hi pos : Nat} {ignoreCase : Bool}
      (hpos : refer s.text lo hi now.pos ignoreCase = some pos) :
      Moves s now (.backref group ignoreCase next) { now with pos } next
  | groupSet {group next : Nat} : Moves s now (.groupSet group next) now next
  | lastEnd {first : Bool} {next : Nat} : Moves s now (.lastEnd first next) now next
  | beginAtomic {next : Nat} (depth : Nat) :
      Moves s now (.beginAtomic next) { now with atomics := depth :: now.atomics } next
  | endAtomic {next : Nat} :
      Moves s now (.endAtomic next) { now with atomics := now.atomics.tail } next

def Program.Moves (p : Program) (s : Search) (now later : Moment) : Prop :=
  ∃ inst after pc, p.code[now.pc]? = some inst ∧ inst.Moves s now after pc ∧
    later = { after with pc }

def Outcome.Holds (moments : Moment → Prop) (matches' : Array (Option Nat) → Prop) :
    Outcome → Prop
  | running m => moments m.now ∧ ∀ choice ∈ m.choices, moments choice
  | matched slots => matches' slots
  | failed | overrun _ => True

namespace Machine

variable {p : Program} {s : Search} {m : Machine} {now : Moment} {P : Moment → Prop}
  {Q : Array (Option Nat) → Prop}

theorem holds_go {pc : Nat} (h : ∀ choice ∈ m.choices, P choice) (hnow : P { now with pc }) :
    (m.go now pc).Holds P Q := ⟨hnow, h⟩

theorem holds_fork {pc other : Nat} (h : ∀ choice ∈ m.choices, P choice)
    (hnow : P { now with pc }) (hother : P { now with pc := other }) :
    (m.fork now pc other).Holds P Q := by
  unfold fork
  split
  · trivial
  · exact ⟨hnow, List.forall_mem_cons.2 ⟨hother, h⟩⟩

theorem holds_fail (h : ∀ choice ∈ m.choices, P choice) : (fail m).Holds P Q := by
  unfold fail
  split
  · trivial
  · rename_i hchoices
    rw [hchoices] at h
    obtain ⟨hchoice, hrest⟩ := List.forall_mem_cons.1 h
    split
    · trivial
    · exact ⟨hchoice, hrest⟩

theorem mem_of_mem_dropTo {pc depth : Nat} {choices : List Moment} {choice : Moment}
    (h : choice ∈ (dropTo pc choices depth).1) : choice ∈ choices := by
  induction choices generalizing depth with
  | nil => exact h
  | cons top rest ih =>
    simp only [dropTo] at h
    split at h
    · exact List.mem_cons_of_mem _ h
    · exact List.mem_cons_of_mem _ (ih h)

/-- After a step every moment was noted before or comes next after the present one. -/
theorem step_moves (p : Program) (s : Search) (m : Machine) :
    (step p s m).Holds (fun later => later ∈ m.choices ∨ p.Moves s m.now later)
      (fun slots => p.code[m.now.pc]? = some .done ∧ slots = finish m.now) := by
  have hold : ∀ choice ∈ m.choices, choice ∈ m.choices ∨ p.Moves s m.now choice :=
    fun _ hchoice => .inl hchoice
  unfold step
  dsimp only
  cases hinst : p.code[m.now.pc]? with
  | none => trivial
  | some inst =>
    have hmove {after : Moment} {pc : Nat} (h : inst.Moves s m.now after pc) :
        { after with pc } ∈ m.choices ∨ p.Moves s m.now { after with pc } :=
      .inr ⟨inst, after, pc, hinst, h, rfl⟩
    cases inst with
    | done => exact ⟨rfl, rfl⟩
    | any newline next =>
      dsimp only
      split
      · rename_i c hc
        split
        · exact holds_go hold (hmove (.any hc))
        · exact holds_fail hold
      · exact holds_fail hold
    | text cs next =>
      dsimp only
      split
      · rename_i hstands
        exact holds_go hold (hmove (.text hstands))
      · exact holds_fail hold
    | assertion a next =>
      dsimp only
      split
      · rename_i hholds
        exact holds_go hold (hmove (.assertion hholds))
      · exact holds_fail hold
    | split first second => exact holds_fork hold (hmove .first) (hmove .second)
    | save slot next => exact holds_go hold (hmove .save)
    | clear slot next => exact holds_go hold (hmove .clear)
    | restore slot next => exact holds_go hold (hmove .restore)
    | counted lo hi greedy counter body next =>
      dsimp only
      split
      · exact holds_go hold (hmove .counted)
      split
      · exact holds_go hold (hmove .countedBody)
      split
      · exact holds_fork hold (hmove .countedBody) (hmove .countedNext)
      · exact holds_fork hold (hmove .countedNext) (hmove .countedBody)
    | rounds lo greedy counter place body next =>
      dsimp only
      split
      · exact holds_go hold (hmove .rounds)
      split
      · exact holds_go hold (hmove .roundsFirst)
      split
      · exact holds_fork hold (hmove .roundsBody) (hmove .roundsNext)
      · exact holds_fork hold (hmove .roundsNext) (hmove .roundsBody)
    | back n next =>
      dsimp only
      split
      · rename_i hn
        exact holds_go hold (hmove (.back hn))
      · exact holds_fail hold
    | refuted next => exact holds_fail fun choice hchoice => hold choice (mem_of_mem_dropTo hchoice)
    | linear part next =>
      dsimp only [runLinear]
      split
      · rename_i t ht
        exact holds_go hold (hmove (.linear ht))
      · exact holds_fail hold
    | linearBack mirrored part next =>
      dsimp only [runLinearBack]
      split
      · exact holds_fail hold
      · rename_i t ht
        split
        · exact holds_go hold (hmove (.linearBack ht))
        · split
          · rename_i t' ht'
            exact holds_go hold (hmove (.linearBackGroups ht ht'))
          · exact holds_fail hold
    | backref group ignoreCase next =>
      dsimp only
      split
      · split
        · rename_i pos hpos
          exact holds_go hold (hmove (.backref hpos))
        · exact holds_fail hold
      · exact holds_fail hold
    | groupSet group next =>
      dsimp only
      split
      · exact holds_go hold (hmove .groupSet)
      · exact holds_fail hold
    | lastEnd first next =>
      dsimp only
      split
      · split
        · trivial
        · exact holds_fail hold
      · exact holds_go hold (hmove .lastEnd)
    | beginAtomic next => exact holds_go hold (hmove (.beginAtomic _))
    | endAtomic next =>
      -- the choices made inside of the part are given up, which leaves older ones
      have htail := hmove (Inst.Moves.endAtomic (s := s))
      dsimp only
      split
      · rename_i hatomics
        refine holds_go hold ?_
        rw [hatomics] at htail ⊢
        exact htail
      · rename_i depth atomics hatomics
        rw [hatomics] at htail
        exact ⟨htail, fun choice hchoice => hold choice (List.mem_of_mem_drop hchoice)⟩

/-- A run that comes to a match comes to it at a moment of which all holds that instructions
keep. -/
theorem run_keeps (hkeep : ∀ now later, P now → p.Moves s now later → P later) {fuel : Nat}
    (hnow : P m.now) (hchoices : ∀ choice ∈ m.choices, P choice) {slots : Array (Option Nat)}
    (hslots : run p s fuel m = .ok (some slots)) :
    ∃ last, P last ∧ p.code[last.pc]? = some .done ∧ slots = finish last := by
  induction fuel generalizing m with
  | zero => cases hslots
  | succ fuel ih =>
    have hstep := step_moves p s m
    have hlater {later : Moment} (h : later ∈ m.choices ∨ p.Moves s m.now later) : P later :=
      h.elim (hchoices later) (hkeep m.now later hnow)
    simp only [run] at hslots
    cases hs : step p s m with
    | running m' =>
      rw [hs] at hstep hslots
      exact ih (hlater hstep.1) (fun choice hchoice => hlater (hstep.2 choice hchoice)) hslots
    | matched slots' =>
      rw [hs] at hstep hslots
      cases hslots
      exact ⟨m.now, hnow, hstep.1, hstep.2⟩
    | failed | overrun =>
      rw [hs] at hslots
      cases hslots

def begin (p : Program) (s : Search) : Moment :=
  ⟨p.entry, s.start, Array.replicate p.slots none, []⟩

theorem search_keeps (hkeep : ∀ now later, P now → p.Moves s now later → P later)
    (hbegin : P (begin p s)) {slots : Array (Option Nat)}
    (hslots : search p s = .ok (some slots)) :
    ∃ last, P last ∧ p.code[last.pc]? = some .done ∧ slots = finish last :=
  run_keeps hkeep hbegin (List.forall_mem_nil _) hslots

end Machine

end RegexStudio.Backtracking
