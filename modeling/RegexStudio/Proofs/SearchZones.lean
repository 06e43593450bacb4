import RegexStudio.Proofs.MachineBounds

/-! Code in which a match does not begin before the search for it. Every address lies in a zone: at
the front the machine stands where the search began or further on, and some slots hold such places
there. Only the inside of a lookbehind is off the front, and what brings the machine back from there
is a place written down before. -/

namespace RegexStudio.Backtracking

structure Zone where
  /-- Whether the machine stands nowhere before the beginning of the search. -/
  front : Bool
  /-- Slots that hold a place which is not before the beginning of the search. -/
  live : List Nat

namespace Zone

/-- A zone that asks for nothing that another does not give. -/
def Leads (z z' : Zone) : Prop := (z'.front = true → z.front = true) ∧ z'.live ⊆ z.live

theorem Leads.refl (z : Zone) : z.Leads z := ⟨id, fun _ h => h⟩

theorem Leads.trans {z z' z'' : Zone} (h : z.Leads z') (h' : z'.Leads z'') : z.Leads z'' :=
  ⟨fun hfront => h.1 (h'.1 hfront), fun _ hslot => h.2 (h'.2 hslot)⟩

def forget (z : Zone) (written : Nat → Bool) : Zone :=
  { z with live := z.live.filter fun slot => !written slot }

theorem leads_forget {z : Zone} {written : Nat → Bool}
    (h : ∀ slot ∈ z.live, written slot = false) : (z.forget written).Leads z :=
  ⟨id, fun slot hslot => List.mem_filter.2 ⟨hslot, by rw [h slot hslot]; rfl⟩⟩

theorem Leads.forget {z z' : Zone} (h : z.Leads z') (written : Nat → Bool) :
    (z.forget written).Leads (z'.forget written) :=
  ⟨h.1, List.filter_subset _ h.2⟩

def note (z : Zone) (slot : Nat) : Zone :=
  { z with live := if z.front then slot :: z.live else (z.forget (· == slot)).live }

/-- A zone once the machine has returned to a place written down. -/
def back (z : Zone) (slot : Nat) : Zone := { z with front := z.live.contains slot }

def off (z : Zone) : Zone := { z with front := false }

def within (z : Zone) (inside : Bool) (slot : Nat) : Zone :=
  ⟨inside, if z.front then slot :: z.live else z.live⟩

theorem within_back (z : Zone) (inside : Bool) (slot : Nat) :
    ((z.within inside slot).back slot).Leads z := by
  refine ⟨fun hfront => by simp [within, back, hfront], ?_⟩
  unfold within
  dsimp only [back]
  split
  · exact List.subset_cons_self _ _
  · exact List.Subset.refl _

theorem note_within {z : Zone} {inside : Bool} {slot : Nat}
    (hinside : inside = true → z.front = true) (hnew : (z.forget (· == slot)).Leads z) :
    (z.note slot).Leads (z.within inside slot) := by
  refine ⟨hinside, ?_⟩
  unfold note within
  dsimp only
  split
  · exact List.Subset.refl _
  · exact hnew.2

def Goes (zones : List Zone) (z : Zone) (address : Nat) : Prop :=
  ∃ z', zones[address]? = some z' ∧ z.Leads z'

theorem Goes.of_forget {zones : List Zone} {z : Zone} {written : Nat → Bool} {address : Nat}
    (h : (z.forget written).Goes zones address) : z.Goes zones address := by
  obtain ⟨z', hz', hleads⟩ := h
  exact ⟨z', hz', hleads.1, fun _ hslot => (List.mem_filter.1 (hleads.2 hslot)).1⟩

theorem getElem?_mono {zones zones' : List Zone} (hzones : zones <+: zones') {address : Nat}
    {z : Zone} (hz : zones[address]? = some z) : zones'[address]? = some z := by
  obtain ⟨more, rfl⟩ := hzones
  rwa [List.getElem?_append_left (List.getElem?_eq_some_iff.1 hz).1]

theorem Goes.mono {zones zones' : List Zone} {z : Zone} {address : Nat} (h : Goes zones z address)
    (hzones : zones <+: zones') : Goes zones' z address := by
  obtain ⟨z', hz', hleads⟩ := h
  exact ⟨z', getElem?_mono hzones hz', hleads⟩

theorem goes_of_getElem? {zones : List Zone} {z : Zone} {address : Nat}
    (hz : zones[address]? = some z) : z.Goes zones address := ⟨z, hz, .refl z⟩

end Zone

def LinearPart.writes (part : LinearPart) (slot : Nat) : Bool :=
  decide (2 * part.first ≤ slot) && decide (slot < 2 * (part.first + part.count))

theorem LinearPart.writes_iff {part : LinearPart} {slot : Nat} :
    part.writes slot = true ↔ 2 * part.first ≤ slot ∧ slot < 2 * (part.first + part.count) := by
  rw [writes, Bool.and_eq_true, decide_eq_true_eq, decide_eq_true_eq]

def Inst.Keeps (zones : List Zone) (z : Zone) : Inst → Prop
  | .done => 0 ∈ z.live ∧ 1 ∈ z.live
  | .any _ next | .text _ next | .assertion _ next | .backref _ _ next | .groupSet _ next
  | .lastEnd _ next | .beginAtomic next | .endAtomic next => z.Goes zones next
  | .split first second => z.Goes zones first ∧ z.Goes zones second
  | .save slot next => (z.note slot).Goes zones next
  | .clear slot next => (z.forget (· == slot)).Goes zones next
  | .restore slot next => (z.back slot).Goes zones next
  | .counted _ _ _ counter body next =>
    (z.forget (· == counter)).Goes zones body ∧ (z.forget (· == counter)).Goes zones next
  | .rounds _ _ counter place body next =>
    ((z.forget (· == counter)).forget (· == place)).Goes zones body ∧
      ((z.forget (· == counter)).forget (· == place)).Goes zones next
  | .back _ next => z.off.Goes zones next
  | .refuted _ => True
  | .linear part next => (z.forget part.writes).Goes zones next
  | .linearBack _ part next => (z.off.forget part.writes).Goes zones next

theorem Inst.Keeps.mono {zones zones' : List Zone} {z : Zone} {inst : Inst}
    (h : inst.Keeps zones z) (hzones : zones <+: zones') : inst.Keeps zones' z := by
  cases inst with
  | done | refuted => exact h
  | split | counted | rounds => exact ⟨h.1.mono hzones, h.2.mono hzones⟩
  | _ => exact Zone.Goes.mono h hzones

structure Moment.Ahead (size start : Nat) (z : Zone) (m : Moment) : Prop where
  slots : m.slots.size = size
  pos : z.front = true → start ≤ m.pos
  live : ∀ slot ∈ z.live, slot < size →
    ∃ place, Machine.slot? m slot = some place ∧ start ≤ place

def Moment.Placed (zones : List Zone) (size start : Nat) (m : Moment) : Prop :=
  ∃ z, zones[m.pc]? = some z ∧ m.Ahead size start z

def BeginsFrom (start : Nat) (slots : Array (Option Nat)) : Prop :=
  ∃ place stop, (slots[0]?).join = some place ∧ (slots[1]?).join = some stop ∧ start ≤ place

variable {zones : List Zone} {size start : Nat} {z z' : Zone}

namespace Moment.Ahead

open Machine (setSlot slot?)

variable {m : Moment}

theorem leads (h : m.Ahead size start z) (hleads : z.Leads z') : m.Ahead size start z' :=
  ⟨h.slots, fun hfront => h.pos (hleads.1 hfront), fun slot hslot => h.live slot (hleads.2 hslot)⟩

theorem goto (h : m.Ahead size start z) {pc : Nat} (hgoes : z.Goes zones pc) :
    Placed zones size start { m with pc } := by
  obtain ⟨z', hz', hleads⟩ := hgoes
  have h' := h.leads hleads
  exact ⟨z', hz', h'.slots, h'.pos, h'.live⟩

theorem moved (h : m.Ahead size start z) {pos : Nat} (hpos : m.pos ≤ pos) :
    Ahead size start z { m with pos } :=
  ⟨h.slots, fun hfront => Nat.le_trans (h.pos hfront) hpos, h.live⟩

theorem off (h : m.Ahead size start z) (pos : Nat) : Ahead size start z.off { m with pos } :=
  ⟨h.slots, fun hfront => (nomatch hfront), h.live⟩

theorem atomics (h : m.Ahead size start z) (atomics : List Nat) :
    Ahead size start z { m with atomics } := ⟨h.slots, h.pos, h.live⟩

theorem setSlot (h : m.Ahead size start z) (slot : Nat) (value : Option Nat) :
    (setSlot m slot value).Ahead size start (z.forget (· == slot)) := by
  refine ⟨(Array.size_setIfInBounds ..).trans h.slots, h.pos, fun slot' hslot' hlt => ?_⟩
  obtain ⟨hlive, hne⟩ := List.mem_filter.1 hslot'
  obtain ⟨place, hplace, hle⟩ := h.live slot' hlive hlt
  have hother : slot ≠ slot' := fun heq => by simp [heq] at hne
  refine ⟨place, ?_, hle⟩
  rwa [slot?, Machine.setSlot, Array.getElem?_setIfInBounds_ne hother]

theorem note (h : m.Ahead size start z) (slot : Nat) :
    (Machine.setSlot m slot (some m.pos)).Ahead size start (z.note slot) := by
  have hset := h.setSlot slot (some m.pos)
  refine ⟨hset.slots, h.pos, fun slot' hslot' hlt => ?_⟩
  by_cases hfront : z.front = true
  · by_cases heq : slot' = slot
    · -- the slot itself now holds a place at the front
      subst heq
      refine ⟨m.pos, ?_, h.pos hfront⟩
      rw [slot?, Machine.setSlot, Array.getElem?_setIfInBounds_self, if_pos (h.slots ▸ hlt)]
      rfl
    · rw [Zone.note, if_pos hfront] at hslot'
      have hlive := (List.mem_cons.1 hslot').resolve_left heq
      exact hset.live slot' (List.mem_filter.2 ⟨hlive, by simp [heq]⟩) hlt
  · rw [Zone.note, if_neg hfront] at hslot'
    exact hset.live slot' hslot' hlt

theorem back (h : m.Ahead size start z) {slot : Nat} (hslot : slot < size) :
    Ahead size start (z.back slot) { m with pos := (slot? m slot).getD m.pos } := by
  refine ⟨h.slots, fun hfront => ?_, h.live⟩
  obtain ⟨place, hplace, hle⟩ := h.live slot (List.contains_iff_mem.1 hfront) hslot
  rw [hplace]
  exact hle

theorem setOther (h : m.Ahead size start z) {slot : Nat} (hslot : slot ∉ z.live)
    (value : Option Nat) : (Machine.setSlot m slot value).Ahead size start z :=
  (h.setSlot slot value).leads <| Zone.leads_forget fun _ hlive =>
    beq_false_of_ne fun heq => hslot (heq ▸ hlive)

theorem setGroups (h : m.Ahead size start z) (part : LinearPart) (t : Linear.Thread) :
    (Machine.setGroups m part t).Ahead size start (z.forget part.writes) := by
  have hless : z.Leads (z.forget part.writes) :=
    ⟨id, fun _ hslot => (List.mem_filter.1 hslot).1⟩
  have hbegin := h.leads hless
  -- no slot of a group is left in the zone
  have hgone : ∀ i ∈ List.range part.count, ∀ k < 2,
      2 * (part.first + i) + k ∉ (z.forget part.writes).live := by
    intro i hi k hk hslot
    have hlt := List.mem_range.1 hi
    have hwrites : part.writes (2 * (part.first + i) + k) = true :=
      LinearPart.writes_iff.2 ⟨by omega, by omega⟩
    have hspared := (List.mem_filter.1 hslot).2
    rw [hwrites] at hspared
    cases hspared
  clear h
  unfold Machine.setGroups
  generalize z.forget part.writes = z' at hgone hbegin
  generalize List.range part.count = groups at hgone
  induction groups generalizing m with
  | nil => exact hbegin
  | cons i rest ih =>
    obtain ⟨hfirst, hrest⟩ := List.forall_mem_cons.1 hgone
    exact ih ((hbegin.setOther (hfirst 0 (by decide)) _).setOther (hfirst 1 (by decide)) _) hrest

end Moment.Ahead

namespace Machine

variable {p : Program} {s : Search} {now after later : Moment} {inst : Inst} {pc : Nat}

theorem finish_begins (hsize : 2 ≤ size) (hnow : now.Ahead size start z)
    (hlive : 0 ∈ z.live ∧ 1 ∈ z.live) : BeginsFrom start (finish now) := by
  obtain ⟨place, hplace, hstart⟩ := hnow.live 0 hlive.1 (by omega)
  obtain ⟨stop, hstop, hle⟩ := hnow.live 1 hlive.2 (by omega)
  unfold finish
  rw [hplace, hstop]
  dsimp only
  split
  · -- the match begins at its end, which is at the front as well
    refine ⟨stop, stop, ?_, ?_, hle⟩
    · have hlt : 0 < now.slots.size := by rw [hnow.slots]; omega
      rw [setSlot, Array.getElem?_setIfInBounds_self, if_pos hlt]
      rfl
    · rw [setSlot, Array.getElem?_setIfInBounds_ne (by decide)]
      exact hstop
  · exact ⟨place, stop, hplace, hstop, hstart⟩

theorem moves_ahead (hkeeps : inst.Keeps zones z)
    (hrestore : ∀ slot next, inst = .restore slot next → slot < size)
    (hpos : now.pos ≤ s.text.size) (hnow : now.Ahead size start z)
    (hmove : inst.Moves s now after pc) :
    ∃ z', after.Ahead size start z' ∧ z'.Goes zones pc := by
  cases hmove with
  | any => exact ⟨z, hnow.moved (Nat.le_succ _), hkeeps⟩
  | text => exact ⟨z, hnow.moved (Nat.le_add_right _ _), hkeeps⟩
  | assertion | groupSet | lastEnd => exact ⟨z, hnow, hkeeps⟩
  | first => exact ⟨z, hnow, hkeeps.1⟩
  | second => exact ⟨z, hnow, hkeeps.2⟩
  | save => exact ⟨_, hnow.note _, hkeeps⟩
  | clear => exact ⟨_, hnow.setSlot _ _, hkeeps⟩
  | restore => exact ⟨_, hnow.back (hrestore _ _ rfl), hkeeps⟩
  | counted => exact ⟨z, hnow, hkeeps.2.of_forget⟩
  | countedBody => exact ⟨_, hnow.setSlot _ _, hkeeps.1⟩
  | countedNext => exact ⟨_, hnow.setSlot _ _, hkeeps.2⟩
  | rounds => exact ⟨z, hnow, hkeeps.2.of_forget.of_forget⟩
  | roundsFirst => exact ⟨_, hnow.setSlot _ _, hkeeps.1.of_forget⟩
  | roundsBody => exact ⟨_, (hnow.setSlot _ _).setSlot _ _, hkeeps.1⟩
  | roundsNext => exact ⟨_, (hnow.setSlot _ _).setSlot _ _, hkeeps.2⟩
  | back => exact ⟨_, hnow.off _, hkeeps⟩
  | linear ht =>
    have hle := (Linear.Program.anchored_within hpos ht).pos.1
    exact ⟨_, (hnow.moved hle).setGroups _ _, hkeeps⟩
  | linearBack => exact ⟨_, hnow.off _, hkeeps.of_forget⟩
  | linearBackGroups => exact ⟨_, (hnow.off _).setGroups _ _, hkeeps⟩
  | backref hplace => exact ⟨z, hnow.moved (refer_within hpos hplace).1, hkeeps⟩
  | beginAtomic | endAtomic => exact ⟨z, hnow.atomics _, hkeeps⟩

/-- No match begins before the search for it where the code keeps to its zones. -/
theorem search_begins {counts : Nat → Bool} (hsize : 2 ≤ p.slots)
    (hfits : ∀ inst ∈ p.code, inst.Fits p.slots counts)
    (hcode : ∀ (i : Nat) inst z, p.code[i]? = some inst → zones[i]? = some z → inst.Keeps zones z)
    (hentry : zones[p.entry]? = some ⟨true, []⟩) (hstart : s.start ≤ s.text.size)
    {slots : Array (Option Nat)} (hslots : search p s = .ok (some slots)) :
    BeginsFrom s.start slots := by
  have hbegin : (begin p s).Placed zones p.slots s.start :=
    ⟨_, hentry, Array.size_replicate, fun _ => Nat.le_refl _, List.forall_mem_nil _⟩
  have hkeep : ∀ now later,
      now.Within counts s.text.size ∧ now.Placed zones p.slots s.start → p.Moves s now later →
        later.Within counts s.text.size ∧ later.Placed zones p.slots s.start := by
    rintro now later ⟨hwithin, z, hz, hnow⟩ hlater
    refine ⟨later_within hfits hwithin hlater, ?_⟩
    obtain ⟨inst, after, pc, hinst, hmove, rfl⟩ := hlater
    have hrestore : ∀ slot next, inst = .restore slot next → slot < p.slots := by
      rintro slot next rfl
      exact (hfits _ (Array.mem_of_getElem? hinst)).1
    obtain ⟨z', hafter, hgoes⟩ :=
      moves_ahead (hcode _ inst z hinst hz) hrestore hwithin.pos hnow hmove
    exact hafter.goto hgoes
  obtain ⟨last, ⟨-, z, hz, hlast⟩, hdone, rfl⟩ :=
    search_keeps hkeep ⟨begin_within hstart, hbegin⟩ hslots
  exact finish_begins hsize hlast (hcode _ _ z hdone hz)

end Machine

def Plan.Forward (groups : Nat) : Bool → Plan → Prop
  | front, .save slot => slot = 0 ∧ front = true ∨ 2 ≤ slot ∧ slot < 2 * groups
  | front, .back _ => front = false
  | _, .linear part => ∀ slot, part.writes slot = true → 2 ≤ slot ∧ slot < 2 * groups
  | front, .linearBack _ part =>
    front = false ∧ ∀ slot, part.writes slot = true → 2 ≤ slot ∧ slot < 2 * groups
  | front, .both a b | front, .either a b => a.Forward groups front ∧ b.Forward groups front
  | front, .optional _ sub | front, .star _ sub | front, .plus _ sub | front, .counted _ _ _ sub
  | front, .rounds _ _ sub | front, .atomic sub => sub.Forward groups front
  | front, .peek sub | front, .refute sub =>
    ∃ inside, (inside = true → front = true) ∧ sub.Forward groups inside
  | front, .condition test yes no =>
    test.Forward groups front ∧ yes.Forward groups front ∧ no.Forward groups front
  | _, _ => True

structure Zone.Fits (groups slots : Nat) (z : Zone) : Prop where
  size : 0 < groups ∧ 2 * groups ≤ slots
  live : ∀ slot ∈ z.live, slot < 2 ∨ 2 * groups ≤ slot ∧ slot < slots

namespace Zone.Fits

variable {groups slots : Nat} {z : Zone}

theorem mono (h : z.Fits groups slots) {slots' : Nat} (hle : slots ≤ slots') :
    z.Fits groups slots' :=
  ⟨⟨h.size.1, Nat.le_trans h.size.2 hle⟩, fun slot hslot =>
    (h.live slot hslot).imp_right fun hold => ⟨hold.1, Nat.lt_of_lt_of_le hold.2 hle⟩⟩

theorem lt (h : z.Fits groups slots) {slot : Nat} (hslot : slot ∈ z.live) : slot < slots := by
  have hsize := h.size
  have hlive := h.live slot hslot
  omega

theorem leads_new (h : z.Fits groups slots) : (z.forget (· == slots)).Leads z :=
  leads_forget fun _ hslot => beq_false_of_ne (Nat.ne_of_lt (h.lt hslot))

theorem within (h : z.Fits groups slots) (inside : Bool) :
    (z.within inside slots).Fits groups (slots + 1) := by
  have hmono := h.mono (Nat.le_succ slots)
  refine ⟨hmono.size, fun slot hslot => ?_⟩
  change slot ∈ ite _ _ _ at hslot
  split at hslot
  · rcases List.mem_cons.1 hslot with rfl | hold
    · exact .inr ⟨h.size.2, Nat.lt_succ_self _⟩
    · exact hmono.live slot hold
  · exact hmono.live slot hslot

theorem leads_groups (h : z.Fits groups slots) {written : Nat → Bool}
    (hwritten : ∀ slot, written slot = true → 2 ≤ slot ∧ slot < 2 * groups) :
    (z.forget written).Leads z :=
  leads_forget fun slot hslot => Bool.eq_false_iff.2 fun htrue => by
    have hlive := h.live slot hslot
    have hgroup := hwritten slot htrue
    omega

end Zone.Fits

/-- Code laid down after other code, with the zones of its addresses. -/
structure Code.Laid (zones zones' : List Zone) (code code' : Code) : Prop where
  zones : zones <+: zones'
  length : zones'.length = code'.here
  here : code.here ≤ code'.here
  slots : code.slots ≤ code'.slots
  kept : ∀ i < code.here, code'.insts[i]? = code.insts[i]?
  keeps : ∀ i inst z, code.here ≤ i → code'.insts[i]? = some inst → zones'[i]? = some z →
    inst.Keeps zones' z

namespace Code

variable {zones zones' zones'' : List Zone} {z : Zone} {code code' code'' : Code} {inst : Inst}

@[simp] theorem here_push (code : Code) (inst : Inst) : (code.push inst).here = code.here + 1 :=
  Array.size_push ..

@[simp] theorem here_put (code : Code) (address : Nat) (inst : Inst) :
    (code.put address inst).here = code.here := Array.size_setIfInBounds

theorem getElem?_push (code : Code) (inst : Inst) (i : Nat) :
    (code.push inst).insts[i]? = if i = code.here then some inst else code.insts[i]? :=
  Array.getElem?_push

theorem Laid.refl (hlen : zones.length = code.here) : Laid zones zones code code where
  zones := List.prefix_rfl
  length := hlen
  here := Nat.le_refl _
  slots := Nat.le_refl _
  kept _ _ := rfl
  keeps i inst z hi hinst _ := by
    have hlt := (Array.getElem?_eq_some_iff.1 hinst).1
    exact absurd hlt (Nat.not_lt.2 hi)

theorem Laid.newSlot (hlen : zones.length = code.here) : Laid zones zones code code.newSlot.2 :=
  { Laid.refl hlen with slots := Nat.le_succ _ }

theorem Laid.trans (h : Laid zones zones' code code') (h' : Laid zones' zones'' code' code'') :
    Laid zones zones'' code code'' where
  zones := h.zones.trans h'.zones
  length := h'.length
  here := Nat.le_trans h.here h'.here
  slots := Nat.le_trans h.slots h'.slots
  kept i hi := (h'.kept i (Nat.lt_of_lt_of_le hi h.here)).trans (h.kept i hi)
  keeps i inst z hi hinst hz := by
    rcases Nat.lt_or_ge i code'.here with hlt | hge
    · -- laid down before, with a zone of its own
      have hinst' := (h'.kept i hlt).symm.trans hinst
      have hz' : zones'[i]? = some z := by
        obtain ⟨more, rfl⟩ := h'.zones
        rwa [List.getElem?_append_left (h.length ▸ hlt)] at hz
      exact (h.keeps i inst z hi hinst' hz').mono h'.zones
    · exact h'.keeps i inst z hge hinst hz

theorem Laid.push (h : Laid zones zones' code code') (z : Zone) (hinst : inst.Keeps zones' z) :
    Laid zones (zones' ++ [z]) code (code'.push inst) where
  zones := h.zones.trans (List.prefix_append _ _)
  length := by simp [h.length]
  here := by
    rw [here_push]
    exact Nat.le_succ_of_le h.here
  slots := h.slots
  kept i hi := by
    rw [← h.kept i hi, getElem?_push, if_neg (Nat.ne_of_lt (Nat.lt_of_lt_of_le hi h.here))]
  keeps i inst' z' hi hinst' hz' := by
    rw [getElem?_push] at hinst'
    split at hinst'
    · rename_i heq
      obtain rfl := Option.some.inj hinst'
      rw [heq, ← h.length, List.getElem?_concat_length] at hz'
      obtain rfl := Option.some.inj hz'
      exact hinst.mono (List.prefix_append _ _)
    · have hlt : i < zones'.length := h.length ▸ (Array.getElem?_eq_some_iff.1 hinst').1
      rw [List.getElem?_append_left hlt] at hz'
      exact (h.keeps i inst' z' hi hinst' hz').mono (List.prefix_append _ _)

theorem length_push (hlen : zones.length = code.here) :
    (zones ++ [z]).length = (code.push inst).here := by
  rw [here_push, List.length_append, List.length_singleton, hlen]

theorem Laid.before (h : Laid (zones ++ [z]) zones' code code') : zones <+: zones' :=
  (List.prefix_append _ _).trans h.zones

theorem getElem?_here (hlen : zones.length = code.here) (z : Zone) :
    (zones ++ [z])[code.here]? = some z := by
  rw [← hlen, List.getElem?_concat_length]

theorem Laid.put {hole : Inst} (h : Laid (zones ++ [z]) zones' (code.push hole) code')
    (hlen : zones.length = code.here) (hinst : inst.Keeps zones' z) :
    Laid zones zones' code (code'.put code.here inst) where
  zones := (List.prefix_append _ _).trans h.zones
  length := by rw [here_put, h.length]
  here := by
    have hle := h.here
    rw [here_push] at hle
    rw [here_put]
    exact Nat.le_of_succ_le hle
  slots := h.slots
  kept i hi := by
    rw [Code.put, Array.getElem?_setIfInBounds_ne (Nat.ne_of_gt hi),
      h.kept i (here_push code hole ▸ Nat.lt_succ_of_lt hi), getElem?_push,
      if_neg (Nat.ne_of_lt hi)]
  keeps i inst' z' hi hinst' hz' := by
    rw [Code.put, Array.getElem?_setIfInBounds] at hinst'
    split at hinst'
    · rename_i heq
      subst heq
      split at hinst'
      · obtain rfl := Option.some.inj hinst'
        obtain ⟨more, rfl⟩ := h.zones
        rw [List.append_assoc, ← hlen, List.getElem?_append_right (Nat.le_refl _),
          Nat.sub_self] at hz'
        exact Option.some.inj hz' ▸ hinst
      · cases hinst'
    · rename_i hne
      refine h.keeps i inst' z' ?_ hinst' hz'
      rw [here_push]
      exact Nat.lt_of_le_of_ne hi hne

end Code

namespace Program

theorem branch_keeps {greedy : Bool} {inside outside : Nat} (hinside : z.Goes zones inside)
    (houtside : z.Goes zones outside) : (branch greedy inside outside).Keeps zones z := by
  cases greedy
  · exact ⟨houtside, hinside⟩
  · exact ⟨hinside, houtside⟩

/-- A plan laid down before an address of a zone begins in the same zone. -/
theorem emit_laid {groups : Nat} (plan : Plan) {zones : List Zone} {z : Zone} {code : Code}
    {next : Nat} (hplan : plan.Forward groups z.front) (hfits : z.Fits groups code.slots)
    (hlen : zones.length = code.here) (hnext : zones[next]? = some z) :
    ∃ zones', Code.Laid zones zones' code (emit plan next code).2 ∧
      zones'[(emit plan next code).1]? = some z := by
  induction plan generalizing zones z code next with
  | nothing => exact ⟨zones, .refl hlen, hnext⟩
  | any | text | assertion | backref | groupSet | lastEnd =>
    exact ⟨_, .push (.refl hlen) z (Zone.goes_of_getElem? hnext), Code.getElem?_here hlen z⟩
  | save slot =>
    refine ⟨_, .push (.refl hlen) z ⟨z, hnext, id, ?_⟩, Code.getElem?_here hlen z⟩
    unfold Zone.note
    split
    · exact List.subset_cons_self _ _
    · rename_i hfront
      have hgroup := hplan.resolve_left fun h => hfront h.2
      exact (hfits.leads_groups fun slot' heq => by rwa [beq_iff_eq.1 heq]).2
  | back n =>
    have hoff : z.off.Leads z := ⟨fun hfront => absurd hfront (by rw [hplan]; decide), fun _ h => h⟩
    exact ⟨_, .push (.refl hlen) z ⟨z, hnext, hoff⟩, Code.getElem?_here hlen z⟩
  | linear part =>
    exact ⟨_, .push (.refl hlen) z ⟨z, hnext, hfits.leads_groups hplan⟩,
      Code.getElem?_here hlen z⟩
  | linearBack mirrored part =>
    have hoff : (z.off.forget part.writes).Leads z :=
      ⟨fun hfront => absurd hfront (by rw [hplan.1]; decide), (hfits.leads_groups hplan.2).2⟩
    exact ⟨_, .push (.refl hlen) z ⟨z, hnext, hoff⟩, Code.getElem?_here hlen z⟩
  | both a b iha ihb =>
    obtain ⟨zones₁, hlaid₁, hmiddle⟩ := ihb hplan.2 hfits hlen hnext
    obtain ⟨zones₂, hlaid₂, hentry⟩ :=
      iha hplan.1 (hfits.mono hlaid₁.slots) hlaid₁.length hmiddle
    exact ⟨zones₂, hlaid₁.trans hlaid₂, hentry⟩
  | either a b iha ihb =>
    obtain ⟨zones₁, hlaid₁, hfirst⟩ := iha hplan.1 hfits hlen hnext
    obtain ⟨zones₂, hlaid₂, hsecond⟩ := ihb hplan.2 (hfits.mono hlaid₁.slots) hlaid₁.length
      (Zone.getElem?_mono hlaid₁.zones hnext)
    have hlaid := hlaid₁.trans hlaid₂
    exact ⟨_, hlaid.push z ⟨Zone.goes_of_getElem? (Zone.getElem?_mono hlaid₂.zones hfirst),
      Zone.goes_of_getElem? hsecond⟩, Code.getElem?_here hlaid.length z⟩
  | optional greedy sub ih =>
    obtain ⟨zones₁, hlaid, hinside⟩ := ih hplan hfits hlen hnext
    exact ⟨_, hlaid.push z (branch_keeps (Zone.goes_of_getElem? hinside)
      (Zone.goes_of_getElem? (Zone.getElem?_mono hlaid.zones hnext))),
      Code.getElem?_here hlaid.length z⟩
  | star greedy sub ih =>
    -- the head of a loop is laid down last, at an address kept open for it
    obtain ⟨zones₁, hlaid, hinside⟩ := @ih _ z (code.push .done) code.here hplan hfits
      (Code.length_push hlen) (Code.getElem?_here hlen z)
    have hnext' := Zone.getElem?_mono hlaid.before hnext
    have hstart := Zone.getElem?_mono hlaid.zones (Code.getElem?_here hlen z)
    exact ⟨zones₁, hlaid.put hlen (branch_keeps (Zone.goes_of_getElem? hinside)
      (Zone.goes_of_getElem? hnext')), hstart⟩
  | plus greedy sub ih =>
    obtain ⟨zones₁, hlaid, hinside⟩ := @ih _ z (code.push .done) code.here hplan hfits
      (Code.length_push hlen) (Code.getElem?_here hlen z)
    have hnext' := Zone.getElem?_mono hlaid.before hnext
    exact ⟨zones₁, hlaid.put hlen (branch_keeps (Zone.goes_of_getElem? hinside)
      (Zone.goes_of_getElem? hnext')), hinside⟩
  | counted lo hi greedy sub ih =>
    have hlen₁ : zones.length = code.newSlot.2.here := hlen
    obtain ⟨zones₁, hlaid, hinside⟩ := @ih _ z (code.newSlot.2.push .done) code.newSlot.2.here
      hplan (hfits.mono (Nat.le_succ _)) (Code.length_push hlen₁) (Code.getElem?_here hlen₁ z)
    have hnext' := Zone.getElem?_mono hlaid.before hnext
    have hstart := Zone.getElem?_mono hlaid.zones (Code.getElem?_here hlen₁ z)
    have hnew := hfits.leads_new
    have hinst : Inst.Keeps zones₁ z (.counted lo hi greedy code.slots _ next) :=
      ⟨⟨z, hinside, hnew⟩, z, hnext', hnew⟩
    have hput := (Code.Laid.newSlot hlen).trans (hlaid.put hlen₁ hinst)
    exact ⟨_, hput.push z ⟨z, hstart, hnew⟩, Code.getElem?_here hput.length z⟩
  | rounds lo greedy sub ih =>
    have hlen₁ : zones.length = code.newSlot.2.newSlot.2.here := hlen
    have hfits₁ : z.Fits groups code.newSlot.2.slots := hfits.mono (Nat.le_succ _)
    obtain ⟨zones₁, hlaid, hinside⟩ := @ih _ z (code.newSlot.2.newSlot.2.push .done)
      code.newSlot.2.newSlot.2.here hplan (hfits₁.mono (Nat.le_succ _)) (Code.length_push hlen₁)
      (Code.getElem?_here hlen₁ z)
    have hnext' := Zone.getElem?_mono hlaid.before hnext
    have hstart := Zone.getElem?_mono hlaid.zones (Code.getElem?_here hlen₁ z)
    have hnew := hfits.leads_new
    have hboth := (hnew.forget (· == code.slots + 1)).trans hfits₁.leads_new
    have hinst : Inst.Keeps zones₁ z (.rounds lo greedy code.slots (code.slots + 1) _ next) :=
      ⟨⟨z, hinside, hboth⟩, z, hnext', hboth⟩
    have hput := ((Code.Laid.newSlot hlen).trans (Code.Laid.newSlot hlen)).trans
      (hlaid.put hlen₁ hinst)
    exact ⟨_, hput.push z ⟨z, hstart, hnew⟩, Code.getElem?_here hput.length z⟩
  | peek sub ih =>
    obtain ⟨inside, hfront, hsub⟩ := hplan
    -- at the front the place to return to is no earlier than the beginning of the search
    have hlen₁ : zones.length = code.newSlot.2.here := hlen
    have hrestore : Inst.Keeps zones (z.within inside code.slots) (.restore code.slots next) :=
      ⟨z, hnext, z.within_back inside code.slots⟩
    have hstop := (Code.Laid.newSlot hlen).push _ hrestore
    obtain ⟨zones₁, hlaid, hinside⟩ := @ih _ (z.within inside code.slots) _ code.newSlot.2.here
      hsub (hfits.within inside) hstop.length (Code.getElem?_here hlen₁ _)
    have hall := hstop.trans hlaid
    exact ⟨_, hall.push z ⟨_, hinside, Zone.note_within hfront hfits.leads_new⟩,
      Code.getElem?_here hall.length z⟩
  | refute sub ih =>
    obtain ⟨inside, hfront, hsub⟩ := hplan
    have hstop : Code.Laid zones (zones ++ [⟨inside, z.live⟩]) code (code.push (.refuted next)) :=
      .push (.refl hlen) _ trivial
    obtain ⟨zones₁, hlaid, hinside⟩ := @ih _ ⟨inside, z.live⟩ (code.push (.refuted next))
      code.here hsub
      ⟨hfits.size, hfits.live⟩ hstop.length (Code.getElem?_here hlen _)
    have hall := hstop.trans hlaid
    have hsplit : Inst.Keeps zones₁ z (.split _ next) :=
      ⟨⟨_, hinside, hfront, List.Subset.refl _⟩,
        Zone.goes_of_getElem? (Zone.getElem?_mono hall.zones hnext)⟩
    exact ⟨_, hall.push z hsplit, Code.getElem?_here hall.length z⟩
  | atomic sub ih =>
    have hstop : Code.Laid zones (zones ++ [z]) code (code.push (.endAtomic next)) :=
      .push (.refl hlen) z (Zone.goes_of_getElem? hnext)
    obtain ⟨zones₁, hlaid, hinside⟩ := @ih _ z (code.push (.endAtomic next)) code.here hplan
      hfits hstop.length (Code.getElem?_here hlen z)
    have hall := hstop.trans hlaid
    exact ⟨_, hall.push z (Zone.goes_of_getElem? hinside), Code.getElem?_here hall.length z⟩
  | condition test yes no iht ihy ihn =>
    obtain ⟨htest, hyes, hno⟩ := hplan
    obtain ⟨zones₁, hlaid₁, hno⟩ := ihn hno hfits hlen hnext
    obtain ⟨zones₂, hlaid₂, hyes⟩ := ihy hyes (hfits.mono hlaid₁.slots) hlaid₁.length
      (Zone.getElem?_mono hlaid₁.zones hnext)
    have hbranches := hlaid₁.trans hlaid₂
    have hend : Inst.Keeps zones₂ z (.endAtomic _) := Zone.goes_of_getElem? hyes
    have hstop := hbranches.push z hend
    obtain ⟨zones₃, hlaid₃, htest⟩ := @iht _ z _ _ htest (hfits.mono hstop.slots) hstop.length
      (Code.getElem?_here hbranches.length z)
    have hall := hstop.trans hlaid₃
    -- the test is one way to go on, and where it fails the other branch is taken
    have hno' := Zone.getElem?_mono hlaid₃.before (Zone.getElem?_mono hlaid₂.zones hno)
    have hsplit : Inst.Keeps zones₃ z (.split _ _) :=
      ⟨Zone.goes_of_getElem? htest, Zone.goes_of_getElem? hno'⟩
    have hstart := hall.push z hsplit
    have hbegin : Inst.Keeps (zones₃ ++ [z]) z (.beginAtomic _) :=
      Zone.goes_of_getElem? (Code.getElem?_here hall.length z)
    refine ⟨_, hstart.push z hbegin, ?_⟩
    have hhere := Code.getElem?_here hstart.length z
    rwa [Code.here_push] at hhere

theorem ofPlan_own_laid {groups : Nat} (hgroups : 0 < groups) {inner rest : Plan}
    (hinner : inner.Forward groups true) (hrest : rest.Forward groups true) (anchored : Bool) :
    let program :=
      ofPlan (.both (.both (.save 0) (.both inner (.save 1))) rest) groups true anchored
    ∃ zones : List Zone, zones[program.entry]? = some ⟨true, []⟩ ∧ 2 ≤ program.slots ∧
      ∀ (i : Nat) inst z, program.code[i]? = some inst → zones[i]? = some z →
        inst.Keeps zones z := by
  have hfits {z : Zone} (hz : ∀ slot ∈ z.live, slot < 2) {slots : Nat} (hle : 2 * groups ≤ slots) :
      z.Fits groups slots := ⟨⟨hgroups, hle⟩, fun slot hslot => .inl (hz slot hslot)⟩
  -- from the end of the program to its start
  have hdone : Code.Laid [] [⟨true, [0, 1]⟩] ⟨#[], 2 * groups⟩ ⟨#[.done], 2 * groups⟩ :=
    .push (.refl rfl) ⟨true, [0, 1]⟩ (by simp [Inst.Keeps])
  obtain ⟨zones₀, hlaid₀, hafter⟩ := @emit_laid groups rest _ ⟨true, [0, 1]⟩ _ 0 hrest
    (hfits (by simp) hdone.slots) hdone.length rfl
  have htail := hdone.trans hlaid₀
  have hsave : Inst.Keeps zones₀ ⟨true, [0]⟩ (.save 1 _) :=
    ⟨⟨true, [0, 1]⟩, hafter, id, by simp [Zone.note]⟩
  have hstop := htail.push ⟨true, [0]⟩ hsave
  obtain ⟨zones₁, hlaid₁, hmatch⟩ := @emit_laid groups inner _ ⟨true, [0]⟩ _ _ hinner
    (hfits (by simp) hstop.slots) hstop.length (Code.getElem?_here htail.length _)
  have hbody := hstop.trans hlaid₁
  have hstart : Inst.Keeps zones₁ ⟨true, []⟩ (.save 0 _) :=
    ⟨⟨true, [0]⟩, hmatch, id, by simp [Zone.note]⟩
  have hwhole := hbody.push ⟨true, []⟩ hstart
  have hentry := Code.getElem?_here hbody.length ⟨true, []⟩
  have hpos : 2 ≤ 2 * groups := by omega
  cases anchored with
  | true =>
    exact ⟨_, hentry, Nat.le_trans hpos hwhole.slots, fun i inst z =>
      hwhole.keeps i inst z (Nat.zero_le i)⟩
  | false =>
    obtain ⟨zones₂, hlaid₂, hentry₂⟩ := @emit_laid groups (.star false (.any true)) _ ⟨true, []⟩
      _ _ trivial (hfits (by simp) hwhole.slots) hwhole.length hentry
    have hall := hwhole.trans hlaid₂
    exact ⟨_, hentry₂, Nat.le_trans hpos hall.slots, fun i inst z =>
      hall.keeps i inst z (Nat.zero_le i)⟩

theorem ofPlan_nothing (plan : Plan) (groups : Nat) (anchored : Bool) :
    ofPlan plan groups true anchored = ofPlan (.both .nothing plan) groups true anchored := by
  cases anchored <;> rfl

theorem ofPlan_eq_own (plan : Plan) (groups : Nat) (anchored : Bool) :
    ofPlan plan groups false anchored =
      ofPlan (.both (.both (.save 0) (.both plan (.save 1))) .nothing) groups true anchored := by
  cases anchored <;> rfl

end Program

end RegexStudio.Backtracking
