import RegexStudio.Proofs.LinearSearch
import RegexStudio.Proofs.MachineSteps
import RegexStudio.Proofs.SlotUse

/-! Where the backtracking engine finds its matches. Every moment of the machine is within the text:
the place where it stands and those written down in slots are places of the text. -/

namespace RegexStudio.Backtracking

open Text (Haystack)

structure Moment.Within (counts : Nat → Bool) (size : Nat) (m : Moment) : Prop where
  pos : m.pos ≤ size
  slots : ∀ slot place, counts slot = false → Machine.slot? m slot = some place → place ≤ size

def PlacesWithin (counts : Nat → Bool) (size : Nat) (slots : Array (Option Nat)) : Prop :=
  ∀ slot place, counts slot = false → (slots[slot]?).join = some place → place ≤ size

variable {counts : Nat → Bool} {size : Nat}

namespace Machine

theorem slot?_setSlot {m : Moment} {slot slot' place : Nat} {value : Option Nat}
    (h : slot? (setSlot m slot value) slot' = some place) :
    slot = slot' ∧ value = some place ∨ slot? m slot' = some place := by
  simp only [slot?, setSlot, Array.getElem?_setIfInBounds] at h
  split at h
  · rename_i hslot
    split at h
    · exact .inl ⟨hslot, h⟩
    · cases h
  · exact .inr h

end Machine

namespace Moment.Within

open Machine (setSlot slot? setGroups)

variable {m : Moment}

theorem moved (h : m.Within counts size) {pos : Nat} (hpos : pos ≤ size) :
    Within counts size { m with pos } := ⟨hpos, h.slots⟩

theorem goto (h : m.Within counts size) (pc : Nat) : Within counts size { m with pc } :=
  ⟨h.pos, h.slots⟩

theorem atomics (h : m.Within counts size) (atomics : List Nat) :
    Within counts size { m with atomics } := ⟨h.pos, h.slots⟩

theorem setPlace (h : m.Within counts size) (slot : Nat) {value : Option Nat}
    (hvalue : ∀ place, value = some place → place ≤ size) :
    (setSlot m slot value).Within counts size := by
  refine ⟨h.pos, fun slot' place hcounts hplace => ?_⟩
  rcases Machine.slot?_setSlot hplace with ⟨-, hset⟩ | hold
  · exact hvalue place hset
  · exact h.slots slot' place hcounts hold

theorem setCounter (h : m.Within counts size) {slot : Nat} (hslot : counts slot = true)
    (value : Option Nat) : (setSlot m slot value).Within counts size := by
  refine ⟨h.pos, fun slot' place hcounts hplace => ?_⟩
  rcases Machine.slot?_setSlot hplace with ⟨rfl, -⟩ | hold
  · rw [hslot] at hcounts
    cases hcounts
  · exact h.slots slot' place hcounts hold

theorem setGroups (h : m.Within counts size) (part : LinearPart) {t : Linear.Thread} {lo : Nat}
    (ht : t.Within lo size) : (Machine.setGroups m part t).Within counts size := by
  unfold Machine.setGroups
  generalize List.range part.count = groups
  induction groups generalizing m with
  | nil => exact h
  | cons i rest ih =>
    refine ih ((h.setPlace _ fun place hplace => ?_).setPlace _ fun place hplace => ?_)
    · obtain ⟨span, hspan, rfl⟩ := Option.map_eq_some_iff.1 hplace
      exact (ht.group hspan).1.2
    · obtain ⟨span, hspan, rfl⟩ := Option.map_eq_some_iff.1 hplace
      exact (ht.group hspan).2.2

end Moment.Within

namespace Machine

variable {p : Program} {s : Search} {now after later : Moment} {inst : Inst} {pc : Nat}

theorem char?_lt {h : Haystack} {i : Nat} {c : Char} (hc : h.char? i = some c) : i < h.size :=
  (Array.getElem?_eq_some_iff.1 hc).1

theorem standsAt_le {h : Haystack} {cs : List Char} {pos : Nat} (hpos : pos ≤ h.size)
    (hstands : standsAt h cs pos = true) : pos + cs.length ≤ h.size := by
  induction cs generalizing pos with
  | nil => exact hpos
  | cons c cs ih =>
    simp only [standsAt, Bool.and_eq_true, beq_iff_eq] at hstands
    have hlt := char?_lt hstands.1
    have hle := ih hlt hstands.2
    rw [List.length_cons]
    omega

theorem placeAfter?_go_within {cs : List Char} {i n stop : Nat}
    (hstop : placeAfter?.go cs i n = some stop) : i ≤ stop ∧ stop ≤ i + cs.length := by
  induction cs generalizing i n with
  | nil =>
    cases n with
    | zero =>
      obtain rfl := Option.some.inj hstop
      exact ⟨Nat.le_refl _, Nat.le_refl _⟩
    | succ n => cases hstop
  | cons c cs ih =>
    cases n with
    | zero =>
      obtain rfl := Option.some.inj hstop
      exact ⟨Nat.le_refl _, Nat.le_add_right _ _⟩
    | succ n =>
      simp only [placeAfter?.go] at hstop
      split at hstop
      · obtain ⟨hlo, hhi⟩ := ih hstop
        rw [List.length_cons]
        omega
      · cases hstop

theorem placeAfter?_within {h : Haystack} {pos bytes stop : Nat} (hpos : pos ≤ h.size)
    (hstop : placeAfter? h pos bytes = some stop) : pos ≤ stop ∧ stop ≤ h.size := by
  obtain ⟨hlo, hhi⟩ := placeAfter?_go_within hstop
  -- as many characters as bytes at most were looked at
  simp only [Array.length_toList, Array.size_extract] at hhi
  have hsize : h.size = h.chars.size := rfl
  omega

theorem refer_within {h : Haystack} {lo hi pos stop : Nat} {ignoreCase : Bool}
    (hpos : pos ≤ h.size) (hstop : refer h lo hi pos ignoreCase = some stop) :
    pos ≤ stop ∧ stop ≤ h.size := by
  unfold refer at hstop
  dsimp only at hstop
  split at hstop
  · cases hstop
  split at hstop
  · rename_i hstands
    obtain rfl := Option.some.inj hstop
    exact ⟨Nat.le_add_right _ _, standsAt_le hpos hstands⟩
  split at hstop
  · split at hstop
    · rename_i hplace
      split at hstop
      · obtain rfl := Option.some.inj hstop
        exact placeAfter?_within hpos hplace
      · cases hstop
    · cases hstop
  · cases hstop

theorem finish_within (hcounts : ∀ slot < 2, counts slot = false)
    (hnow : now.Within counts size) : PlacesWithin counts size (finish now) := by
  unfold finish
  split
  · rename_i start stop hstart hstop
    split
    · have hle := hnow.slots 1 stop (hcounts 1 (by decide)) hstop
      exact (hnow.setPlace 0 fun place hplace => Option.some.inj hplace ▸ hle).slots
    · exact hnow.slots
  · exact hnow.slots

theorem moves_within {slots : Nat} (hfits : inst.Fits slots counts)
    (h : now.Within counts s.text.size) (hmove : inst.Moves s now after pc) :
    after.Within counts s.text.size := by
  have hpos : ∀ place, some now.pos = some place → place ≤ s.text.size :=
    fun place hplace => Option.some.inj hplace ▸ h.pos
  cases hmove with
  | any hc => exact h.moved (char?_lt hc)
  | text hstands => exact h.moved (standsAt_le h.pos hstands)
  | assertion | first | second | counted | rounds | groupSet | lastEnd => exact h
  | save => exact h.setPlace _ hpos
  | clear => exact h.setCounter hfits.2 _
  | @restore slot =>
    -- the slot holds a place, for a counter may be larger than the text
    refine h.moved ?_
    cases hslot : slot? now slot with
    | none => exact h.pos
    | some place => exact h.slots slot place hfits.2 hslot
  | countedBody | countedNext | roundsFirst => exact h.setCounter hfits.2 _
  | roundsBody | roundsNext => exact (h.setCounter hfits.2 _).setPlace _ hpos
  | back => exact h.moved (Nat.le_trans (Nat.sub_le _ _) h.pos)
  | linear ht =>
    have hwithin := Linear.Program.anchored_within h.pos ht
    exact (h.moved hwithin.pos.2).setGroups _ hwithin
  | linearBack ht =>
    have hback := (Linear.Program.anchoredBack_within ht).pos.2
    exact h.moved (Nat.le_trans hback h.pos)
  | linearBackGroups ht ht' =>
    have hback := (Linear.Program.anchoredBack_within ht).pos.2
    have hwithin := (Linear.Program.anchored_within hback ht').weaken h.pos
    exact (h.moved (Nat.le_trans hback h.pos)).setGroups _ hwithin
  | backref hplace => exact h.moved (refer_within h.pos hplace).2
  | beginAtomic | endAtomic => exact h.atomics _

theorem later_within (hcode : ∀ inst ∈ p.code, inst.Fits p.slots counts)
    (h : now.Within counts s.text.size) (hlater : p.Moves s now later) :
    later.Within counts s.text.size := by
  obtain ⟨inst, after, pc, hinst, hmove, rfl⟩ := hlater
  exact (moves_within (hcode inst (Array.mem_of_getElem? hinst)) h hmove).goto pc

theorem begin_within (hstart : s.start ≤ s.text.size) :
    (begin p s).Within counts s.text.size := by
  refine ⟨hstart, fun slot place _ hplace => ?_⟩
  simp only [begin, slot?, Array.getElem?_replicate] at hplace
  split at hplace <;> cases hplace

theorem search_within (hcounts : ∀ slot < 2, counts slot = false)
    (hcode : ∀ inst ∈ p.code, inst.Fits p.slots counts) (hstart : s.start ≤ s.text.size)
    {slots : Array (Option Nat)} (hslots : search p s = .ok (some slots)) :
    PlacesWithin counts s.text.size slots := by
  obtain ⟨last, hlast, -, rfl⟩ :=
    search_keeps (fun _ _ => later_within hcode) (begin_within hstart) hslots
  exact finish_within hcounts hlast

end Machine

namespace Regex

variable {re : Regex} {h : Haystack} {start : Nat} {skipped : Bool} {hit : Hit}

theorem compile_cases {pattern : List Char} (hre : compile pattern = .ok re) :
    ∃ parsed a, parse pattern = .ok parsed ∧ analyze parsed = .ok a ∧
      ((∃ linear, a.root.facts.hard = false ∧ compileLinear a = .ok linear ∧
        re.matcher = .linear linear a.ownMatch ∧
        re.groupNames = namesByNumber
          (if a.ownMatch then linear.groupNames.length - 1 else linear.groupNames.length)
          parsed.names) ∨
      ∃ plan, a.root.facts.hard = true ∧ Plan.make false false a.root = .ok plan ∧
        re.matcher = .machine
          (Program.ofPlan plan a.groups a.ownMatch (Program.isAnchored a.root.node)) ∧
        re.groupNames = namesByNumber a.groups parsed.names) := by
  obtain ⟨parsed, hparsed, hre⟩ := bind_eq_ok.1 hre
  obtain ⟨a, ha, hre⟩ := bind_eq_ok.1 hre
  refine ⟨parsed, a, hparsed, ha, ?_⟩
  split at hre
  · rename_i heasy
    obtain ⟨linear, hlinear, hre⟩ := bind_eq_ok.1 hre
    cases hre
    exact .inl ⟨linear, by simpa using heasy, hlinear, rfl, rfl⟩
  · rename_i hhard
    obtain ⟨plan, hplan, hre⟩ := bind_eq_ok.1 hre
    cases hre
    exact .inr ⟨plan, by simpa using hhard, hplan, rfl, rfl⟩

theorem compile_fits {pattern : List Char} {program : Program}
    (hre : compile pattern = .ok re) (hprogram : re.matcher = .machine program) :
    ∃ counts : Nat → Bool, (∀ slot < 2, counts slot = false) ∧
      ∀ inst ∈ program.code, inst.Fits program.slots counts := by
  obtain ⟨parsed, a, -, ha, ⟨linear, -, -, hlinear, -⟩ | ⟨plan, -, -, hmachine, -⟩⟩ :=
    compile_cases hre
  · cases hlinear.symm.trans hprogram
  · cases hmachine.symm.trans hprogram
    have hgroups := analyze_groups_pos ha
    obtain ⟨counts, hcounts, hfits⟩ :=
      Program.ofPlan_fits plan a.groups a.ownMatch (Program.isAnchored a.root.node)
    exact ⟨counts, fun slot hslot => hcounts slot (by omega), hfits⟩

theorem ownHit_inside (hhit : hit.start ≤ size ∧ hit.stop ≤ size)
    (hgroups : ∀ span, some span ∈ hit.groups → span.1 ≤ size ∧ span.2 ≤ size) :
    (ownHit hit).start ≤ size ∧ (ownHit hit).stop ≤ size := by
  unfold ownHit
  split
  · rename_i hspan
    exact hgroups _ (hspan ▸ List.mem_cons_self)
  · exact hhit
  · exact hhit

theorem slotsHit_inside (hcounts : ∀ slot < 2, counts slot = false) {slots : Array (Option Nat)}
    (hslots : PlacesWithin counts size slots) (groups : Nat) :
    (slotsHit groups slots).start ≤ size ∧ (slotsHit groups slots).stop ≤ size := by
  unfold slotsHit
  dsimp only
  cases hstart : (slots[2 * 0]?).join with
  | none => exact ⟨Nat.zero_le _, Nat.zero_le _⟩
  | some start =>
    cases hstop : (slots[2 * 0 + 1]?).join with
    | none => exact ⟨Nat.zero_le _, Nat.zero_le _⟩
    | some stop =>
      exact ⟨hslots 0 start (hcounts 0 (by decide)) hstart,
        hslots 1 stop (hcounts 1 (by decide)) hstop⟩

theorem find_inside {pattern : List Char} (hre : compile pattern = .ok re)
    (hstart : start ≤ h.size) (hhit : re.find h start skipped = .ok (some hit)) :
    hit.start ≤ h.size ∧ hit.stop ≤ h.size := by
  unfold find at hhit
  split at hhit
  · rename_i linear ownMatch _
    obtain ⟨found, hfound, hhit⟩ := Option.map_eq_some_iff.1 (Except.ok.inj hhit)
    obtain ⟨-, hle, hstop, hgroups⟩ := Linear.Regex.find_found hfound
    have hinside : found.start ≤ h.size ∧ found.stop ≤ h.size := ⟨Nat.le_trans hle hstop, hstop⟩
    cases ownMatch with
    | false =>
      obtain rfl : found = hit := hhit
      exact hinside
    | true =>
      obtain rfl : ownHit found = hit := hhit
      exact ownHit_inside hinside fun span hspan =>
        ⟨(hgroups span hspan).1.2, (hgroups span hspan).2.2⟩
  · rename_i program hprogram
    obtain ⟨counts, hcounts, hcode⟩ := compile_fits hre hprogram
    obtain ⟨slots, hslots, hhit⟩ := bind_eq_ok.1 hhit
    obtain ⟨slots', rfl, rfl⟩ := Option.map_eq_some_iff.1 (Except.ok.inj hhit)
    exact slotsHit_inside hcounts (Machine.search_within hcounts hcode hstart hslots) _

theorem listingFrom_inside {pattern : List Char} (hre : compile pattern = .ok re) {fuel : Nat}
    {last : Option Nat} : ∀ hit ∈ (re.listingFrom h fuel start last).hits,
      hit.start ≤ h.size ∧ hit.stop ≤ h.size := by
  induction fuel generalizing start last with
  | zero => exact fun _ hhit => nomatch hhit
  | succ fuel ih =>
    unfold listingFrom
    split
    · exact fun _ hhit => nomatch hhit
    rename_i hstart
    split
    · exact fun _ hhit => nomatch hhit
    · exact fun _ hhit => nomatch hhit
    rename_i found hfound
    have hfirst := find_inside hre (Nat.le_of_not_lt hstart) hfound
    split
    · split
      · exact ih
      · exact List.forall_mem_cons.2 ⟨hfirst, ih⟩
    · exact List.forall_mem_cons.2 ⟨hfirst, ih⟩

end Regex

end RegexStudio.Backtracking
