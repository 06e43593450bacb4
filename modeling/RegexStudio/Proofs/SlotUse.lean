import RegexStudio.Backtracking.Regex
import RegexStudio.Proofs.Except

/-! What the slots of a program are used for. Some hold counters of a repetition, all others hold
places in the text, and no instruction takes a counter for a place. The slots of the whole match are
there in every program, and hold places. -/

namespace RegexStudio.Backtracking

def Inst.Fits (slots : Nat) (counts : Nat → Bool) : Inst → Prop
  | .clear slot _ | .counted _ _ _ slot _ _ | .rounds _ _ slot _ _ _ =>
    slot < slots ∧ counts slot = true
  | .restore slot _ => slot < slots ∧ counts slot = false
  | _ => True

theorem Inst.Fits.mono {slots slots' : Nat} {counts counts' : Nat → Bool} {inst : Inst}
    (h : inst.Fits slots counts) (hslots : slots ≤ slots')
    (hcounts : ∀ slot < slots, counts' slot = counts slot) : inst.Fits slots' counts' := by
  cases inst with
  | clear slot | counted _ _ _ slot | rounds _ _ slot | restore slot =>
    exact ⟨Nat.lt_of_lt_of_le h.1 hslots, (hcounts slot h.1).trans h.2⟩
  | _ => trivial

namespace Code

def Fits (counts : Nat → Bool) (code : Code) : Prop :=
  ∀ inst ∈ code.insts, inst.Fits code.slots counts

/-- Code that came from other code: the slots that were there are used as before. -/
def Grown (counts : Nat → Bool) (code code' : Code) : Prop :=
  ∃ counts', (∀ slot < code.slots, counts' slot = counts slot) ∧ code.slots ≤ code'.slots ∧
    code'.Fits counts'

variable {counts counts' : Nat → Bool} {code code' code'' : Code}

theorem Fits.grown (h : code.Fits counts) : Grown counts code code :=
  ⟨counts, fun _ _ => rfl, Nat.le_refl _, h⟩

theorem Grown.weaken (h : Grown counts' code' code'')
    (hcounts : ∀ slot < code.slots, counts' slot = counts slot)
    (hslots : code.slots ≤ code'.slots) : Grown counts code code'' := by
  obtain ⟨counts₁, hagree, hslots₁, hfits⟩ := h
  refine ⟨counts₁, fun slot hslot => ?_, Nat.le_trans hslots hslots₁, hfits⟩
  rw [hagree slot (Nat.lt_of_lt_of_le hslot hslots), hcounts slot hslot]

theorem Fits.push (h : code.Fits counts) (inst : Inst) (hinst : inst.Fits code.slots counts) :
    (code.push inst).Fits counts := by
  intro i hi
  rcases Array.mem_push.1 hi with hi | rfl
  · exact h i hi
  · exact hinst

theorem Fits.put (h : code.Fits counts) {inst : Inst} (hinst : inst.Fits code.slots counts)
    (address : Nat) : (code.put address inst).Fits counts := by
  intro i hi
  rcases Array.mem_or_eq_of_mem_setIfInBounds hi with hi | rfl
  · exact h i hi
  · exact hinst

theorem Grown.push (h : Grown counts code code') {inst : Inst}
    (hinst : ∀ counts', (∀ slot < code.slots, counts' slot = counts slot) →
      code.slots ≤ code'.slots → inst.Fits code'.slots counts') :
    Grown counts code (code'.push inst) := by
  obtain ⟨counts', hagree, hslots, hfits⟩ := h
  exact ⟨counts', hagree, hslots, hfits.push inst (hinst counts' hagree hslots)⟩

theorem Grown.put (h : Grown counts code code') {inst : Inst}
    (hinst : ∀ counts', (∀ slot < code.slots, counts' slot = counts slot) →
      code.slots ≤ code'.slots → inst.Fits code'.slots counts') (address : Nat) :
    Grown counts code (code'.put address inst) := by
  obtain ⟨counts', hagree, hslots, hfits⟩ := h
  exact ⟨counts', hagree, hslots, hfits.put (hinst counts' hagree hslots) address⟩

theorem Fits.newSlot (h : code.Fits counts) (use : Bool) :
    ∃ counts', counts' code.slots = use ∧ (∀ slot < code.slots, counts' slot = counts slot) ∧
      code.newSlot.2.Fits counts' := by
  refine ⟨fun slot => if slot = code.slots then use else counts slot, if_pos rfl,
    fun slot hslot => if_neg (Nat.ne_of_lt hslot), fun inst hinst => ?_⟩
  exact (h inst hinst).mono (Nat.le_succ _) fun slot hslot => if_neg (Nat.ne_of_lt hslot)

end Code

namespace Program

theorem branch_fits (greedy : Bool) (inside outside slots : Nat) (counts : Nat → Bool) :
    (branch greedy inside outside).Fits slots counts := by
  cases greedy <;> trivial

/-- Laying down a plan grows the code: every counter and every place noted gets a slot of its
own. -/
theorem emit_grown (plan : Plan) {code : Code} {counts : Nat → Bool} (h : code.Fits counts)
    (next : Nat) : Code.Grown counts code (emit plan next code).2 := by
  induction plan generalizing code counts next with
  | nothing => exact h.grown
  | any | text | assertion | save | back | linear | linearBack | backref | groupSet | lastEnd =>
    exact h.grown.push fun _ _ _ => trivial
  | both a b iha ihb =>
    obtain ⟨counts₁, hagree, hslots, hfits⟩ := ihb h next
    exact (iha hfits _).weaken hagree hslots
  | either a b iha ihb =>
    obtain ⟨counts₁, hagree, hslots, hfits⟩ := iha h next
    exact ((ihb hfits next).weaken hagree hslots).push fun _ _ _ => trivial
  | optional greedy sub ih =>
    exact (ih h next).push fun _ _ _ => branch_fits ..
  | star greedy sub ih | plus greedy sub ih =>
    have hbody := ih (h.push .done trivial) code.here
    exact Code.Grown.put hbody (fun _ _ _ => branch_fits ..) code.here
  | counted lo hi greedy sub ih =>
    -- the body finds the counter in use, and keeps off it
    obtain ⟨counts₁, huse, hagree, hfits⟩ := h.newSlot true
    have hbody := ih (hfits.push .done trivial) code.newSlot.2.here
    have hcounter : ∀ (counts' : Nat → Bool) (slots : Nat),
        (∀ slot < code.slots + 1, counts' slot = counts₁ slot) → code.slots + 1 ≤ slots →
          code.slots < slots ∧ counts' code.slots = true := fun counts' slots hcounts hslots =>
      ⟨hslots, (hcounts code.slots (Nat.lt_succ_self _)).trans huse⟩
    refine Code.Grown.weaken (Code.Grown.push (Code.Grown.put hbody ?_ _) ?_) hagree (Nat.le_succ _)
    · exact fun counts' => hcounter counts' _
    · exact fun counts' => hcounter counts' _
  | rounds lo greedy sub ih =>
    obtain ⟨counts₁, huse, hagree₁, hfits₁⟩ := h.newSlot true
    obtain ⟨counts₂, -, hagree₂, hfits₂⟩ := hfits₁.newSlot false
    have hbody := ih (hfits₂.push .done trivial) code.newSlot.2.newSlot.2.here
    have hcounter : ∀ (counts' : Nat → Bool) (slots : Nat),
        (∀ slot < code.slots + 2, counts' slot = counts₂ slot) → code.slots + 2 ≤ slots →
          code.slots < slots ∧ counts' code.slots = true := fun counts' slots hcounts hslots =>
      ⟨by omega, (hcounts code.slots (by omega)).trans
        ((hagree₂ code.slots (Nat.lt_succ_self _)).trans huse)⟩
    have hone : code.slots ≤ code.newSlot.2.slots := Nat.le_succ _
    have htwo : code.newSlot.2.slots ≤ (code.newSlot.2.newSlot.2.push .done).slots := Nat.le_succ _
    refine Code.Grown.weaken (Code.Grown.weaken ?_ hagree₂ htwo) hagree₁ hone
    refine Code.Grown.push (Code.Grown.put hbody ?_ _) ?_
    · exact fun counts' => hcounter counts' _
    · exact fun counts' => hcounter counts' _
  | peek sub ih =>
    obtain ⟨counts₁, huse, hagree, hfits⟩ := h.newSlot false
    have hplace : Inst.Fits (code.slots + 1) counts₁ (.restore code.slots next) :=
      ⟨Nat.lt_succ_self _, huse⟩
    have hbody := ih (hfits.push _ hplace) code.newSlot.2.here
    exact (hbody.weaken hagree (Nat.le_succ _)).push fun _ _ _ => trivial
  | refute sub ih =>
    have hbody := ih (h.push (.refuted next) trivial) code.here
    exact Code.Grown.push hbody fun _ _ _ => trivial
  | atomic sub ih =>
    have hbody := ih (h.push (.endAtomic next) trivial) code.here
    exact Code.Grown.push hbody fun _ _ _ => trivial
  | condition test yes no iht ihy ihn =>
    obtain ⟨counts₁, hagree₁, hslots₁, hfits₁⟩ := ihn h next
    obtain ⟨counts₂, hagree₂, hslots₂, hfits₂⟩ := ihy hfits₁ next
    have hyes := hfits₂.push (.endAtomic (emit yes next (emit no next code).2).1) trivial
    have htest := iht hyes (emit yes next (emit no next code).2).2.here
    have hall := (Code.Grown.weaken htest hagree₂ hslots₂).weaken hagree₁ hslots₁
    refine Code.Grown.push (Code.Grown.push hall ?_) ?_
    · exact fun _ _ _ => trivial
    · exact fun _ _ _ => trivial

theorem ofPlan_fits (plan : Plan) (groups : Nat) (ownMatch anchored : Bool) :
    ∃ counts : Nat → Bool, (∀ slot < 2 * groups, counts slot = false) ∧
      ∀ inst ∈ (ofPlan plan groups ownMatch anchored).code,
        inst.Fits (ofPlan plan groups ownMatch anchored).slots counts := by
  have hdone : Code.Fits (fun _ => false) { insts := #[.done], slots := 2 * groups } := by
    intro inst hinst
    obtain rfl := Array.mem_singleton.1 hinst
    trivial
  obtain ⟨counts, hcounts, -, hfits⟩ := emit_grown _ hdone 0
  exact ⟨counts, hcounts, hfits⟩

end Program

/-- Parts are passed one after another, each with what is known from those before it. -/
inductive Walks (refs : List Nat) : Survey → List Node → List Annotated → Survey → Prop
  | nil {s : Survey} : Walks refs s [] [] s
  | cons {s s₁ s' : Survey} {before : Nat} {item : Node} {rest : List Node} {part : Annotated}
      {parts : List Annotated} (hpart : annotate refs before s item = .ok (part, s₁))
      (hrest : Walks refs s₁ rest parts s') : Walks refs s (item :: rest) (part :: parts) s'

theorem walks_annotateAll {refs : List Nat} {before : Nat} {s s' : Survey} {items : List Node}
    {parts : List Annotated} (h : annotateAll refs before s items = .ok (parts, s')) :
    Walks refs s items parts s' := by
  induction items generalizing before s parts with
  | nil =>
    cases h
    exact .nil
  | cons item rest ih =>
    obtain ⟨⟨part, s₁⟩, hpart, h⟩ := bind_eq_ok.1 h
    obtain ⟨⟨parts', s₂⟩, hparts, h⟩ := bind_eq_ok.1 h
    cases h
    exact .cons hpart (ih hparts)

theorem walks_annotateEach {refs : List Nat} {before : Nat} {s s' : Survey} {items : List Node}
    {parts : List Annotated} (h : annotateEach refs before s items = .ok (parts, s')) :
    Walks refs s items parts s' := by
  induction items generalizing s parts with
  | nil =>
    cases h
    exact .nil
  | cons item rest ih =>
    obtain ⟨⟨part, s₁⟩, hpart, h⟩ := bind_eq_ok.1 h
    obtain ⟨⟨parts', s₂⟩, hparts, h⟩ := bind_eq_ok.1 h
    cases h
    exact .cons hpart (ih hparts)

mutual

theorem annotate_next_le {refs : List Nat} {before : Nat} {s s' : Survey} {node : Node}
    {a : Annotated} (h : annotate refs before s node = .ok (a, s')) : s.next ≤ s'.next := by
  match node with
  | .empty | .any _ | .assertion _ | .literal .. | .charClass .. | .keepOut | .lastEnd
  | .groupSet _ | .backref .. =>
    cases h
    exact Nat.le_refl _
  | .leveledBackref _ | .call _ | .callByName .. => cases h
  | .concat items =>
    obtain ⟨⟨parts, after⟩, hparts, h⟩ := bind_eq_ok.1 h
    cases h
    exact walks_next_le (walks_annotateAll hparts)
  | .choice branches =>
    obtain ⟨⟨parts, after⟩, hparts, h⟩ := bind_eq_ok.1 h
    cases h
    exact walks_next_le (walks_annotateEach hparts)
  | .group sub =>
    obtain ⟨⟨part, after⟩, hpart, h⟩ := bind_eq_ok.1 h
    cases h
    have hle := annotate_next_le hpart
    exact Nat.le_of_succ_le hle
  | .look _ sub | .rep _ _ _ sub | .atomic sub =>
    obtain ⟨⟨part, after⟩, hpart, h⟩ := bind_eq_ok.1 h
    cases h
    exact annotate_next_le hpart
  | .condition test yes no =>
    obtain ⟨⟨a, s₁⟩, ha, h⟩ := bind_eq_ok.1 h
    obtain ⟨⟨b, s₂⟩, hb, h⟩ := bind_eq_ok.1 h
    obtain ⟨⟨c, s₃⟩, hc, h⟩ := bind_eq_ok.1 h
    cases h
    have h₁ := annotate_next_le ha
    have h₂ := annotate_next_le hb
    have h₃ := annotate_next_le hc
    exact Nat.le_trans h₁ (Nat.le_trans h₂ h₃)

theorem walks_next_le {refs : List Nat} {s s' : Survey} {items : List Node}
    {parts : List Annotated} (h : Walks refs s items parts s') : s.next ≤ s'.next := by
  match items, h with
  | [], .nil => exact Nat.le_refl _
  | item :: rest, .cons hpart hrest =>
    have hle := annotate_next_le hpart
    have hle' := walks_next_le hrest
    exact Nat.le_trans hle hle'

end

/-- A walk over a pattern that ends in a lookahead passes the group that holds what comes before,
which has number 0, and then the body of the lookahead. -/
theorem annotate_freeLookahead {refs : List Nat} {node node' : Node} {s' : Survey} {a : Annotated}
    (hnode : node.freeLookahead = some node')
    (h : annotate refs 0 { next := 0 } node' = .ok (a, s')) :
    ∃ init sub facts own inner s₁ before s₂ body,
      node = .concat (init ++ [.look .ahead sub]) ∧
      a = .mk node' facts [.mk (.group (.concat init)) own [inner], body] ∧
      node' = .concat [.group (.concat init), sub] ∧
      facts.hard = (own.hard || body.facts.hard) ∧ own.firstGroup = 0 ∧
      annotate refs 0 { next := 1 } (.concat init) = .ok (inner, s₁) ∧
      s₂.next = s₁.next ∧ annotate refs before s₂ sub = .ok (body, s') := by
  unfold Node.freeLookahead at hnode
  split at hnode
  · rename_i items
    split at hnode
    · rename_i sub hlast
      cases hnode
      obtain ⟨init, rfl⟩ := List.getLast?_eq_some_iff.1 hlast
      rw [List.dropLast_concat] at h ⊢
      obtain ⟨⟨parts, after⟩, hparts, h⟩ := bind_eq_ok.1 h
      cases h
      obtain ⟨⟨part, s₁⟩, hpart, hparts⟩ := bind_eq_ok.1 hparts
      obtain ⟨⟨rest, s₂⟩, hrest, hparts⟩ := bind_eq_ok.1 hparts
      cases hparts
      obtain ⟨⟨inner, s₃⟩, hinner, hpart⟩ := bind_eq_ok.1 hpart
      cases hpart
      obtain ⟨⟨body, s₄⟩, hbody, hrest⟩ := bind_eq_ok.1 hrest
      obtain ⟨⟨none, s₅⟩, hnone, hrest⟩ := bind_eq_ok.1 hrest
      cases hnone
      cases hrest
      refine ⟨init, sub, _, _, inner, s₃, _, _, body, rfl, rfl, rfl, ?_, rfl, hinner, ?_, hbody⟩
      · simp [Facts.ofSequence, Annotated.facts]
      · rfl
    · cases hnode
  · cases hnode

/-- An analysis is a walk over the pattern, from group 1 on unless the pattern ends in a lookahead:
then the walk itself numbers the group of the whole match. -/
theorem analyze_walk {parsed : Parsed} {a : Analysis} (h : analyze parsed = .ok a) :
    ∃ node next after, annotate parsed.refs 0 { next } node = .ok (a.root, after) ∧
      a.groups = after.next ∧
      (next = 1 ∧ a.ownMatch = false ∧ node = parsed.node.resolve parsed.names ∨
        next = 0 ∧ a.ownMatch = true ∧
          (parsed.node.resolve parsed.names).freeLookahead = some node) := by
  unfold analyze at h
  dsimp only at h
  cases hfree : (parsed.node.resolve parsed.names).freeLookahead with
  | none | some node =>
    simp only [hfree] at h
    generalize hwalk : annotate _ _ _ _ = walk at h
    cases walk with
    | error halt =>
      dsimp only at h
      repeat' split at h
      all_goals cases h
    | ok x =>
      have ha : a.root = x.1 ∧ a.groups = x.2.next ∧
          a.ownMatch = (parsed.node.resolve parsed.names).freeLookahead.isSome := by
        rw [hfree]
        dsimp only at h
        repeat' split at h
        all_goals cases h
        all_goals exact ⟨rfl, rfl, rfl⟩
      refine ⟨_, _, x.2, hwalk.trans (congrArg _ (Prod.ext ha.1.symm rfl)), ha.2.1, ?_⟩
      simp [ha.2.2, hfree]

theorem analyze_groups_pos {parsed : Parsed} {a : Analysis} (h : analyze parsed = .ok a) :
    0 < a.groups := by
  obtain ⟨node, next, after, hwalk, hgroups, ⟨rfl, -⟩ | ⟨rfl, -, hfree⟩⟩ := analyze_walk h
  · rw [hgroups]
    exact annotate_next_le hwalk
  · obtain ⟨_, _, _, _, _, s₁, _, s₂, _, -, -, -, -, -, hinner, hnext, hbody⟩ :=
      annotate_freeLookahead hfree hwalk
    have hle := annotate_next_le hinner
    have hle' := annotate_next_le hbody
    rw [hgroups]
    exact Nat.lt_of_lt_of_le hle (hnext ▸ hle')

end RegexStudio.Backtracking
