import RegexStudio.Proofs.SearchZones

/-! Where a match of the backtracking engine begins. -/

namespace RegexStudio.Backtracking

open Text (Haystack)

namespace Plan

variable {groups : Nat} {front : Bool}

theorem forward_ofList {plans : List Plan} (h : ∀ p ∈ plans, p.Forward groups front) :
    (ofList plans).Forward groups front := by
  match plans with
  | [] => trivial
  | [p] => exact h p List.mem_cons_self
  | p :: p' :: rest =>
    obtain ⟨hp, hrest⟩ := List.forall_mem_cons.1 h
    have ih := forward_ofList hrest
    exact ⟨hp, ih⟩

theorem forward_ofBranches {plans : List Plan} (h : ∀ p ∈ plans, p.Forward groups front) :
    (ofBranches plans).Forward groups front := by
  match plans with
  | [] => trivial
  | [p] => exact h p List.mem_cons_self
  | p :: p' :: rest =>
    obtain ⟨hp, hrest⟩ := List.forall_mem_cons.1 h
    have ih := forward_ofBranches hrest
    exact ⟨hp, ih⟩

end Plan

def LookKind.isBehind : LookKind → Bool
  | .behind | .notBehind => true
  | .ahead | .notAhead => false

theorem LookKind.beq_or_beq (kind : LookKind) :
    (kind == .behind || kind == .notBehind) = kind.isBehind := by
  cases kind <;> rfl

def Node.looksBehind : Node → Bool
  | .look kind _ => kind.isBehind
  | _ => false

def Facts.Numbered (groups : Nat) (facts : Facts) : Prop :=
  1 ≤ facts.firstGroup ∧ facts.endGroup ≤ groups

/-- A part that moves the beginning of the match at the front only. -/
inductive Annotated.Forward (groups : Nat) : Bool → Annotated → Prop
  | mk {front : Bool} {node : Node} {facts : Facts} {parts : List Annotated}
    (numbers : facts.Numbered groups)
    (group : ∀ sub, node = .group sub → facts.firstGroup < facts.endGroup)
    (keepOut : node = .keepOut → front = true)
    (inside : ∀ a ∈ parts, Forward groups (front && !node.looksBehind) a) :
    Forward groups front (.mk node facts parts)

theorem Annotated.Forward.numbers {groups : Nat} {front : Bool} {a : Annotated}
    (h : a.Forward groups front) : a.facts.Numbered groups := by
  cases h with
  | mk numbers => exact numbers

theorem Annotated.Forward.ahead {groups : Nat} {front : Bool} {node : Node} {facts : Facts}
    {parts : List Annotated} (h : (Annotated.mk node facts parts).Forward groups front)
    (hnode : node.looksBehind = false) : ∀ a ∈ parts, a.Forward groups front := by
  cases h with
  | mk _ _ _ hparts =>
    rw [hnode, Bool.not_false, Bool.and_true] at hparts
    exact hparts

theorem Annotated.Forward.turned {groups : Nat} {front : Bool} {kind : LookKind} {sub : Node}
    {facts : Facts} {parts : List Annotated}
    (h : (Annotated.mk (.look kind sub) facts parts).Forward groups front) :
    ∀ a ∈ parts, a.Forward groups (front && !kind.isBehind) := by
  cases h with
  | mk _ _ _ hparts => exact hparts

namespace Plan

variable {groups : Nat} {front : Bool} {plan : Plan}

theorem writes_linearPart {parts : List Annotated} (program : Linear.Program)
    (h : ∀ a ∈ parts, a.facts.Numbered groups) (slot : Nat)
    (hslot : (linearPart program parts).writes slot = true) : 2 ≤ slot ∧ slot < 2 * groups := by
  obtain ⟨hge, hlt⟩ := LinearPart.writes_iff.1 hslot
  cases parts with
  | nil => exact absurd hlt (by simp [linearPart])
  | cons first rest =>
    have hfirst : (linearPart program (first :: rest)).first = first.facts.firstGroup := rfl
    have hne : first :: rest ≠ [] := List.cons_ne_nil _ _
    have hcount : (linearPart program (first :: rest)).count =
        ((first :: rest).getLast hne).facts.endGroup - first.facts.firstGroup := by
      simp [linearPart, List.getLast?_eq_some_getLast]
    have hlo := (h first List.mem_cons_self).1
    have hhi := (h _ (List.getLast_mem hne)).2
    omega

theorem delegate_forward {parts : List Annotated} (h : ∀ a ∈ parts, a.facts.Numbered groups)
    (hplan : delegate parts = .ok plan) : plan.Forward groups front := by
  unfold delegate at hplan
  split at hplan
  · cases hplan
    trivial
  split at hplan
  · cases hplan
    trivial
  · obtain ⟨e, -, hplan⟩ := bind_eq_ok.1 hplan
    cases hplan
    exact writes_linearPart _ h

theorem delegateBack_forward {a : Annotated} (h : a.facts.Numbered groups)
    (hplan : delegateBack a = .ok plan) : plan.Forward groups false := by
  obtain ⟨e, -, hplan⟩ := bind_eq_ok.1 hplan
  cases hplan
  exact ⟨rfl, writes_linearPart _ (List.forall_mem_singleton.2 h)⟩

theorem farBack_forward {a : Annotated} (h : a.facts.Numbered groups)
    (hplan : farBack a = .ok plan) : plan.Forward groups false := by
  unfold farBack at hplan
  split at hplan
  · cases hplan
  · exact delegateBack_forward h hplan

theorem turn_forward (kind : LookKind) (inside : Facts)
    (hplan : plan.Forward groups (front && !kind.isBehind)) :
    (turn kind inside plan).Forward groups front := by
  cases kind with
  | ahead | notAhead => exact ⟨_, fun h => (Bool.and_eq_true_iff.1 h).1, hplan⟩
  | behind | notBehind =>
    exact ⟨false, fun h => (nomatch h), rfl, by simpa [LookKind.isBehind] using hplan⟩

theorem sequence_forward {parts : List Annotated} {start stop : Nat} {first last : Plan}
    {inner : List Plan} (hparts : ∀ a ∈ parts, a.facts.Numbered groups)
    (hfirst : delegate (parts.take start) = .ok first)
    (hinner : ∀ p ∈ inner, p.Forward groups front)
    (hlast : delegate (parts.drop stop) = .ok last) :
    (ofList (first :: (inner ++ [last]))).Forward groups front := by
  refine forward_ofList (List.forall_mem_cons.2 ⟨?_, fun p hp => ?_⟩)
  · exact delegate_forward (fun a hmem => hparts a (List.mem_of_mem_take hmem)) hfirst
  · rcases List.mem_append.1 hp with hp | hp
    · exact hinner p hp
    · obtain rfl := List.mem_singleton.1 hp
      exact delegate_forward (fun a hmem => hparts a (List.mem_of_mem_drop hmem)) hlast

theorem group_forward {sub : Node} {facts : Facts} {parts : List Annotated}
    (ha : (Annotated.mk (.group sub) facts parts).Forward groups front)
    (hplan : plan.Forward groups front) :
    (ofList [save (2 * facts.firstGroup), plan, save (2 * facts.firstGroup + 1)]).Forward groups
      front := by
  cases ha with
  | mk hnumbers hgroup =>
    obtain ⟨hlo, hhi⟩ := hnumbers
    have hlt := hgroup sub rfl
    have hstart : Plan.Forward groups front (save (2 * facts.firstGroup)) :=
      .inr ⟨by omega, by omega⟩
    have hstop : Plan.Forward groups front (save (2 * facts.firstGroup + 1)) :=
      .inr ⟨by omega, by omega⟩
    exact ⟨hstart, hplan, hstop⟩

mutual

theorem make_forward {groups : Nat} {front hard branch : Bool} {a : Annotated} {plan : Plan}
    (ha : a.Forward groups front)
    (hplan : make hard branch a = .ok plan) : plan.Forward groups front := by
  match a with
  | .mk node facts parts =>
    unfold make at hplan
    split at hplan
    · exact delegate_forward (List.forall_mem_singleton.2 ha.numbers) hplan
    have hahead := ha.ahead
    split at hplan
    · cases hplan
      trivial
    · cases hplan
      trivial
    · exact delegate_forward (List.forall_mem_singleton.2 ha.numbers) hplan
    · exact delegate_forward (List.forall_mem_singleton.2 ha.numbers) hplan
    · cases hplan
      trivial
    · -- `\K` itself
      cases hplan
      cases ha with
      | mk _ _ hkeep => exact .inl ⟨rfl, hkeep rfl⟩
    · cases hplan
      trivial
    · cases hplan
      trivial
    · cases hplan
      trivial
    · -- a sequence, of which the linear engine has the start and the end
      obtain ⟨first, hfirst, hplan⟩ := bind_eq_ok.1 hplan
      obtain ⟨inner, hinner, hplan⟩ := bind_eq_ok.1 hplan
      obtain ⟨last, hlast, hplan⟩ := bind_eq_ok.1 hplan
      cases hplan
      exact sequence_forward (fun a hmem => (hahead rfl a hmem).numbers) hfirst
        (makeSome_forward (hahead rfl) hinner) hlast
    · -- a choice
      obtain ⟨plans, hplans, hplan⟩ := bind_eq_ok.1 hplan
      cases hplan
      exact forward_ofBranches (makeAll_forward (hahead rfl) hplans)
    · -- a group
      rename_i sub
      obtain ⟨inner, hinner, hplan⟩ := bind_eq_ok.1 hplan
      cases hplan
      exact group_forward ha (make_forward (hahead rfl sub List.mem_cons_self) hinner)
    · -- a look-around with branches: each has its own way back where they are not of one size
      rename_i kind sub branches inner alternatives
      have hinside := ha.turned
      dsimp only at hplan
      split at hplan
      · rename_i hback
        rw [kind.beq_or_beq, Bool.and_eq_true] at hback
        rw [hback.1, Bool.not_true, Bool.and_false] at hinside
        have halternatives := (hinside _ List.mem_cons_self).ahead rfl
        obtain ⟨plans, hplans, hplan⟩ := bind_eq_ok.1 hplan
        have hall := makeBehind_forward halternatives hplans
        split at hplan
        · cases hplan
          exact forward_ofBranches (List.forall_mem_map.2 fun p hp => ⟨false, nofun, hall p hp⟩)
        · cases hplan
          exact forward_ofList (List.forall_mem_map.2 fun p hp => ⟨false, nofun, hall p hp⟩)
      · obtain ⟨plan, hsub, hplan⟩ := bind_eq_ok.1 hplan
        cases hplan
        exact turn_forward kind inner (make_forward (hinside _ List.mem_cons_self) hsub)
    · -- any other look-around
      rename_i kind _ sub _
      have hinside := ha.turned sub List.mem_cons_self
      split at hplan
      · rename_i hback
        rw [kind.beq_or_beq, Bool.and_eq_true] at hback
        rw [hback.1, Bool.not_true, Bool.and_false] at hinside
        obtain ⟨inner, hinner, hplan⟩ := bind_eq_ok.1 hplan
        have hfar : inner.Forward groups false := farBack_forward hinside.numbers hinner
        split at hplan
        all_goals cases hplan; exact ⟨false, nofun, hfar⟩
      · obtain ⟨plan, hsub, hplan⟩ := bind_eq_ok.1 hplan
        cases hplan
        exact turn_forward kind _ (make_forward hinside hsub)
    · -- an optional part
      rename_i sub
      obtain ⟨inner, hinner, hplan⟩ := bind_eq_ok.1 hplan
      cases hplan
      have hsub := make_forward (hahead rfl sub List.mem_cons_self) hinner
      exact hsub
    · -- rounds of any other number
      rename_i hi _ _ sub _
      obtain ⟨inner, hinner, hplan⟩ := bind_eq_ok.1 hplan
      have hsub := make_forward (hahead rfl sub List.mem_cons_self) hinner
      cases hi with
      | none =>
        dsimp only at hplan
        repeat' split at hplan
        all_goals cases hplan; exact hsub
      | some hi =>
        cases hplan
        exact hsub
    · -- an atomic part
      rename_i sub
      obtain ⟨inner, hinner, hplan⟩ := bind_eq_ok.1 hplan
      cases hplan
      have hsub := make_forward (hahead rfl sub List.mem_cons_self) hinner
      exact hsub
    · -- a condition
      rename_i test yes no
      obtain ⟨htest, hrest⟩ := List.forall_mem_cons.1 (hahead rfl)
      obtain ⟨hyes, hno⟩ := List.forall_mem_cons.1 hrest
      obtain ⟨test', htest', hplan⟩ := bind_eq_ok.1 hplan
      obtain ⟨yes', hyes', hplan⟩ := bind_eq_ok.1 hplan
      obtain ⟨no', hno', hplan⟩ := bind_eq_ok.1 hplan
      cases hplan
      exact ⟨make_forward htest htest', make_forward hyes hyes',
        make_forward (hno no List.mem_cons_self) hno'⟩
    · cases hplan
      trivial
termination_by sizeOf a

theorem makeAll_forward {groups : Nat} {front hard : Bool} {parts : List Annotated}
    {plans : List Plan} (hparts : ∀ a ∈ parts, a.Forward groups front)
    (hplans : makeAll hard parts = .ok plans) : ∀ p ∈ plans, p.Forward groups front := by
  match parts with
  | [] =>
    cases hplans
    exact fun _ hp => nomatch hp
  | a :: rest =>
    obtain ⟨hfirst, hrest⟩ := List.forall_mem_cons.1 hparts
    rw [makeAll] at hplans
    obtain ⟨plan, hplan, hplans⟩ := bind_eq_ok.1 hplans
    obtain ⟨plans', hplans', hplans⟩ := bind_eq_ok.1 hplans
    cases hplans
    exact List.forall_mem_cons.2 ⟨make_forward hfirst hplan, makeAll_forward hrest hplans'⟩
termination_by sizeOf parts

theorem makeSome_forward {groups : Nat} {front branch : Bool} {parts : List Annotated}
    {plans : List Plan} {start count : Nat} (hparts : ∀ a ∈ parts, a.Forward groups front)
    (hplans : makeSome branch start count parts = .ok plans) :
    ∀ p ∈ plans, p.Forward groups front := by
  match start, count, parts with
  | start + 1, count, _ :: rest =>
    rw [makeSome] at hplans
    exact makeSome_forward (List.forall_mem_cons.1 hparts).2 hplans
  | 0, count + 1, a :: rest =>
    obtain ⟨hfirst, hrest⟩ := List.forall_mem_cons.1 hparts
    rw [makeSome] at hplans
    obtain ⟨plan, hplan, hplans⟩ := bind_eq_ok.1 hplans
    obtain ⟨plans', hplans', hplans⟩ := bind_eq_ok.1 hplans
    cases hplans
    exact List.forall_mem_cons.2 ⟨make_forward hfirst hplan, makeSome_forward hrest hplans'⟩
  | 0, 0, _ | _, _, [] =>
    simp only [makeSome] at hplans
    cases hplans
    exact fun _ hp => nomatch hp
termination_by sizeOf parts

theorem makeBehind_forward {groups : Nat} {branch : Bool} {parts : List Annotated}
    {plans : List Plan} (hparts : ∀ a ∈ parts, a.Forward groups false)
    (hplans : makeBehind branch parts = .ok plans) : ∀ p ∈ plans, p.Forward groups false := by
  match parts with
  | [] =>
    cases hplans
    exact fun _ hp => nomatch hp
  | a :: rest =>
    obtain ⟨hfirst, hrest⟩ := List.forall_mem_cons.1 hparts
    rw [makeBehind] at hplans
    split at hplans
    all_goals
      obtain ⟨plan, hplan, hplans⟩ := bind_eq_ok.1 hplans
      obtain ⟨plans', hplans', hplans⟩ := bind_eq_ok.1 hplans
      cases hplans
      refine List.forall_mem_cons.2 ⟨?_, makeBehind_forward hrest hplans'⟩
    · obtain ⟨inner, hinner, rfl⟩ := map_eq_ok.1 hplan
      exact ⟨rfl, make_forward hfirst hinner⟩
    · exact farBack_forward hfirst.numbers hplan
termination_by sizeOf parts

end

end Plan

mutual

/-- Whether `\K` stands in no lookbehind; `front` tells that the part itself does not. -/
def Node.keepsFront (front : Bool) : Node → Bool
  | .keepOut => front
  | .concat parts | .choice parts => Node.allKeepFront front parts
  | .group sub | .rep _ _ _ sub | .atomic sub => sub.keepsFront front
  | .look kind sub => sub.keepsFront (front && !kind.isBehind)
  | .condition test yes no =>
    test.keepsFront front && yes.keepsFront front && no.keepsFront front
  | _ => true

def Node.allKeepFront (front : Bool) : List Node → Bool
  | [] => true
  | node :: rest => node.keepsFront front && Node.allKeepFront front rest

end

theorem annotate_numbers {refs : List Nat} {before : Nat} {s s' : Survey} {node : Node}
    {a : Annotated} (h : annotate refs before s node = .ok (a, s')) :
    a.facts.firstGroup = s.next ∧ a.facts.endGroup = s'.next := by
  match node with
  | .leveledBackref _ | .call _ | .callByName .. => cases h
  | .empty | .any _ | .assertion _ | .literal .. | .charClass .. | .keepOut | .lastEnd
  | .groupSet _ | .backref .. =>
    cases h
    exact ⟨rfl, rfl⟩
  | .concat _ | .choice _ =>
    obtain ⟨⟨parts, after⟩, -, h⟩ := bind_eq_ok.1 h
    cases h
    exact ⟨rfl, rfl⟩
  | .group sub =>
    obtain ⟨⟨part, after⟩, hpart, h⟩ := bind_eq_ok.1 h
    cases h
    exact ⟨rfl, (annotate_numbers hpart).2⟩
  | .look _ sub | .rep _ _ _ sub | .atomic sub =>
    obtain ⟨⟨part, after⟩, hpart, h⟩ := bind_eq_ok.1 h
    cases h
    have hsub := annotate_numbers hpart
    exact hsub
  | .condition test yes no =>
    obtain ⟨⟨a, s₁⟩, -, h⟩ := bind_eq_ok.1 h
    obtain ⟨⟨b, s₂⟩, -, h⟩ := bind_eq_ok.1 h
    obtain ⟨⟨c, s₃⟩, -, h⟩ := bind_eq_ok.1 h
    cases h
    exact ⟨rfl, rfl⟩

mutual

theorem annotate_forward {refs : List Nat} {groups before : Nat} {s s' : Survey} {front : Bool}
    {node : Node} {a : Annotated} (h : annotate refs before s node = .ok (a, s'))
    (hnode : node.keepsFront front = true) (hfirst : 1 ≤ s.next) (hend : s'.next ≤ groups) :
    a.Forward groups front := by
  have hnumbers : a.facts.Numbered groups := by
    obtain ⟨hlo, hhi⟩ := annotate_numbers h
    exact ⟨hlo ▸ hfirst, hhi ▸ hend⟩
  match node with
  | .empty | .any _ | .assertion _ | .literal .. | .charClass .. | .lastEnd | .groupSet _
  | .backref .. =>
    cases h
    exact .mk hnumbers nofun nofun nofun
  | .keepOut =>
    cases h
    exact .mk hnumbers nofun (fun _ => hnode) nofun
  | .leveledBackref _ | .call _ | .callByName .. => cases h
  | .concat items =>
    obtain ⟨⟨parts, after⟩, hparts, h⟩ := bind_eq_ok.1 h
    cases h
    have hall := walks_forward (walks_annotateAll hparts) hnode hfirst hend
    exact .mk hnumbers nofun nofun (by simpa [Node.looksBehind] using hall)
  | .choice branches =>
    obtain ⟨⟨parts, after⟩, hparts, h⟩ := bind_eq_ok.1 h
    cases h
    have hall := walks_forward (walks_annotateEach hparts) hnode hfirst hend
    exact .mk hnumbers nofun nofun (by simpa [Node.looksBehind] using hall)
  | .group sub =>
    obtain ⟨⟨part, after⟩, hpart, h⟩ := bind_eq_ok.1 h
    cases h
    have hsub := annotate_forward hpart hnode (Nat.succ_le_succ (Nat.zero_le _)) hend
    have hle := annotate_next_le hpart
    refine .mk hnumbers (fun _ _ => ?_) nofun (by simpa [Node.looksBehind] using hsub)
    exact Nat.lt_of_lt_of_le hle (Nat.le_of_eq (annotate_numbers hpart).2.symm)
  | .look kind sub =>
    obtain ⟨⟨part, after⟩, hpart, h⟩ := bind_eq_ok.1 h
    cases h
    have hsub := annotate_forward hpart hnode hfirst hend
    exact .mk hnumbers nofun nofun (List.forall_mem_singleton.2 hsub)
  | .rep _ _ _ sub | .atomic sub =>
    obtain ⟨⟨part, after⟩, hpart, h⟩ := bind_eq_ok.1 h
    cases h
    have hsub := annotate_forward hpart hnode hfirst hend
    exact .mk hnumbers nofun nofun (by simpa [Node.looksBehind] using hsub)
  | .condition test yes no =>
    obtain ⟨⟨a, s₁⟩, ha, h⟩ := bind_eq_ok.1 h
    obtain ⟨⟨b, s₂⟩, hb, h⟩ := bind_eq_ok.1 h
    obtain ⟨⟨c, s₃⟩, hc, h⟩ := bind_eq_ok.1 h
    cases h
    obtain ⟨htests, hno⟩ := Bool.and_eq_true_iff.1 hnode
    obtain ⟨htest, hyes⟩ := Bool.and_eq_true_iff.1 htests
    have hle₁ := annotate_next_le ha
    have hle₂ := annotate_next_le hb
    have hle₃ := annotate_next_le hc
    have hfirst₁ := Nat.le_trans hfirst hle₁
    have hend₂ := Nat.le_trans hle₃ hend
    have hparts : ∀ part ∈ [a, b, c], part.Forward groups front :=
      List.forall_mem_cons.2 ⟨annotate_forward ha htest hfirst (Nat.le_trans hle₂ hend₂),
        List.forall_mem_cons.2 ⟨annotate_forward hb hyes hfirst₁ hend₂,
          List.forall_mem_singleton.2
            (annotate_forward hc hno (Nat.le_trans hfirst₁ hle₂) hend)⟩⟩
    exact .mk hnumbers nofun nofun (by simpa [Node.looksBehind] using hparts)

theorem walks_forward {refs : List Nat} {groups : Nat} {s s' : Survey} {front : Bool}
    {items : List Node} {parts : List Annotated} (h : Walks refs s items parts s')
    (hitems : Node.allKeepFront front items = true) (hfirst : 1 ≤ s.next)
    (hend : s'.next ≤ groups) : ∀ a ∈ parts, a.Forward groups front := by
  match items, h with
  | [], .nil => exact List.forall_mem_nil _
  | item :: rest, .cons hpart hrest =>
    obtain ⟨hitem, hitems⟩ := Bool.and_eq_true_iff.1 hitems
    exact List.forall_mem_cons.2
      ⟨annotate_forward hpart hitem hfirst (Nat.le_trans (walks_next_le hrest) hend),
        walks_forward hrest hitems (Nat.le_trans hfirst (annotate_next_le hpart)) hend⟩

end

mutual

theorem keepsFront_resolve (names : List (List Char × Nat)) (front : Bool) (node : Node) :
    (node.resolve names).keepsFront front = node.keepsFront front := by
  match node with
  | .empty | .any _ | .assertion _ | .literal .. | .charClass .. | .keepOut | .lastEnd
  | .groupSet _ | .backref .. | .leveledBackref _ | .call _ => rfl
  | .callByName name position =>
    simp only [Node.resolve]
    split <;> rfl
  | .concat items | .choice items => exact allKeepFront_resolveAll names front items
  | .group sub | .rep _ _ _ sub | .atomic sub => exact keepsFront_resolve names front sub
  | .look kind sub => exact keepsFront_resolve names _ sub
  | .condition test yes no =>
    simp only [Node.resolve, Node.keepsFront, keepsFront_resolve names front test,
      keepsFront_resolve names front yes, keepsFront_resolve names front no]

theorem allKeepFront_resolveAll (names : List (List Char × Nat)) (front : Bool)
    (nodes : List Node) :
    Node.allKeepFront front (Node.resolveAll names nodes) = Node.allKeepFront front nodes := by
  match nodes with
  | [] => rfl
  | node :: rest =>
    simp only [Node.resolveAll, Node.allKeepFront, keepsFront_resolve names front node,
      allKeepFront_resolveAll names front rest]

end

theorem allKeepFront_append {front : Bool} {nodes nodes' : List Node} :
    Node.allKeepFront front (nodes ++ nodes') =
      (Node.allKeepFront front nodes && Node.allKeepFront front nodes') := by
  induction nodes with
  | nil => rfl
  | cons node rest ih => rw [List.cons_append, Node.allKeepFront, ih, Node.allKeepFront,
      Bool.and_assoc]

/-- Whether the machine leaves the group that is the whole match to the linear engine. -/
def Analysis.leavesMatch (a : Analysis) : Bool :=
  a.ownMatch && a.root.facts.hard &&
    a.root.children.head?.any fun part => part.facts.isConst && !part.facts.hard

def Parsed.leavesMatch (parsed : Parsed) : Bool :=
  match analyze parsed with
  | .ok a => a.leavesMatch
  | .error _ => false

namespace Plan

theorem length_takeWhile_lt {α : Type} {p : α → Bool} {xs : List α} {x : α} (hx : x ∈ xs)
    (hp : p x = false) : (xs.takeWhile p).length < xs.length := by
  refine Nat.lt_of_le_of_ne (List.takeWhile_prefix p).length_le fun heq => ?_
  have hall := (List.takeWhile_prefix p).eq_of_length heq
  have htrue := List.all_eq_true.1 (hall ▸ List.all_takeWhile) x hx
  cases hp.symm.trans htrue

theorem make_sequence {groups : Nat} {items : List Node} {facts : Facts} {first : Annotated}
    {others : List Annotated} {plan : Plan} (hhard : facts.hard = true)
    (hparts : ∃ part ∈ first :: others, part.facts.hard = true)
    (hfirst : (first.facts.isConst && !first.facts.hard) = false)
    (hothers : ∀ part ∈ others, part.Forward groups true)
    (hplan : make false false (.mk (.concat items) facts (first :: others)) = .ok plan) :
    ∃ own rest, make true false first = .ok own ∧ rest.Forward groups true ∧
      plan = .both .nothing (.both own rest) := by
  obtain ⟨hardest, hmem, hhardest⟩ := hparts
  -- the linear engine gets nothing at the start, and not all of the parts at the end
  have hstart : (ends false (first :: others)).1 = 0 := by
    simp only [ends, List.takeWhile_cons, hfirst]
    rfl
  have hstop : (ends false (first :: others)).2 ≤ others.length := by
    have hlt : ((first :: others).reverse.takeWhile fun part => !part.facts.hard).length <
        (first :: others).reverse.length :=
      length_takeWhile_lt (List.mem_reverse.2 hmem) (by rw [hhardest]; rfl)
    rw [List.length_reverse, List.length_cons] at hlt
    simp only [ends, List.takeWhile_cons, hfirst]
    exact Nat.le_of_lt_succ hlt
  obtain ⟨stop, hends⟩ : ∃ stop, ends false (first :: others) = (0, stop) :=
    ⟨_, Prod.ext hstart rfl⟩
  rw [hends] at hstop
  obtain ⟨middle, hmiddle⟩ := Nat.exists_eq_add_of_le hstop
  have hcount : (first :: others).length - 0 - stop = middle + 1 := by
    rw [List.length_cons]
    omega
  unfold make at hplan
  rw [hhard, if_neg (by decide)] at hplan
  dsimp only at hplan
  rw [hends] at hplan
  dsimp only at hplan
  rw [hcount, Nat.zero_add, List.take_zero, List.drop_succ_cons] at hplan
  obtain ⟨nothing', hnothing, hplan⟩ := bind_eq_ok.1 hplan
  obtain ⟨inner, hinner, hplan⟩ := bind_eq_ok.1 hplan
  obtain ⟨last, hlast, hplan⟩ := bind_eq_ok.1 hplan
  cases hnothing
  rw [makeSome] at hinner
  obtain ⟨own, hown, hinner⟩ := bind_eq_ok.1 hinner
  obtain ⟨more, hmore, hinner⟩ := bind_eq_ok.1 hinner
  cases hinner
  have hrest : ∀ part ∈ more ++ [last], part.Forward groups true := by
    intro part hpart
    rcases List.mem_append.1 hpart with hpart | hpart
    · exact makeSome_forward hothers hmore part hpart
    · obtain rfl := List.mem_singleton.1 hpart
      exact delegate_forward (fun a hmem => (hothers a (List.mem_of_mem_drop hmem)).numbers) hlast
  refine ⟨own, ofList (more ++ [last]), hown, forward_ofList hrest, ?_⟩
  cases hplan
  cases more <;> rfl

theorem make_own {groups : Nat} {items : List Node} {sub : Node} {facts own : Facts}
    {inner body : Annotated} {plan : Plan} (hhard : facts.hard = true)
    (hparts : facts.hard = (own.hard || body.facts.hard)) (hfirst : own.firstGroup = 0)
    (hown : (own.isConst && !own.hard) = false) (hinner : inner.Forward groups true)
    (hbody : body.Forward groups true)
    (hplan : make false false
      (.mk (.concat items) facts [.mk (.group sub) own [inner], body]) = .ok plan) :
    ∃ whole rest, whole.Forward groups true ∧ rest.Forward groups true ∧
      plan = .both .nothing (.both (.both (.save 0) (.both whole (.save 1))) rest) := by
  have hpart : ∃ part ∈ [.mk (.group sub) own [inner], body], part.facts.hard = true := by
    rw [hhard, eq_comm, Bool.or_eq_true] at hparts
    rcases hparts with hparts | hparts
    · exact ⟨_, List.mem_cons_self, hparts⟩
    · exact ⟨body, by simp, hparts⟩
  obtain ⟨group, rest, hgroup, hrest, rfl⟩ :=
    make_sequence hhard hpart hown (List.forall_mem_singleton.2 hbody) hplan
  unfold make at hgroup
  rw [if_neg (by simp)] at hgroup
  dsimp only at hgroup
  obtain ⟨whole, hwhole, hgroup⟩ := bind_eq_ok.1 hgroup
  cases hgroup
  refine ⟨whole, rest, make_forward hinner hwhole, hrest, ?_⟩
  rw [hfirst]
  rfl

end Plan

namespace Regex

variable {re : Regex} {h : Haystack} {pattern : List Char} {parsed : Parsed}

def Forward (re : Regex) (h : Haystack) : Prop :=
  ∀ start skipped hit, start ≤ h.size → re.find h start skipped = .ok (some hit) →
    start ≤ hit.start

theorem compile_laid {program : Program} (hre : compile pattern = .ok re)
    (hprogram : re.matcher = .machine program) (hparsed : parse pattern = .ok parsed)
    (hfront : parsed.node.keepsFront true = true) (hown : parsed.leavesMatch = false) :
    ∃ zones : List Zone, zones[program.entry]? = some ⟨true, []⟩ ∧ 2 ≤ program.slots ∧
      ∀ (i : Nat) inst z, program.code[i]? = some inst → zones[i]? = some z →
        inst.Keeps zones z := by
  obtain ⟨parsed', a, hparsed', ha, ⟨linear, -, -, hlinear, -⟩ |
    ⟨plan, hhard, hplan, hmachine, -⟩⟩ := compile_cases hre
  · cases hlinear.symm.trans hprogram
  · cases hmachine.symm.trans hprogram
    obtain rfl := Except.ok.inj (hparsed.symm.trans hparsed')
    have hgroups := analyze_groups_pos ha
    have hkeeps := (keepsFront_resolve parsed.names true parsed.node).trans hfront
    obtain ⟨node, next, after, hwalk, hafter, ⟨rfl, hnot, rfl⟩ | ⟨rfl, hsome, hfree⟩⟩ :=
      analyze_walk ha
    · have hroot := annotate_forward hwalk hkeeps (Nat.le_refl 1) (Nat.le_of_eq hafter.symm)
      have hnothing : Plan.nothing.Forward a.groups true := trivial
      rw [hnot, Program.ofPlan_eq_own]
      exact Program.ofPlan_own_laid hgroups (Plan.make_forward hroot hplan) hnothing _
    · -- the pattern ends in a lookahead, and the group before it is the whole match
      obtain ⟨init, sub, facts, own, inner, s₁, before, s₂, body, hnode, hroot, rfl, hparts,
        hfirst, hinner, hnext, hbody⟩ := annotate_freeLookahead hfree hwalk
      have hle := annotate_next_le hinner
      have hle' := annotate_next_le hbody
      rw [hnode, Node.keepsFront, allKeepFront_append, Bool.and_eq_true] at hkeeps
      obtain ⟨hinit, hsub⟩ := hkeeps
      have hsub' : sub.keepsFront true = true := (Bool.and_eq_true_iff.1 hsub).1
      have hinner' := annotate_forward hinner hinit (Nat.le_refl 1)
        (Nat.le_trans (hnext ▸ hle') (Nat.le_of_eq hafter.symm))
      have hbody' := annotate_forward hbody hsub' (hnext ▸ hle) (Nat.le_of_eq hafter.symm)
      rw [hroot] at hhard hplan
      have hhard' : facts.hard = true := by simpa [Annotated.facts] using hhard
      have heasy : (own.isConst && !own.hard) = false := by
        simpa [Parsed.leavesMatch, ha, Analysis.leavesMatch, hsome, hroot, Annotated.facts,
          Annotated.children, hhard'] using hown
      obtain ⟨whole, rest, hwhole, hrest, rfl⟩ :=
        Plan.make_own hhard' hparts hfirst heasy hinner' hbody' hplan
      rw [hsome, ← Program.ofPlan_nothing]
      exact Program.ofPlan_own_laid hgroups hwhole hrest _

/-- A match that is never made to begin inside of a lookbehind begins where the search for it began
or further on. -/
theorem find_forward (hre : compile pattern = .ok re) (hparsed : parse pattern = .ok parsed)
    (hfront : parsed.node.keepsFront true = true) (hown : parsed.leavesMatch = false)
    (h : Haystack) : re.Forward h := by
  intro start skipped hit hstart hhit
  unfold find at hhit
  split at hhit
  · rename_i linear ownMatch _
    obtain ⟨found, hfound, hhit⟩ := Option.map_eq_some_iff.1 (Except.ok.inj hhit)
    obtain ⟨hle, -, -, hgroups⟩ := Linear.Regex.find_found hfound
    cases ownMatch with
    | false =>
      obtain rfl : found = hit := hhit
      exact hle
    | true =>
      obtain rfl : ownHit found = hit := hhit
      unfold ownHit
      split
      · rename_i hspan
        exact Nat.le_trans hle (hgroups _ (hspan ▸ List.mem_cons_self)).1.1
      · exact hle
      · exact hle
  · rename_i program hprogram
    obtain ⟨counts, -, hfits⟩ := compile_fits hre hprogram
    obtain ⟨zones, hentry, hsize, hcode⟩ := compile_laid hre hprogram hparsed hfront hown
    obtain ⟨slots, hslots, hhit⟩ := bind_eq_ok.1 hhit
    obtain ⟨slots, rfl, rfl⟩ := Option.map_eq_some_iff.1 (Except.ok.inj hhit)
    obtain ⟨place, stop, hplace, hstop, hle⟩ :=
      Machine.search_begins hsize hfits hcode hentry hstart hslots
    unfold slotsHit
    dsimp only
    rw [Nat.mul_zero, hplace, hstop]
    exact hle

end Regex

end RegexStudio.Backtracking
