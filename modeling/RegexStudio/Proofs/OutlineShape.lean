import RegexStudio.Proofs.OutlineGroups

/-! The shape of what is read. Items of a sequence are neither sequences nor choices, and only a
single item is repeated; so the parts of a pattern are nested as their precedence says, and nothing
stands twice where it could stand once. The tree of a pattern has this shape too. -/

namespace RegexStudio

open Pattern (Ast)

namespace Pattern

def Ast.IsItem : Ast → Prop
  | .empty _ | .alternation .. | .concat .. => False
  | _ => True

def Ast.IsOperand : Ast → Prop
  | .empty _ | .flags .. | .alternation .. | .concat .. => False
  | _ => True

def Ast.IsBranch : Ast → Prop
  | .alternation .. => False
  | _ => True

mutual

/-- Whether sequences and choices have two parts at least, and each part is one that may stand
where it does. -/
def Ast.Shaped : Ast → Prop
  | .repetition _ _ _ sub => sub.IsOperand ∧ sub.Shaped
  | .group _ _ sub => sub.Shaped
  | .alternation _ branches =>
    2 ≤ branches.length ∧ (∀ branch ∈ branches, branch.IsBranch) ∧ Ast.AllShaped branches
  | .concat _ items => 2 ≤ items.length ∧ (∀ item ∈ items, item.IsItem) ∧ Ast.AllShaped items
  | _ => True

def Ast.AllShaped : List Ast → Prop
  | [] => True
  | item :: rest => item.Shaped ∧ Ast.AllShaped rest

end

theorem allShaped_iff {items : List Ast} :
    Ast.AllShaped items ↔ ∀ item ∈ items, item.Shaped := by
  induction items with
  | nil => exact ⟨fun _ _ h => (nomatch h), fun _ => trivial⟩
  | cons item rest ih => rw [Ast.AllShaped, ih, List.forall_mem_cons]

theorem Ast.IsLeaf.isItem {ast : Ast} (h : ast.IsLeaf) : ast.IsItem := by
  cases ast with
  | empty | alternation | concat => exact h
  | _ => trivial

theorem Ast.IsLeaf.shaped {ast : Ast} (h : ast.IsLeaf) : ast.Shaped := by
  cases ast with
  | repetition | group | alternation | concat => exact h.elim
  | _ => trivial

theorem Ast.IsItem.isBranch {ast : Ast} (h : ast.IsItem) : ast.IsBranch := by
  cases ast with
  | alternation => exact h
  | _ => trivial

theorem Ast.Shaped.parts {ast : Ast} (h : ast.Shaped) : ∀ part ∈ ast.parts, part.Shaped := by
  cases ast with
  | repetition => exact List.forall_mem_singleton.2 h.2
  | group => exact List.forall_mem_singleton.2 h
  | alternation | concat => exact allShaped_iff.1 h.2.2
  | _ => exact List.forall_mem_nil _

variable {span : Span} {items branches : List Ast}

theorem shaped_ofItems (h : ∀ item ∈ items, item.IsItem ∧ item.Shaped) :
    (Ast.ofItems span items).IsBranch ∧ (Ast.ofItems span items).Shaped := by
  match items with
  | [] => exact ⟨trivial, trivial⟩
  | [item] =>
    obtain ⟨hitem, hshaped⟩ := List.forall_mem_singleton.1 h
    exact ⟨hitem.isBranch, hshaped⟩
  | _ :: _ :: _ =>
    refine ⟨trivial, Nat.le_add_left 2 _, fun item hitem => (h item hitem).1, ?_⟩
    exact allShaped_iff.2 fun item hitem => (h item hitem).2

theorem shaped_alternation (span : Span) {branch : Ast} (hne : branches ≠ [])
    (hbranches : ∀ b ∈ branches, b.IsBranch ∧ b.Shaped)
    (hbranch : branch.IsBranch ∧ branch.Shaped) :
    (Ast.alternation span (branch :: branches).reverse).Shaped := by
  have hcons : ∀ b ∈ branch :: branches, b.IsBranch ∧ b.Shaped :=
    List.forall_mem_cons.2 ⟨hbranch, hbranches⟩
  have hall : ∀ b ∈ (branch :: branches).reverse, b.IsBranch ∧ b.Shaped :=
    fun b hb => hcons b (List.mem_reverse.1 hb)
  refine ⟨?_, fun b hb => (hall b hb).1, allShaped_iff.2 fun b hb => (hall b hb).2⟩
  rw [List.length_reverse, List.length_cons]
  exact Nat.succ_le_succ (List.length_pos_iff.2 hne)

def Sequence.Shaped (s : Sequence) : Prop := ∀ item ∈ s.items, item.IsItem ∧ item.Shaped

def Frame.Shaped : Frame → Prop
  | .group outer _ _ _ => outer.Shaped
  | .alternation _ branches => branches ≠ [] ∧ ∀ b ∈ branches, b.IsBranch ∧ b.Shaped

structure ParseState.Shaped (s : ParseState) : Prop where
  frames : ∀ frame ∈ s.frames, frame.Shaped
  sequence : s.sequence.Shaped

theorem Sequence.shaped_nil (p : Position) : Sequence.Shaped ⟨p, []⟩ := fun _ h => nomatch h

theorem Sequence.Shaped.push {s : Sequence} (h : s.Shaped) {item : Ast} (hitem : item.IsItem)
    (hshaped : item.Shaped) : (s.push item).Shaped :=
  List.forall_mem_cons.2 ⟨⟨hitem, hshaped⟩, h⟩

theorem Sequence.Shaped.toAst {s : Sequence} (h : s.Shaped) (stop : Position) :
    (s.toAst stop).IsBranch ∧ (s.toAst stop).Shaped :=
  shaped_ofItems fun item hitem => h item (List.mem_reverse.1 hitem)

theorem ParseState.shaped_initial (pattern : List Char) : (initial pattern).Shaped :=
  ⟨List.forall_mem_nil _, Sequence.shaped_nil _⟩

theorem ParseState.Shaped.push {s : ParseState} (h : s.Shaped) {item : Ast} (hitem : item.IsItem)
    (hshaped : item.Shaped) (c : Cursor) : (s.push item c).Shaped :=
  ⟨h.frames, h.sequence.push hitem hshaped⟩

namespace Parser

variable {s s' : ParseState} {item ast : Ast} {rest : List Ast} {fuel : Nat}

theorem pushAlternate_shaped (h : s.Shaped) : (pushAlternate s).Shaped := by
  have hbranch := h.sequence.toAst s.cursor.pos
  refine ⟨?_, Sequence.shaped_nil _⟩
  simp only [pushAlternate]
  split
  · rename_i start branches rest hframes
    obtain ⟨⟨-, hbranches⟩, hrest⟩ := List.forall_mem_cons.1 (hframes ▸ h.frames)
    exact List.forall_mem_cons.2
      ⟨⟨List.cons_ne_nil _ _, List.forall_mem_cons.2 ⟨hbranch, hbranches⟩⟩, hrest⟩
  · exact List.forall_mem_cons.2
      ⟨⟨List.cons_ne_nil _ _, List.forall_mem_singleton.2 hbranch⟩, h.frames⟩

theorem pushGroup_shaped (h : s.Shaped) (hs : pushGroup s = .ok s') : s'.Shaped := by
  obtain ⟨⟨opening, names, c⟩, -, hs⟩ := bind_eq_ok.1 hs
  cases opening with
  | flags span entries =>
    cases hs
    exact ⟨h.frames, h.sequence.push trivial trivial⟩
  | group span kind =>
    cases hs
    exact ⟨List.forall_mem_cons.2 ⟨h.sequence, h.frames⟩, Sequence.shaped_nil _⟩

theorem popGroup_shaped (h : s.Shaped) (hs : popGroup s = .ok s') : s'.Shaped := by
  have hbranch := h.sequence.toAst s.cursor.pos
  have hframed := h.frames
  cases popGroup_cases hs with
  | branch hframes =>
    rw [hframes] at hframed
    obtain ⟨houter, hrest⟩ := List.forall_mem_cons.1 hframed
    exact ⟨hrest, houter.push trivial hbranch.2⟩
  | @choice start _ _ _ _ _ _ hframes =>
    rw [hframes] at hframed
    obtain ⟨⟨hne, hbranches⟩, hrest⟩ := List.forall_mem_cons.1 hframed
    obtain ⟨houter, hrest⟩ := List.forall_mem_cons.1 hrest
    have hbody := shaped_alternation ⟨start, s.cursor.pos⟩ hne hbranches hbranch
    exact ⟨hrest, houter.push trivial hbody⟩

theorem operand_isOperand (h : s.Shaped) (hoperand : operand s = .ok (item, rest)) :
    item.IsOperand := by
  have hitem := (h.sequence item (operand_items hoperand ▸ List.mem_cons_self)).1
  unfold operand at hoperand
  split at hoperand
  · cases hoperand
  · cases hoperand
  · cases hoperand
  · rename_i hflags _
    cases hoperand
    cases item with
    | empty | alternation | concat => exact hitem.elim
    | flags => exact (hflags _ _ rfl).elim
    | _ => trivial

theorem pushRepetition_shaped (h : s.Shaped) (hoperand : operand s = .ok (item, rest))
    (count : Count) (greedy : Bool) (c : Cursor) :
    (pushRepetition s item rest count greedy c).Shaped := by
  have hsequence := h.sequence
  rw [Sequence.Shaped, operand_items hoperand] at hsequence
  obtain ⟨⟨-, hshaped⟩, hrest⟩ := List.forall_mem_cons.1 hsequence
  have hitem := operand_isOperand h hoperand
  exact ⟨h.frames, List.forall_mem_cons.2 ⟨⟨trivial, hitem, hshaped⟩, hrest⟩⟩

/-- One step keeps the shape of what was read. -/
theorem Stepped.shaped (h : s.Shaped) (hs : Stepped s s') : s'.Shaped := by
  cases hs with
  | opens hx hs => exact pushGroup_shaped h hs
  | closes hx hs => exact popGroup_shaped h hs
  | bar hx hs => exact hs ▸ pushAlternate_shaped h
  | leaf item c hs hreach hspan hitem => exact hs ▸ h.push hitem.isItem hitem.shaped c
  | repeats item rest hs =>
    obtain ⟨hoperand, -, count, greedy, hs⟩ := hs
    exact hs ▸ pushRepetition_shaped h hoperand count greedy _

theorem finish_shaped (h : s.Shaped) (hast : finish s = .ok ast) : ast.Shaped := by
  have hbranch := h.sequence.toAst s.cursor.pos
  simp only [finish] at hast
  split at hast
  · rename_i start branches rest hframes
    obtain ⟨⟨hne, hbranches⟩, -⟩ := List.forall_mem_cons.1 (hframes ▸ h.frames)
    split at hast
    · cases hast
    · exact Except.ok.inj hast ▸ shaped_alternation _ hne hbranches hbranch
  · split at hast
    · cases hast
    · exact Except.ok.inj hast ▸ hbranch.2

theorem run_shaped (h : s.Shaped) (hast : run fuel s = .ok ast) : ast.Shaped := by
  induction fuel generalizing s with
  | zero => exact finish_shaped h hast
  | succ fuel ih =>
    let skipped : ParseState := { s with cursor := s.cursor.skipSpace s.verbose }
    have hskipped : skipped.Shaped := ⟨h.frames, h.sequence⟩
    simp only [run] at hast
    split at hast
    · exact finish_shaped hskipped hast
    · rename_i x hx
      obtain ⟨s', hs, hast⟩ := bind_eq_ok.1 hast
      have hstep : Stepped skipped s' := step_cases hx hs
      exact ih (hstep.shaped hskipped) hast

end Parser

theorem parse_shaped {pattern : List Char} {ast : Ast} (h : parse pattern = .ok ast) :
    ast.Shaped :=
  Parser.run_shaped (ParseState.shaped_initial pattern) (parse_eq_ok h)

end Pattern

namespace Outline

def singleKinds : List String :=
  ["repetition", "capturing_group", "named_group", "non_capturing_group"]

def severalKinds : List String := ["alternation", "concat"]

/-- A node with as many nodes right below it as its kind has, each of a kind that may stand there;
a capturing group is shown with its number. -/
structure Node.WellShaped (n : Node) : Prop where
  kind : n.label.kind ∈ leafKinds ++ singleKinds ++ severalKinds
  group : n.label.group.isSome = n.isGroup
  leaf : n.label.kind ∈ leafKinds → n.children = []
  single : n.label.kind ∈ singleKinds → n.children.length = 1
  several : n.label.kind ∈ severalKinds → 2 ≤ n.children.length
  concat : n.label.kind = "concat" → ∀ child ∈ n.children,
    child.label.kind ∉ ["concat", "alternation", "empty"]
  alternation : n.label.kind = "alternation" → ∀ child ∈ n.children,
    child.label.kind ≠ "alternation"
  repetition : n.label.kind = "repetition" → ∀ child ∈ n.children,
    child.label.kind ∉ ["empty", "flags", "concat", "alternation"]

namespace Node.WellShaped

variable {n : Node}

theorem of_leaf (h : n.IsLeaf) : n.WellShaped := by
  have hother : ∀ kind ∈ leafKinds, kind ∉ singleKinds ∧ kind ∉ severalKinds ∧
      (kind == "capturing_group" || kind == "named_group") = false := by decide
  obtain ⟨hkind, hgroup, hchildren⟩ := h
  obtain ⟨hsingle, hseveral, hnot⟩ := hother _ hkind
  refine ⟨?_, ?_, fun _ => hchildren, fun h => absurd h hsingle, fun h => absurd h hseveral,
    ?_, ?_, ?_⟩
  · exact List.mem_append_left _ (List.mem_append_left _ hkind)
  · rw [hgroup]
    exact hnot.symm
  all_goals
    rw [hchildren]
    exact fun _ _ hchild => nomatch hchild

theorem of_single (hkind : n.label.kind ∈ singleKinds) (hgroup : n.label.group.isSome = n.isGroup)
    (hlength : n.children.length = 1)
    (hrepetition : n.label.kind = "repetition" → ∀ child ∈ n.children,
      child.label.kind ∉ ["empty", "flags", "concat", "alternation"]) : n.WellShaped := by
  have hother : ∀ kind ∈ singleKinds, kind ∉ leafKinds ∧ kind ∉ severalKinds := by decide
  obtain ⟨hleaf, hseveral⟩ := hother _ hkind
  refine ⟨?_, hgroup, fun h => absurd h hleaf, fun _ => hlength, fun h => absurd h hseveral,
    fun h => ?_, fun h => ?_, hrepetition⟩
  · exact List.mem_append_left _ (List.mem_append_right _ hkind)
  · exact absurd (h ▸ by decide) hseveral
  · exact absurd (h ▸ by decide) hseveral

theorem of_several (hkind : n.label.kind ∈ severalKinds) (hgroup : n.label.group = none)
    (hlength : 2 ≤ n.children.length)
    (hconcat : n.label.kind = "concat" → ∀ child ∈ n.children,
      child.label.kind ∉ ["concat", "alternation", "empty"])
    (halternation : n.label.kind = "alternation" → ∀ child ∈ n.children,
      child.label.kind ≠ "alternation") : n.WellShaped := by
  have hother : ∀ kind ∈ severalKinds, kind ∉ leafKinds ∧ kind ∉ singleKinds ∧
      (kind == "capturing_group" || kind == "named_group") = false := by decide
  obtain ⟨hleaf, hsingle, hnot⟩ := hother _ hkind
  refine ⟨List.mem_append_right _ hkind, ?_, fun h => absurd h hleaf, fun h => absurd h hsingle,
    fun _ => hlength, hconcat, halternation, fun h => ?_⟩
  · rw [hgroup]
    exact hnot.symm
  · exact absurd (h ▸ by decide) hsingle

end Node.WellShaped

variable {pattern : List Char} {ast : Ast}

theorem kind_of_isItem (h : ast.IsItem) :
    (nodeOf pattern ast).label.kind ∉ ["concat", "alternation", "empty"] := by
  rw [kind_nodeOf]
  cases ast with
  | empty | alternation | concat => exact h.elim
  | group span kind sub => cases kind <;> simp [Ast.kind]
  | _ => simp [Ast.kind]

theorem kind_of_isOperand (h : ast.IsOperand) :
    (nodeOf pattern ast).label.kind ∉ ["empty", "flags", "concat", "alternation"] := by
  rw [kind_nodeOf]
  cases ast with
  | empty | flags | alternation | concat => exact h.elim
  | group span kind sub => cases kind <;> simp [Ast.kind]
  | _ => simp [Ast.kind]

theorem kind_of_isBranch (h : ast.IsBranch) :
    (nodeOf pattern ast).label.kind ≠ "alternation" := by
  rw [kind_nodeOf]
  cases ast with
  | alternation => exact h.elim
  | group span kind sub => cases kind <;> simp [Ast.kind]
  | _ => simp [Ast.kind]

theorem nodesOf_eq_map (pattern : List Char) (items : List Ast) :
    nodesOf pattern items = items.map (nodeOf pattern) := by
  induction items with
  | nil => rfl
  | cons item rest ih => rw [nodesOf, ih, List.map_cons]

theorem wellShaped_nodeOf (h : ast.Shaped) : (nodeOf pattern ast).WellShaped := by
  cases ast using node_cases pattern with
  | leaf ast hleaf => exact .of_leaf hleaf
  | repetition span count greedy sub =>
    exact .of_single (by decide : "repetition" ∈ singleKinds) rfl rfl
      fun _ => List.forall_mem_singleton.2 (kind_of_isOperand h.1)
  | group span kind sub =>
    have hne : "repetition" ∉ ["capturing_group", "named_group", "non_capturing_group"] := by
      decide
    have hkind := kind_group pattern span kind sub
    have hsingle : ∀ kind ∈ ["capturing_group", "named_group", "non_capturing_group"],
        kind ∈ singleKinds := by decide
    refine .of_single (hsingle _ hkind) ?_ (by cases kind <;> rfl) fun h => absurd (h ▸ hkind) hne
    rcases kind with _ | _ | ⟨_ | _⟩ <;> rfl
  | alternation span branches =>
    obtain ⟨hlength, hbranches, -⟩ := h
    have hchildren : (nodeOf pattern (.alternation span branches)).children =
        branches.map (nodeOf pattern) := nodesOf_eq_map pattern branches
    refine .of_several (by decide : "alternation" ∈ severalKinds) rfl ?_
      (fun h => absurd (show "alternation" = "concat" from h) (by decide)) fun _ => ?_
    · rwa [hchildren, List.length_map]
    · rw [hchildren]
      exact List.forall_mem_map.2 fun branch hbranch => kind_of_isBranch (hbranches branch hbranch)
  | concat span items =>
    obtain ⟨hlength, hitems, -⟩ := h
    have hchildren : (nodeOf pattern (.concat span items)).children =
        items.map (nodeOf pattern) := nodesOf_eq_map pattern items
    refine .of_several (by decide : "concat" ∈ severalKinds) rfl ?_ (fun _ => ?_)
      fun h => absurd (show "concat" = "alternation" from h) (by decide)
    · rwa [hchildren, List.length_map]
    · rw [hchildren]
      exact List.forall_mem_map.2 fun item hitem => kind_of_isItem (hitems item hitem)

def Node.namedNodes (root : Node) : List Node :=
  root.nodes.filter fun n => n.label.kind == "named_group"

structure Node.Numbered (root : Node) : Prop where
  numbers : root.groupNodes.map (·.label.group) =
    (List.range' 1 root.groupNodes.length).map some
  names : ∃ names : List String, names.Nodup ∧ root.namedNodes.map (·.label.detail) =
    names.map fun name => some ("Named capture: " ++ name)

theorem numbers_of_showsGroup {nodes : List Node} {groups : List (Nat × Option String)}
    (h : List.Forall₂ (fun n (group : Nat × Option String) => n.ShowsGroup group.1 group.2)
      nodes groups) : nodes.map (·.label.group) = (groups.map Prod.fst).map some := by
  induction h with
  | nil => rfl
  | cons hn _ ih => rw [List.map_cons, hn.number, ih, List.map_cons, List.map_cons]

theorem names_of_showsGroup {nodes : List Node} {groups : List (Nat × Option String)}
    (h : List.Forall₂ (fun n (group : Nat × Option String) => n.ShowsGroup group.1 group.2)
      nodes groups) :
    (nodes.filter fun n => n.label.kind == "named_group").map (·.label.detail) =
      (groups.filterMap Prod.snd).map fun name => some ("Named capture: " ++ name) := by
  induction h with
  | nil => rfl
  | @cons n group nodes groups hn _ ih =>
    obtain ⟨number, name?⟩ := group
    cases name? with
    | none =>
      have hkind : n.label.kind = "capturing_group" := hn.kind
      rw [List.filter_cons_of_neg (by simp [hkind]), ih]
      rfl
    | some name =>
      have hkind : n.label.kind = "named_group" := hn.kind
      rw [List.filter_cons_of_pos (by simp [hkind]), List.map_cons, ih, (hn.detail name).2 rfl]
      rfl

theorem namedNodes_eq (root : Node) :
    root.namedNodes = root.groupNodes.filter fun n => n.label.kind == "named_group" := by
  rw [Node.namedNodes, Node.groupNodes, List.filter_filter]
  refine List.filter_congr fun n _ => ?_
  rw [Node.isGroup]
  cases n.label.kind == "named_group" <;> simp

/-- The tree of a well-formed pattern has a node for each part, all of them well shaped, and its
group nodes show the groups of the pattern one by one, numbered from 1 on. -/
theorem ofPattern_wellShaped {pattern : String} {ast : Ast}
    (h : Pattern.parse pattern.toList = .ok ast) (engine : Engine) :
    Node.Draws ast (ofPattern pattern engine).root ∧
      (∀ n ∈ (ofPattern pattern engine).root.nodes, n.WellShaped) ∧
      List.Forall₂ (fun n (group : Nat × Option String) => n.ShowsGroup group.1 group.2)
        (ofPattern pattern engine).root.groupNodes ast.groups ∧
      (ofPattern pattern engine).root.Numbered := by
  have hroot : (ofPattern pattern engine).root = nodeOf pattern.toList ast := by
    rw [ofPattern, h]
  have hshows :
      List.Forall₂ (fun n (group : Nat × Option String) => n.ShowsGroup group.1 group.2)
        (nodeOf pattern.toList ast).groupNodes ast.groups := groupNodes_nodeOf ast
  have htally := Pattern.parse_tally h
  rw [hroot]
  refine ⟨draws_nodeOf _ ast, forall_nodes (fun _ hast => hast.parts) (fun _ => wellShaped_nodeOf)
    ast (Pattern.parse_shaped h), hshows, ?_, ?_⟩
  · rw [numbers_of_showsGroup hshows, htally.numbers, hshows.length_eq]
  · exact ⟨_, htally.apart, by rw [namedNodes_eq, names_of_showsGroup hshows]⟩

theorem ofPattern_wellShaped_nested :
    ∃ ast, Pattern.parse "(?<y>a+)(?:|b)((c)*)".toList = .ok ast ∧
      ast.groups = [(1, some "y"), (2, none), (3, none)] ∧
      Node.Draws ast (ofPattern "(?<y>a+)(?:|b)((c)*)" .linear).root ∧
      (ofPattern "(?<y>a+)(?:|b)((c)*)" .linear).root.nodes.map
          (fun n => (n.label.kind, n.label.group, n.children.length)) =
        [("concat", none, 3), ("named_group", some 1, 1), ("repetition", none, 1),
          ("literal", none, 0), ("non_capturing_group", none, 1), ("alternation", none, 2),
          ("empty", none, 0), ("literal", none, 0), ("capturing_group", some 2, 1),
          ("repetition", none, 1), ("capturing_group", some 3, 1), ("literal", none, 0)] ∧
      (∀ n ∈ (ofPattern "(?<y>a+)(?:|b)((c)*)" .linear).root.nodes, n.WellShaped) ∧
      (ofPattern "(?<y>a+)(?:|b)((c)*)" .linear).root.Numbered := by
  have hgroups : (Pattern.parse "(?<y>a+)(?:|b)((c)*)".toList).map (·.groups) =
      .ok [(1, some "y"), (2, none), (3, none)] := by cbv
  obtain ⟨ast, hast, hgroups⟩ := map_eq_ok.1 hgroups
  obtain ⟨hdraws, hshaped, -, hnumbered⟩ := ofPattern_wellShaped hast .linear
  exact ⟨ast, hast, hgroups, hdraws, by cbv, hshaped, hnumbered⟩

end Outline

end RegexStudio
