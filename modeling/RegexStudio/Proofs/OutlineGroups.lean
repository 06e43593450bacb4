import RegexStudio.Proofs.OutlineSpans
import RegexStudio.Proofs.Replacement
import RegexStudio.Proofs.TemplateGrammar

/-! The groups in the tree of a pattern against those that a template may refer to. The tree has all
of them; the linear engine has no group that stands in a repetition without rounds, and so no name
for it either. Where it loses nothing in this way the two agree. -/

namespace RegexStudio

open Pattern (Ast Mark Tally)

namespace Outline

def Node.isGroup (n : Node) : Bool :=
  n.label.kind == "capturing_group" || n.label.kind == "named_group"

structure Node.ShowsGroup (n : Node) (number : Nat) (name? : Option String) : Prop where
  number : n.label.group = some number
  kind : n.label.kind = if name?.isSome then "named_group" else "capturing_group"
  detail : ∀ name, n.label.detail = some ("Named capture: " ++ name) ↔ name? = some name

def Node.groupNodes (root : Node) : List Node := root.nodes.filter Node.isGroup

variable {pattern : List Char}

theorem kind_nodeOf_ne (pattern : List Char) (ast : Ast) :
    (nodeOf pattern ast).label.kind ≠ "backtracking" := by
  rw [kind_nodeOf]
  cases ast with
  | group span kind sub => cases kind <;> simp [Ast.kind]
  | _ => simp [Ast.kind]

theorem shows_capture (span : Pattern.Span) (index : Nat) (sub : Ast) :
    (nodeOf pattern (.group span (.capture index) sub)).ShowsGroup index none := by
  refine ⟨rfl, rfl, fun name => ⟨fun h => ?_, fun h => nomatch h⟩⟩
  -- the two texts differ in their first character
  have htext := congrArg String.toList (Option.some.inj h)
  rw [String.toList_append] at htext
  exact absurd (List.cons.inj htext).1 (by decide)

theorem shows_named (span : Pattern.Span) (index : Nat) (name : String) (sub : Ast) :
    (nodeOf pattern (.group span (.named index name) sub)).ShowsGroup index (some name) := by
  refine ⟨rfl, rfl, fun name' => ⟨fun h => ?_, fun h => ?_⟩⟩
  · have htext := congrArg String.toList (Option.some.inj h)
    rw [String.toList_append, String.toList_append] at htext
    rw [String.toList_inj.1 (List.append_cancel_left htext)]
  · rw [← Option.some.inj h]
    rfl

mutual

/-- The group nodes of a tree show the groups of the pattern one by one. -/
theorem groupNodes_nodeOf (ast : Ast) :
    List.Forall₂ (fun n (group : Nat × Option String) => n.ShowsGroup group.1 group.2)
      (nodeOf pattern ast).groupNodes ast.groups := by
  match ast with
  | .repetition span count greedy sub =>
    have hsub := groupNodes_nodeOf sub
    rw [Node.groupNodes, ← allNodes_singleton] at hsub
    exact hsub
  | .group span kind sub =>
    have hsub := groupNodes_nodeOf sub
    rw [Node.groupNodes, ← allNodes_singleton] at hsub
    rcases kind with index | ⟨index, name⟩ | ⟨_ | _⟩
    · exact .cons (shows_capture span index sub) hsub
    · exact .cons (shows_named span index name sub) hsub
    · exact hsub
    · exact hsub
  | .alternation span items | .concat span items => exact groupNodes_nodesOf items
  | .empty _ | .flags .. | .literal _ | .dot _ | .assertion .. | .property .. | .perl ..
  | .bracket .. => exact .nil

theorem groupNodes_nodesOf (items : List Ast) :
    List.Forall₂ (fun n (group : Nat × Option String) => n.ShowsGroup group.1 group.2)
      ((Node.allNodes (nodesOf pattern items)).filter Node.isGroup)
      ((Ast.allMarks items).filterMap Mark.group?) := by
  match items with
  | [] => exact .nil
  | item :: rest =>
    rw [Ast.allMarks, List.filterMap_append, nodesOf, Node.allNodes, List.filter_append]
    exact List.rel_append (groupNodes_nodeOf item) (groupNodes_nodesOf rest)

end

end Outline

namespace Pattern

/-- Whether the linear engine loses no group of a pattern by which a template could tell: a group
that it drops has no name, and a later one is kept. -/
def Ast.KeepsGroups (ast : Ast) : Prop :=
  ∀ group ∈ ast.groups, group ∈ ast.keptGroups ∨
    group.2 = none ∧ ∃ kept ∈ ast.keptGroups, group.1 < kept.1

def Ast.HasNames (ast : Ast) (names : List (Option String)) : Prop :=
  ∀ (i : Nat) (name? : Option String), names[i + 1]? = some name? ↔ (i + 1, name?) ∈ ast.groups

variable {ast : Ast} {names : List (Option String)}

theorem hasNames_iff_tail (h : Tally ast.groups) :
    ast.HasNames names ↔ names.tail = ast.groups.map Prod.snd := by
  constructor
  · intro hnames
    refine List.ext_getElem? fun j => Option.ext fun name? => ?_
    rw [List.getElem?_tail, hnames, h.mem_iff]
  · intro htail i name?
    rw [h.mem_iff, ← htail, List.getElem?_tail]

theorem hasNames_iff_keepsGroups (h : Tally ast.groups)
    (hnames : NamesGroups ast.keptGroups names) : ast.HasNames names ↔ ast.KeepsGroups := by
  have hkept : ∀ group ∈ ast.keptGroups, group ∈ ast.groups :=
    fun _ hgroup => (keptGroups_sublist ast).subset hgroup
  constructor
  · rintro hall ⟨number, name?⟩ hgroup
    obtain ⟨i, rfl⟩ := Nat.exists_eq_add_of_le' (h.mem_pos hgroup).1
    have hget := (hall i name?).2 hgroup
    cases name? with
    | some name => exact .inl (hnames.only _ _ hget)
    | none =>
      rcases hnames.last _ (List.getElem?_eq_some_iff.1 hget).1 with hzero | ⟨last, hlast, hle⟩
      · cases hzero
      rcases Nat.lt_or_eq_of_le hle with hlt | heq
      · exact .inr ⟨rfl, last, hlast, hlt⟩
      · obtain ⟨number, name?⟩ := last
        obtain rfl : i + 1 = number := heq
        rw [h.name_unique hgroup (hkept _ hlast)]
        exact .inl hlast
  · intro hkeeps i name?
    constructor
    · intro hget
      cases name? with
      | some name => exact hkept _ (hnames.only _ _ hget)
      | none =>
        -- the number is that of some group, and its name cannot be lost
        rcases hnames.last _ (List.getElem?_eq_some_iff.1 hget).1 with hzero | ⟨last, hlast, hle⟩
        · cases hzero
        obtain ⟨name?, hgroup⟩ := h.exists_mem (Nat.le_add_left 1 i)
          (hle.trans (h.mem_pos (hkept last hlast)).2)
        rcases hkeeps _ hgroup with hin | ⟨hunnamed, -⟩
        · have hsame := (hnames.named _ hin).symm.trans hget
          rwa [← Option.some.inj hsame]
        · exact hunnamed ▸ hgroup
    · intro hgroup
      rcases hkeeps _ hgroup with hin | ⟨hunnamed, last, hlast, hlt⟩
      · exact hnames.named _ hin
      · obtain rfl : name? = none := hunnamed
        have hlength := (List.getElem?_eq_some_iff.1 (hnames.named last hlast)).1
        have hi : i + 1 < names.length := Nat.lt_trans hlt hlength
        rw [List.getElem?_eq_getElem hi]
        cases hget : names[i + 1] with
        | none => rfl
        | some name =>
          have hin := hnames.only (i + 1) name (List.getElem?_eq_some_iff.2 ⟨hi, hget⟩)
          cases h.name_unique hgroup (hkept _ hin)

end Pattern

namespace Outline

theorem showsGroup_unique :
    Relator.RightUnique fun (n : Node) (group : Nat × Option String) =>
      n.ShowsGroup group.1 group.2 := by
  rintro n ⟨number, name?⟩ ⟨number', name?'⟩ h h'
  have hnumber : number = number' := Option.some.inj (h.number.symm.trans h'.number)
  have hname : name? = name?' := Option.ext fun name => (h.detail name).symm.trans (h'.detail name)
  rw [hnumber, hname]

/-- Whether the group nodes of a tree show the groups with some names, numbered from 1 on; the name
of the whole match is left out. -/
def Node.Agrees (root : Node) (names : List (Option String)) : Prop :=
  List.Forall₂ (fun n (group : Nat × Option String) => n.ShowsGroup group.1 group.2)
    root.groupNodes ((List.range' 1 names.tail.length).zip names.tail)

theorem agrees_iff_hasNames {root : Node} {ast : Ast} {names : List (Option String)}
    (hshows : List.Forall₂ (fun n (group : Nat × Option String) => n.ShowsGroup group.1 group.2)
      root.groupNodes ast.groups) (h : Tally ast.groups) :
    root.Agrees names ↔ ast.HasNames names := by
  rw [Pattern.hasNames_iff_tail h]
  constructor
  · intro hagrees
    have hsame := List.right_unique_forall₂' showsGroup_unique hshows hagrees
    rw [hsame, List.map_snd_zip (by rw [List.length_range'])]
  · intro htail
    have hzip : ast.groups = (List.range' 1 names.tail.length).zip names.tail := by
      refine List.zip_of_prod ?_ htail.symm
      rw [htail, List.length_map]
      exact h.numbers
    rw [Node.Agrees, ← hzip]
    exact hshows

end Outline

namespace Template

open Token

def braced (name : String) : String := "$\x7b" ++ name ++ "\x7d"

theorem decomposes_braced {name : String} (hnil : name ≠ "") (hclose : '\x7d' ∉ name.toList) :
    Decomposes (braced name) [.braced name.toList] := by
  refine ⟨?_, ⟨fun h => hnil (String.toList_inj.1 h), hclose⟩, trivial⟩
  rw [braced, String.toList_append, String.toList_append]
  exact List.append_nil _

theorem compile_braced {name : String} {names : List (Option String)} (hnil : name ≠ "")
    (hclose : '\x7d' ∉ name.toList) :
    (∃ t, compile (braced name) names = .ok t) ↔
      unresolved names (.ofName name.toList) = none := by
  have hrefs : refs ⟨[.group (.ofName name.toList)]⟩ = [.ofName name.toList] := rfl
  rw [compile, parse_of_decomposes (decomposes_braced hnil hclose)]
  change (∃ t, ((validate ⟨[.group (.ofName name.toList)]⟩ names) >>= fun _ => .ok _) = .ok t) ↔ _
  rw [validate, hrefs, List.findSome?_singleton]
  cases unresolved names (.ofName name.toList) with
  | none => exact ⟨fun _ => rfl, fun _ => ⟨_, rfl⟩⟩
  | some e =>
    refine iff_of_false ?_ (Option.some_ne_none e)
    rintro ⟨_, h⟩
    cases h

variable {ast : Ast} {names : List (Option String)}

theorem contains_iff (hnames : NamesGroups ast.keptGroups names) (hall : ast.HasNames names)
    (h : Tally ast.groups) {name : String} :
    names.contains (some name) = true ↔ ∃ i, (i, some name) ∈ ast.groups := by
  rw [List.contains_iff_mem, List.mem_iff_getElem?]
  constructor
  · rintro ⟨i, hi⟩
    cases i with
    | zero =>
      rw [hnames.whole] at hi
      cases hi
    | succ i => exact ⟨i + 1, (hall i _).1 hi⟩
  · rintro ⟨i, hi⟩
    obtain ⟨j, rfl⟩ := Nat.exists_eq_add_of_le' (h.mem_pos hi).1
    exact ⟨j + 1, (hall j _).2 hi⟩

theorem unresolved_name (hnames : NamesGroups ast.keptGroups names) (hall : ast.HasNames names)
    (h : Tally ast.groups) {name : String} (hword : name.toList.all Text.isDigit = false) :
    unresolved names (.ofName name.toList) = none ↔ ∃ i, (i, some name) ∈ ast.groups := by
  rw [GroupRef.ofName, hword, Bool.false_and, if_neg Bool.false_ne_true, String.ofList_toList,
    ← contains_iff hnames hall h, unresolved]
  split
  · rename_i hmem
    exact ⟨fun _ => hmem, fun _ => rfl⟩
  · rename_i hmem
    exact iff_of_false (Option.some_ne_none _) hmem

theorem unresolved_number (hnames : NamesGroups ast.keptGroups names) (hall : ast.HasNames names)
    (h : Tally ast.groups) {digits : String} (hdigits : digits.toList.all Text.isDigit = true)
    (hpos : 1 ≤ Text.decimalValue digits.toList) :
    unresolved names (.ofName digits.toList) = none ↔
      ∃ name?, (Text.decimalValue digits.toList, name?) ∈ ast.groups := by
  obtain ⟨i, hi⟩ := Nat.exists_eq_add_of_le' hpos
  rw [GroupRef.ofName, hdigits, Bool.true_and]
  by_cases hmax : Text.decimalValue digits.toList ≤ GroupRef.maxIndex
  · rw [decide_eq_true hmax, if_pos rfl, unresolved, hi]
    simp only [← hall i]
    split
    · rename_i hlength
      exact ⟨fun _ => ⟨_, List.getElem?_eq_getElem hlength⟩, fun _ => rfl⟩
    · rename_i hlength
      refine iff_of_false (Option.some_ne_none _) ?_
      rintro ⟨_, hget⟩
      exact hlength (List.getElem?_eq_some_iff.1 hget).1
  · -- beyond the largest number it is taken for a name, which no group has
    have hnone : ¬∃ name?, (Text.decimalValue digits.toList, name?) ∈ ast.groups := by
      rintro ⟨name?, hmem⟩
      have hle := (h.mem_pos hmem).2.trans h.limit
      exact hmax (hle.trans (by decide))
    have hname : ¬names.contains (some digits) = true := by
      rw [contains_iff hnames hall h]
      rintro ⟨j, hmem⟩
      have hword := h.words digits (List.mem_filterMap.2 ⟨_, hmem, rfl⟩)
      rw [hdigits] at hword
      cases hword
    rw [decide_eq_false hmax, if_neg Bool.false_ne_true, String.ofList_toList, unresolved,
      if_neg hname]
    exact iff_of_false (Option.some_ne_none _) hnone

end Template

namespace Outline

theorem exists_mem_iff_of_forall₂ {α β : Type} {R : α → β → Prop} {P : α → Prop} {Q : β → Prop}
    {xs : List α} {ys : List β} (h : List.Forall₂ R xs ys)
    (hiff : ∀ x y, R x y → (P x ↔ Q y)) : (∃ x ∈ xs, P x) ↔ ∃ y ∈ ys, Q y := by
  induction h with
  | nil => exact ⟨fun ⟨_, hx, _⟩ => (nomatch hx), fun ⟨_, hy, _⟩ => (nomatch hy)⟩
  | cons hxy _ ih =>
    simp only [List.mem_cons, exists_eq_or_imp]
    exact or_congr (hiff _ _ hxy) ih

variable {root : Node} {ast : Ast}

theorem shown_number (hshows : List.Forall₂ (fun n (group : Nat × Option String) =>
      n.ShowsGroup group.1 group.2) root.groupNodes ast.groups) (number : Nat) :
    (∃ n ∈ root.groupNodes, n.label.group = some number) ↔
      ∃ name?, (number, name?) ∈ ast.groups := by
  rw [exists_mem_iff_of_forall₂ hshows fun n group hn => by rw [hn.number, Option.some.injEq]]
  constructor
  · rintro ⟨⟨_, name?⟩, hmem, rfl⟩
    exact ⟨name?, hmem⟩
  · rintro ⟨name?, hmem⟩
    exact ⟨_, hmem, rfl⟩

theorem shown_name (hshows : List.Forall₂ (fun n (group : Nat × Option String) =>
      n.ShowsGroup group.1 group.2) root.groupNodes ast.groups) (name : String) :
    (∃ n ∈ root.groupNodes, n.label.kind = "named_group" ∧
        n.label.detail = some ("Named capture: " ++ name)) ↔
      ∃ i, (i, some name) ∈ ast.groups := by
  have hname (n : Node) (group : Nat × Option String) (hn : n.ShowsGroup group.1 group.2) :
      (n.label.kind = "named_group" ∧ n.label.detail = some ("Named capture: " ++ name)) ↔
        group.2 = some name := by
    rw [hn.detail, and_iff_right_iff_imp]
    intro hsome
    rw [hn.kind, hsome]
    rfl
  rw [exists_mem_iff_of_forall₂ hshows hname]
  constructor
  · rintro ⟨⟨i, _⟩, hmem, rfl⟩
    exact ⟨i, hmem⟩
  · rintro ⟨i, hmem⟩
    exact ⟨_, hmem, rfl⟩

/-- Each pattern that is compiled for the linear engine has a tree that shows its groups in order.
The names by number are those of the groups that the engine keeps; they agree with the tree if no
group is lost, and then a template may refer to the groups that the tree shows and to no others. -/
theorem ofPattern_groups {forced : Option Engine} {pattern : String} {c : Compiled}
    (h : Compiled.ofPattern forced pattern = .ok c) (hlinear : c.engine = .linear) :
    ∃ ast root, Pattern.parse pattern.toList = .ok ast ∧
      (ofPattern pattern c.engine).root = root ∧ root.label.kind ≠ "backtracking" ∧
      List.Forall₂ (fun n (group : Nat × Option String) => n.ShowsGroup group.1 group.2)
        root.groupNodes ast.groups ∧
      ast.groups.map Prod.fst = List.range' 1 ast.groups.length ∧
      NamesGroups ast.keptGroups c.groupNames ∧
      (root.Agrees c.groupNames ↔ ast.KeepsGroups) ∧
      (ast.KeepsGroups →
        (∀ digits : String, digits.toList.all Text.isDigit = true →
          1 ≤ Text.decimalValue digits.toList →
            ((∃ t, Template.compile (Template.braced digits) c.groupNames = .ok t) ↔
              ∃ n ∈ root.groupNodes, n.label.group = some (Text.decimalValue digits.toList))) ∧
        ∀ name : String, name.toList.all Text.isDigit = false → '\x7d' ∉ name.toList →
          ((∃ t, Template.compile (Template.braced name) c.groupNames = .ok t) ↔
            ∃ n ∈ root.groupNodes, n.label.kind = "named_group" ∧
              n.label.detail = some ("Named capture: " ++ name))) := by
  have hre := Compiled.ofPattern_eq_ok h
  cases c with
  | backtracking re => cases hlinear
  | linear re =>
    obtain ⟨ast, hparse, hnames⟩ := Linear.Regex.compile_groups hre
    have htally := Pattern.parse_tally hparse
    have hroot : (ofPattern pattern (Compiled.linear re).engine).root =
        nodeOf pattern.toList ast := by
      rw [ofPattern, hparse]
    have hshows :
        List.Forall₂ (fun n (group : Nat × Option String) => n.ShowsGroup group.1 group.2)
          (nodeOf pattern.toList ast).groupNodes ast.groups := groupNodes_nodeOf ast
    have hkeeps := Pattern.hasNames_iff_keepsGroups htally hnames
    refine ⟨ast, _, hparse, hroot, kind_nodeOf_ne _ ast, hshows, htally.numbers, hnames,
      (agrees_iff_hasNames hshows htally).trans hkeeps, fun hkept => ⟨?_, ?_⟩⟩
    · intro digits hdigits hpos
      have hnil : digits ≠ "" := by
        rintro rfl
        exact absurd hpos (by decide)
      have hclose : '\x7d' ∉ digits.toList := fun hmem =>
        absurd (List.all_eq_true.1 hdigits _ hmem) (by decide)
      exact (Template.compile_braced hnil hclose).trans
        ((Template.unresolved_number hnames (hkeeps.2 hkept) htally hdigits hpos).trans
          (shown_number hshows _).symm)
    · intro name hword hclose
      have hnil : name ≠ "" := by
        rintro rfl
        cases hword
      exact (Template.compile_braced hnil hclose).trans
        ((Template.unresolved_name hnames (hkeeps.2 hkept) htally hword).trans
          (shown_name hshows _).symm)

theorem ofPattern_groups_lost :
    (∃ c, Compiled.ofPattern (some .linear) "(?<x>a)" = .ok c ∧ c.engine = .linear ∧
      (ofPattern "(?<x>a)" c.engine).root.Agrees c.groupNames ∧
      ∃ t, Template.compile (Template.braced "x") c.groupNames = .ok t) ∧
    ∃ c, Compiled.ofPattern (some .linear) "(?<x>a)\x7b0\x7db" = .ok c ∧ c.engine = .linear ∧
      ¬(ofPattern "(?<x>a)\x7b0\x7db" c.engine).root.Agrees c.groupNames := by
  have hkept : (Compiled.ofPattern (some .linear) "(?<x>a)").map Compiled.engine =
      .ok .linear := by cbv
  have hlost : (Compiled.ofPattern (some .linear) "(?<x>a)\x7b0\x7db").map Compiled.engine =
      .ok .linear := by cbv
  have hgroups : (Pattern.parse "(?<x>a)".toList).map (fun ast =>
      (ast.groups, ast.keptGroups)) = .ok ([(1, some "x")], [(1, some "x")]) := by cbv
  have hgroups' : (Pattern.parse "(?<x>a)\x7b0\x7db".toList).map (fun ast =>
      (ast.groups, ast.keptGroups)) = .ok ([(1, some "x")], []) := by cbv
  obtain ⟨c, hc, hlinear⟩ := map_eq_ok.1 hkept
  obtain ⟨c', hc', hlinear'⟩ := map_eq_ok.1 hlost
  obtain ⟨ast, _, hparse, rfl, -, hshows, -, -, hagrees, htemplates⟩ :=
    ofPattern_groups hc hlinear
  obtain ⟨ast', _, hparse', rfl, -, -, -, -, hagrees', -⟩ := ofPattern_groups hc' hlinear'
  rw [hparse] at hgroups
  rw [hparse'] at hgroups'
  obtain ⟨hall, hsome⟩ := Prod.mk.inj (Except.ok.inj hgroups)
  obtain ⟨hall', hsome'⟩ := Prod.mk.inj (Except.ok.inj hgroups')
  have hkeeps : ast.KeepsGroups := fun group hgroup => .inl (by rwa [hsome, ← hall])
  have hshown := (shown_name hshows "x").2 ⟨1, hall ▸ List.mem_singleton_self _⟩
  have haccepts := (htemplates hkeeps).2 "x" (by decide) (by decide)
  refine ⟨⟨c, hc, hlinear, hagrees.2 hkeeps, haccepts.2 hshown⟩,
    ⟨c', hc', hlinear', fun h => ?_⟩⟩
  · rcases hagrees'.1 h (1, some "x") (hall' ▸ List.mem_singleton_self _) with hmem | ⟨hnone, -⟩
    · rw [hsome'] at hmem
      cases hmem
    · cases hnone

end Outline

end RegexStudio
