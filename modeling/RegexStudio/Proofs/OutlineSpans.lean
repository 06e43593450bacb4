import Mathlib
import RegexStudio.Outline
import RegexStudio.Proofs.PatternSpans

/-! The tree of a pattern against its text: each node shows the piece of the pattern between the
ends of its span, and the pieces of the nodes below a node make up its own. -/

namespace RegexStudio

open Text (byteLength byteLength_append)

namespace Outline

mutual

def Node.nodes : Node → List Node
  | .mk label children => .mk label children :: Node.allNodes children

def Node.allNodes : List Node → List Node
  | [] => []
  | n :: rest => n.nodes ++ Node.allNodes rest

end

def Between : Nat → Nat → List Node → Prop
  | lo, hi, [] => lo ≤ hi
  | lo, hi, n :: rest => ∃ range, n.label.span = some range ∧ lo ≤ range.start ∧
      range.start ≤ range.stop ∧ Between range.stop hi rest

/-- A node that shows the piece of the pattern in its range, with the nodes below it one behind
another in there. -/
structure Node.Shows (pattern : List Char) (n : Node) (range : Range) : Prop where
  span : n.label.span = some range
  place : ∃ before after, pattern = before ++ n.label.text.toList ++ after ∧
    range.start = byteLength before ∧ range.stop = byteLength (before ++ n.label.text.toList)
  text : Text.slice pattern range.start range.stop = some n.label.text.toList
  children : Between range.start range.stop n.children

structure Node.Tiled (n : Node) : Prop where
  concat : n.label.kind = "concat" → n.label.text = String.join (n.children.map (·.label.text))
  alternation : n.label.kind = "alternation" →
    n.label.text = "|".intercalate (n.children.map (·.label.text))
  repetition : n.label.kind = "repetition" → ∃ child operator, n.children = [child] ∧
    operator ≠ "" ∧ n.label.text = child.label.text ++ operator
  group : n.label.kind ∈ ["capturing_group", "named_group", "non_capturing_group"] →
    ∃ child lead, n.children = [child] ∧
      n.label.text = "(" ++ lead ++ child.label.text ++ ")"

end Outline

namespace Pattern

/-- A part that stands in a pattern where its span says. -/
def Ast.StandsIn (plain : Prop) (pattern : List Char) (ast : Ast) : Prop :=
  ∃ before text after, pattern = before ++ text ++ after ∧
    ast.span.start.offset = byteLength before ∧ ast.Covers plain text

/-- Text of which all that stands before a mark stands in the pattern, behind other text. -/
def Lies (pattern before mark text : List Char) : Prop :=
  ∀ front piece back, text = front ++ piece ++ mark ++ back →
    ∃ after, pattern = before ++ front ++ piece ++ after

variable {plain : Prop} {pattern before mark text after : List Char} {ast : Ast}
  {items : List Ast}

theorem lies_of_eq (h : pattern = before ++ text ++ after) (mark : List Char) :
    Lies pattern before mark (text ++ mark) := by
  intro front piece back heq
  have hlen := congrArg List.length heq
  simp only [List.length_append] at hlen
  have hprefix : front ++ piece <+: text := by
    refine List.prefix_of_prefix_length_le ?_ (List.prefix_append text mark) ?_
    · exact ⟨mark ++ back, by rw [heq, List.append_assoc (front ++ piece)]⟩
    · rw [List.length_append]
      omega
  obtain ⟨rest, rfl⟩ := hprefix
  exact ⟨rest ++ after, by rw [h]; simp⟩

theorem Lies.behind {piece : List Char} (h : Lies pattern before mark (piece ++ mark ++ text)) :
    Lies pattern (before ++ (piece ++ mark)) mark text := by
  intro front piece' back heq
  obtain ⟨after, hafter⟩ := h (piece ++ mark ++ front) piece' back (by rw [heq]; simp)
  exact ⟨after, by rw [hafter]; simp⟩

theorem Holds.standsIn (h : Holds plain ast.span (ast.Covers plain) (byteLength before) text)
    (hpattern : pattern = before ++ text ++ after) : ast.StandsIn plain pattern := by
  obtain ⟨front, piece, back, rfl, -, hspan, hpiece⟩ := h
  refine ⟨before ++ front, piece, back ++ after, by rw [hpattern]; simp, ?_, hpiece⟩
  rw [hspan, byteLength_append]

theorem Ast.Row.standIn (h : Ast.Row plain mark (byteLength before) items text)
    (hlies : Lies pattern before mark text) : ∀ item ∈ items, item.StandsIn plain pattern := by
  induction items generalizing before text with
  | nil => exact fun _ h => nomatch h
  | cons item rest ih =>
    obtain ⟨piece, after, rfl, hpiece, hrest⟩ := h
    rw [← byteLength_append] at hrest
    obtain ⟨back, hback⟩ := hlies [] piece after rfl
    rw [List.append_nil] at hback
    exact List.forall_mem_cons.2 ⟨hpiece.standsIn hback, ih hrest hlies.behind⟩

def Ast.parts : Ast → List Ast
  | .repetition _ _ _ sub | .group _ _ sub => [sub]
  | .alternation _ items | .concat _ items => items
  | _ => []

def Ast.kind : Ast → String
  | .empty _ => "empty"
  | .flags .. => "flags"
  | .literal _ => "literal"
  | .dot _ => "any_char"
  | .assertion .. => "assertion"
  | .property .. => "unicode_class"
  | .perl .. => "perl_class"
  | .bracket .. => "bracketed_class"
  | .repetition .. => "repetition"
  | .group _ (.capture _) _ => "capturing_group"
  | .group _ (.named ..) _ => "named_group"
  | .group _ (.plain _) _ => "non_capturing_group"
  | .alternation .. => "alternation"
  | .concat .. => "concat"

theorem Ast.StandsIn.parts (h : ast.StandsIn plain pattern) :
    ∀ part ∈ ast.parts, part.StandsIn plain pattern := by
  obtain ⟨before, text, after, hpattern, hstart, hcovers⟩ := h
  cases ast with
  | repetition span count greedy sub =>
    obtain ⟨-, piece, operator, rfl, -, hpiece⟩ := hcovers
    have hplace : pattern = before ++ piece ++ (operator ++ after) := by rw [hpattern]; simp
    rw [show span.start.offset = _ from hstart] at hpiece
    exact List.forall_mem_singleton.2 (hpiece.standsIn hplace)
  | group span kind sub =>
    obtain ⟨-, lead, piece, rfl, hpiece⟩ := hcovers
    have hplace : pattern = before ++ '(' :: lead ++ piece ++ (')' :: after) := by
      rw [hpattern]
      simp
    rw [show span.start.offset = _ from hstart, ← byteLength_append] at hpiece
    exact List.forall_mem_singleton.2 (hpiece.standsIn hplace)
  | alternation span branches =>
    have hrow := hcovers.2
    rw [show span.start.offset = _ from hstart] at hrow
    exact hrow.standIn (lies_of_eq hpattern ['|'])
  | concat span items =>
    have hrow := hcovers.2
    rw [show span.start.offset = _ from hstart] at hrow
    have hlies := lies_of_eq hpattern []
    rw [List.append_nil] at hlies
    exact hrow.standIn hlies
  | _ => exact List.forall_mem_nil _

end Pattern

namespace Outline

open Pattern (Ast Holds Lies lies_of_eq)

variable {plain : Prop} {pattern before mark text after : List Char} {ast : Ast}
  {items : List Ast}

theorem label_nodeOf (pattern : List Char) (ast : Ast) :
    (nodeOf pattern ast).label = labelOf pattern ast := by
  cases ast <;> rfl

theorem labelOf_text (hpattern : pattern = before ++ text ++ after)
    (hstart : ast.span.start.offset = byteLength before) (hmeasures : ast.span.Measures text) :
    (labelOf pattern ast).text = String.ofList text ∧
      Text.slice pattern ast.span.start.offset ast.span.stop.offset = some text := by
  have hslice : Text.slice pattern ast.span.start.offset ast.span.stop.offset = some text := by
    rw [show ast.span.stop.offset = _ from hmeasures, hstart, hpattern]
    exact Text.slice_append before text after
  refine ⟨?_, hslice⟩
  change String.ofList ((Text.slice pattern ast.span.start.offset
    ast.span.stop.offset).getD []) = _
  rw [hslice]
  rfl

theorem span_nodeOf (pattern : List Char) (ast : Ast) :
    (nodeOf pattern ast).label.span = some ⟨ast.span.start.offset, ast.span.stop.offset⟩ := by
  rw [label_nodeOf]
  rfl

theorem row_between {start lo hi : Nat} (h : Ast.Row plain mark start items text)
    (hlo : lo ≤ start) (hle : lo ≤ hi) (hhi : start + byteLength text ≤ hi + byteLength mark) :
    Between lo hi (nodesOf pattern items) := by
  induction items generalizing start lo text with
  | nil => exact hle
  | cons item rest ih =>
    obtain ⟨piece, after, rfl, ⟨front, inner, back, rfl, -, hspan, hinner⟩, hrest⟩ := h
    have hstop : item.span.stop.offset = item.span.start.offset + byteLength inner :=
      hinner.measures
    simp only [byteLength_append] at hhi hrest
    refine ⟨_, span_nodeOf pattern item, ?_, ?_, ?_⟩
    · change lo ≤ item.span.start.offset
      omega
    · change item.span.start.offset ≤ item.span.stop.offset
      omega
    · refine ih hrest ?_ ?_ ?_
      · change item.span.stop.offset ≤ _
        omega
      · change item.span.stop.offset ≤ _
        omega
      · omega

theorem row_texts (hplain : plain) (h : Ast.Row plain mark (byteLength before) items text)
    (hlies : Lies pattern before mark text) :
    text = (nodesOf pattern items).flatMap fun n => n.label.text.toList ++ mark := by
  induction items generalizing before text with
  | nil => exact h hplain
  | cons item rest ih =>
    obtain ⟨piece, after, rfl, ⟨front, inner, back, rfl, hexact, hspan, hinner⟩, hrest⟩ := h
    obtain ⟨rfl, rfl⟩ := hexact hplain
    simp only [List.nil_append, List.append_nil] at hlies hrest ⊢
    obtain ⟨back, hback⟩ := hlies [] inner after rfl
    rw [List.append_nil] at hback
    rw [← byteLength_append] at hrest
    have htext := (labelOf_text hback hspan hinner.measures).1
    rw [nodesOf, List.flatMap_cons, ← ih hrest hlies.behind, label_nodeOf, htext,
      String.toList_ofList]

theorem flatMap_append_eq_intercalate (sep : List Char) {l : List (List Char)} (h : l ≠ []) :
    (l.flatMap fun x => x ++ sep) = sep.intercalate l ++ sep := by
  induction l with
  | nil => exact absurd rfl h
  | cons x rest ih =>
    cases rest with
    | nil => simp
    | cons y rest =>
      rw [List.flatMap_cons, ih (List.cons_ne_nil y rest), List.intercalate_cons_cons]
      simp

theorem holds_text (hplain : plain)
    (h : Holds plain ast.span (ast.Covers plain) (byteLength before) text)
    (hpattern : pattern = before ++ text ++ after) :
    (nodeOf pattern ast).label.text.toList = text := by
  obtain ⟨front, inner, back, rfl, hexact, hspan, hinner⟩ := h
  obtain ⟨rfl, rfl⟩ := hexact hplain
  simp only [List.nil_append, List.append_nil] at hpattern ⊢
  rw [label_nodeOf, (labelOf_text hpattern hspan hinner.measures).1, String.toList_ofList]

theorem holds_between {start lo hi : Nat}
    (h : Holds plain ast.span (ast.Covers plain) start text) (hlo : lo ≤ start)
    (hhi : start + byteLength text ≤ hi) : Between lo hi [nodeOf pattern ast] := by
  obtain ⟨front, inner, back, rfl, -, hspan, hinner⟩ := h
  have hstop : ast.span.stop.offset = ast.span.start.offset + byteLength inner := hinner.measures
  simp only [byteLength_append] at hhi
  refine ⟨_, span_nodeOf pattern ast, ?_, ?_, ?_⟩
  · change lo ≤ ast.span.start.offset
    omega
  · change ast.span.start.offset ≤ ast.span.stop.offset
    omega
  · change ast.span.stop.offset ≤ hi
    omega

theorem text_nodeOf (hpattern : pattern = before ++ text ++ after)
    (hstart : ast.span.start.offset = byteLength before) (hcovers : ast.Covers plain text) :
    (nodeOf pattern ast).label.text = String.ofList text := by
  rw [label_nodeOf]
  exact (labelOf_text hpattern hstart hcovers.measures).1

theorem children_between (hcovers : ast.Covers plain text) :
    Between ast.span.start.offset ast.span.stop.offset (nodeOf pattern ast).children := by
  have hstop : ast.span.stop.offset = ast.span.start.offset + byteLength text := hcovers.measures
  have hle : ast.span.start.offset ≤ ast.span.stop.offset := hstop ▸ Nat.le_add_right _ _
  cases ast with
  | repetition span count greedy sub =>
    obtain ⟨-, piece, operator, rfl, -, hpiece⟩ := hcovers
    refine holds_between hpiece (Nat.le_refl _) ?_
    rw [hstop, byteLength_append, ← Nat.add_assoc]
    exact Nat.le_add_right _ _
  | group span kind sub =>
    obtain ⟨-, lead, piece, rfl, hpiece⟩ := hcovers
    refine holds_between hpiece (Nat.le_add_right _ _) ?_
    rw [hstop, byteLength_append, byteLength_append, ← Nat.add_assoc, ← Nat.add_assoc]
    exact Nat.le_add_right _ _
  | alternation span branches =>
    refine row_between hcovers.2 (Nat.le_refl _) hle ?_
    rw [hstop, byteLength_append, Nat.add_assoc]
    exact Nat.le_refl _
  | concat span items =>
    refine row_between hcovers.2 (Nat.le_refl _) hle ?_
    rw [hstop]
    exact Nat.le_refl _
  | _ => exact hle

theorem shows_nodeOf (h : ast.StandsIn plain pattern) :
    ∃ range, (nodeOf pattern ast).Shows pattern range := by
  obtain ⟨before, text, after, hpattern, hstart, hcovers⟩ := h
  obtain ⟨htext, hslice⟩ := labelOf_text hpattern hstart hcovers.measures
  have hstop : ast.span.stop.offset = ast.span.start.offset + byteLength text := hcovers.measures
  refine ⟨_, span_nodeOf pattern ast, ⟨before, after, ?_, hstart, ?_⟩, ?_,
    children_between hcovers⟩
  · rw [label_nodeOf, htext, String.toList_ofList]
    exact hpattern
  · rw [label_nodeOf, htext, String.toList_ofList, byteLength_append, ← hstart]
    exact hstop
  · rw [label_nodeOf, htext, String.toList_ofList]
    exact hslice

/-- A node that shows a part of a pattern, with a node below it for each part right inside. -/
inductive Node.Draws : Ast → Node → Prop
  | mk {ast : Ast} {n : Node} (kind : n.label.kind = ast.kind)
      (span : n.label.span = some ⟨ast.span.start.offset, ast.span.stop.offset⟩)
      (children : List.Forall₂ Draws ast.parts n.children) : Draws ast n

theorem kind_nodeOf (pattern : List Char) (ast : Ast) :
    (nodeOf pattern ast).label.kind = ast.kind := by
  rw [label_nodeOf]
  cases ast with
  | group span kind sub => rcases kind with _ | _ | ⟨_ | _⟩ <;> rfl
  | _ => rfl

mutual

theorem draws_nodeOf (pattern : List Char) (ast : Ast) : Node.Draws ast (nodeOf pattern ast) := by
  refine .mk (kind_nodeOf pattern ast) (span_nodeOf pattern ast) ?_
  match ast with
  | .repetition _ _ _ sub | .group _ _ sub => exact .cons (draws_nodeOf pattern sub) .nil
  | .alternation _ items | .concat _ items => exact draws_nodesOf pattern items
  | .empty _ | .flags .. | .literal _ | .dot _ | .assertion .. | .property .. | .perl ..
  | .bracket .. => exact .nil

theorem draws_nodesOf (pattern : List Char) (items : List Ast) :
    List.Forall₂ Node.Draws items (nodesOf pattern items) := by
  match items with
  | [] => exact .nil
  | item :: rest => exact .cons (draws_nodeOf pattern item) (draws_nodesOf pattern rest)

end

def leafKinds : List String :=
  ["empty", "flags", "literal", "any_char", "assertion", "unicode_class", "perl_class",
    "bracketed_class"]

structure Node.IsLeaf (n : Node) : Prop where
  kind : n.label.kind ∈ leafKinds
  group : n.label.group = none
  children : n.children = []

/-- Parts by the nodes that show them: those with no part inside are alike. -/
@[elab_as_elim]
theorem node_cases {motive : Ast → Prop} (pattern : List Char)
    (leaf : ∀ ast, (nodeOf pattern ast).IsLeaf → motive ast)
    (repetition : ∀ span count greedy sub, motive (.repetition span count greedy sub))
    (group : ∀ span kind sub, motive (.group span kind sub))
    (alternation : ∀ span branches, motive (.alternation span branches))
    (concat : ∀ span items, motive (.concat span items)) (ast : Ast) : motive ast := by
  cases ast with
  | repetition => exact repetition ..
  | group => exact group ..
  | alternation => exact alternation ..
  | concat => exact concat ..
  | _ => exact leaf _ ⟨by simp [kind_nodeOf, Ast.kind, leafKinds], rfl, rfl⟩

theorem Node.IsLeaf.tiled {n : Node} (h : n.IsLeaf) : n.Tiled := by
  have hne {kind : String} (hnot : kind ∉ leafKinds) : n.label.kind ≠ kind :=
    fun heq => hnot (heq ▸ h.kind)
  refine ⟨fun h => absurd h (hne (by decide)), fun h => absurd h (hne (by decide)),
    fun h => absurd h (hne (by decide)), fun hgroup => ?_⟩
  have hnot : ∀ kind ∈ ["capturing_group", "named_group", "non_capturing_group"],
      kind ∉ leafKinds := by decide
  exact absurd h.kind (hnot _ hgroup)

theorem kind_group (pattern : List Char) (span : Pattern.Span) (kind : Pattern.GroupKind)
    (sub : Ast) : (nodeOf pattern (.group span kind sub)).label.kind ∈
      ["capturing_group", "named_group", "non_capturing_group"] := by
  rw [kind_nodeOf]
  cases kind <;> simp [Ast.kind]

theorem tiled_nodeOf (hplain : plain) (h : ast.StandsIn plain pattern) :
    (nodeOf pattern ast).Tiled := by
  obtain ⟨before, text, after, hpattern, hstart, hcovers⟩ := h
  have htext := text_nodeOf hpattern hstart hcovers
  cases ast using node_cases pattern with
  | leaf ast hleaf => exact hleaf.tiled
  | repetition span count greedy sub =>
    obtain ⟨-, piece, operator, rfl, hop, hpiece⟩ := hcovers
    have hstart' : span.start.offset = byteLength before := hstart
    rw [hstart'] at hpiece
    have hplace : pattern = before ++ piece ++ (operator ++ after) := by rw [hpattern]; simp
    have hchild := holds_text hplain hpiece hplace
    refine ⟨fun h => absurd (show "repetition" = "concat" from h) (by decide),
      fun h => absurd (show "repetition" = "alternation" from h) (by decide), fun _ => ?_,
      fun h => absurd (show "repetition" ∈ _ from h) (by decide)⟩
    refine ⟨_, String.ofList operator, rfl, ?_, ?_⟩
    · exact fun heq => hop (by simpa using congrArg String.toList heq)
    · rw [htext, ← String.toList_inj]
      simp [hchild]
  | group span kind sub =>
    obtain ⟨-, lead, piece, rfl, hpiece⟩ := hcovers
    have hstart' : span.start.offset = byteLength before := hstart
    rw [hstart', ← byteLength_append] at hpiece
    have hplace : pattern = before ++ '(' :: lead ++ piece ++ (')' :: after) := by
      rw [hpattern]
      simp
    have hchild := holds_text hplain hpiece hplace
    have hkind := kind_group pattern span kind sub
    have hne {kind' : String}
        (hnot : kind' ∉ ["capturing_group", "named_group", "non_capturing_group"]) :
        (nodeOf pattern (.group span kind sub)).label.kind ≠ kind' := fun h => hnot (h ▸ hkind)
    refine ⟨fun h => absurd h (hne (by decide)), fun h => absurd h (hne (by decide)),
      fun h => absurd h (hne (by decide)), fun _ => ⟨_, String.ofList lead, rfl, ?_⟩⟩
    rw [htext, ← String.toList_inj]
    simp [hchild]
  | alternation span branches =>
    have hstart' : span.start.offset = byteLength before := hstart
    have hrow := hcovers.2
    rw [hstart'] at hrow
    have htexts := row_texts hplain hrow (lies_of_eq hpattern ['|'])
    -- the row has a bar behind the last branch too, one more than the choice
    have hne : (nodesOf pattern branches).map (·.label.text.toList) ≠ [] := by
      intro hnil
      rw [List.map_eq_nil_iff.1 hnil] at htexts
      exact List.append_ne_nil_of_right_ne_nil text (List.cons_ne_nil '|' []) htexts
    have hjoined := flatMap_append_eq_intercalate ['|'] hne
    rw [List.flatMap_map, ← htexts] at hjoined
    have hbranches := List.append_cancel_right hjoined
    refine ⟨fun h => absurd (show "alternation" = "concat" from h) (by decide), fun _ => ?_,
      fun h => absurd (show "alternation" = "repetition" from h) (by decide),
      fun h => absurd (show "alternation" ∈ _ from h) (by decide)⟩
    rw [htext, ← String.toList_inj, String.toList_ofList, String.toList_intercalate, List.map_map]
    exact hbranches
  | concat span items =>
    have hstart' : span.start.offset = byteLength before := hstart
    have hrow := hcovers.2
    rw [hstart'] at hrow
    have hlies := lies_of_eq hpattern []
    rw [List.append_nil] at hlies
    have htexts := row_texts hplain hrow hlies
    simp only [List.append_nil] at htexts
    refine ⟨fun _ => ?_, fun h => absurd (show "concat" = "alternation" from h) (by decide),
      fun h => absurd (show "concat" = "repetition" from h) (by decide),
      fun h => absurd (show "concat" ∈ _ from h) (by decide)⟩
    rw [htext, ← String.toList_inj, String.toList_ofList, String.toList_join, List.flatMap_map]
    exact htexts

def Node.Fits (plain : Prop) (pattern : List Char) (n : Node) : Prop :=
  (∃ range, n.Shows pattern range) ∧ (plain → n.Tiled)

theorem allNodes_singleton (n : Node) : Node.allNodes [n] = n.nodes := List.append_nil _

variable {P : Ast → Prop} {Q : Node → Prop}

mutual

/-- What holds of a part and of the parts inside of it tells of all nodes that show them. -/
theorem forall_nodes (hparts : ∀ ast, P ast → ∀ part ∈ ast.parts, P part)
    (hnode : ∀ ast, P ast → Q (nodeOf pattern ast)) (ast : Ast) (h : P ast) :
    ∀ n ∈ (nodeOf pattern ast).nodes, Q n := by
  have htop := hnode ast h
  have hinside := hparts ast h
  match ast with
  | .repetition _ _ _ sub | .group _ _ sub =>
    have hsub := forall_nodes hparts hnode sub (hinside sub (List.mem_singleton_self sub))
    rw [← allNodes_singleton] at hsub
    exact List.forall_mem_cons.2 ⟨htop, hsub⟩
  | .alternation _ items | .concat _ items =>
    exact List.forall_mem_cons.2 ⟨htop, forall_allNodes hparts hnode items hinside⟩
  | .empty _ | .flags .. | .literal _ | .dot _ | .assertion .. | .property .. | .perl ..
  | .bracket .. => exact List.forall_mem_singleton.2 htop

theorem forall_allNodes (hparts : ∀ ast, P ast → ∀ part ∈ ast.parts, P part)
    (hnode : ∀ ast, P ast → Q (nodeOf pattern ast)) (items : List Ast)
    (h : ∀ item ∈ items, P item) : ∀ n ∈ Node.allNodes (nodesOf pattern items), Q n := by
  match items with
  | [] => exact List.forall_mem_nil _
  | item :: rest =>
    obtain ⟨hitem, hrest⟩ := List.forall_mem_cons.1 h
    exact List.forall_mem_append.2
      ⟨forall_nodes hparts hnode item hitem, forall_allNodes hparts hnode rest hrest⟩

end

theorem nodes_fit (ast : Ast) (h : ast.StandsIn plain pattern) :
    ∀ n ∈ (nodeOf pattern ast).nodes, n.Fits plain pattern :=
  forall_nodes (fun _ hast => hast.parts)
    (fun _ hast => ⟨shows_nodeOf hast, fun hplain => tiled_nodeOf hplain hast⟩) ast h

/-- The tree of a well-formed pattern has a node for each part. Every node shows the piece of the
pattern in its range, with the nodes below it one behind another in there. Unless flags in the
pattern turn on that white space is ignored, the root shows all of the pattern and each node is made
up of those below it. -/
theorem ofPattern_shows {pattern : String} {ast : Ast}
    (h : Pattern.parse pattern.toList = .ok ast) (engine : Engine) :
    Node.Draws ast (ofPattern pattern engine).root ∧
      (∀ n ∈ (ofPattern pattern engine).root.nodes, ∃ range, n.Shows pattern.toList range) ∧
      (ast.KeepsSpace → (ofPattern pattern engine).root.label.text = pattern ∧
        ∀ n ∈ (ofPattern pattern engine).root.nodes, n.Tiled) := by
  have hroot : (ofPattern pattern engine).root = nodeOf pattern.toList ast := by
    rw [ofPattern, h]
  have hholds : Holds ast.KeepsSpace ast.span (ast.Covers ast.KeepsSpace) (byteLength [])
      pattern.toList := Pattern.parse_covers h
  have hpattern : pattern.toList = [] ++ pattern.toList ++ [] := by simp
  have hfit := nodes_fit ast (hholds.standsIn hpattern)
  rw [hroot]
  refine ⟨draws_nodeOf _ ast, fun n hn => (hfit n hn).1,
    fun hkeeps => ⟨?_, fun n hn => (hfit n hn).2 hkeeps⟩⟩
  exact String.toList_inj.1 (holds_text hkeeps hholds hpattern)

theorem ofPattern_shows_choice :
    ∃ ast, Pattern.parse "(a|é)*".toList = .ok ast ∧ ast.KeepsSpace ∧
      Node.Draws ast (ofPattern "(a|é)*" .linear).root ∧
      (ofPattern "(a|é)*" .linear).root.nodes.map
          (fun n => (n.label.kind, n.label.text, n.label.span)) =
        [("repetition", "(a|é)*", some ⟨0, 7⟩), ("capturing_group", "(a|é)", some ⟨0, 6⟩),
          ("alternation", "a|é", some ⟨1, 5⟩), ("literal", "a", some ⟨1, 2⟩),
          ("literal", "é", some ⟨3, 5⟩)] ∧
      (∀ n ∈ (ofPattern "(a|é)*" .linear).root.nodes,
        ∃ range, n.Shows "(a|é)*".toList range) ∧
      (ofPattern "(a|é)*" .linear).root.label.text = "(a|é)*" ∧
      ∀ n ∈ (ofPattern "(a|é)*" .linear).root.nodes, n.Tiled := by
  let first : Ast := .literal ⟨⟨⟨1, 1, 2⟩, ⟨2, 1, 3⟩⟩, 'a', false⟩
  let second : Ast := .literal ⟨⟨⟨3, 1, 4⟩, ⟨5, 1, 5⟩⟩, 'é', false⟩
  let choice : Ast := .alternation ⟨⟨1, 1, 2⟩, ⟨5, 1, 5⟩⟩ [first, second]
  let group : Ast := .group ⟨⟨0, 1, 1⟩, ⟨6, 1, 6⟩⟩ (.capture 1) choice
  have hparse : Pattern.parse "(a|é)*".toList =
      .ok (.repetition ⟨⟨0, 1, 1⟩, ⟨7, 1, 7⟩⟩ .any true group) := by cbv
  have hkeeps : (Ast.repetition ⟨⟨0, 1, 1⟩, ⟨7, 1, 7⟩⟩ .any true group).KeepsSpace :=
    ⟨trivial, trivial, trivial, trivial⟩
  obtain ⟨hdraws, hshows, htiled⟩ := ofPattern_shows hparse .linear
  exact ⟨_, hparse, hkeeps, hdraws, by cbv, hshows, htiled hkeeps⟩

end Outline

end RegexStudio
