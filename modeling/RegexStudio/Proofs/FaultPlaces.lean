import RegexStudio.Proofs.PatternMarks

/-! Where a pattern is found to be at fault. The readers refuse it at their cursor, at a place where
they began or at a part that they have read; all of these are places in the pattern, and so are the
places in what they read. -/

namespace RegexStudio.Pattern

open Text (byteLength byteLength_append)

def Position.Within (pattern : List Char) (p : Position) : Prop :=
  ∃ before after, pattern = before ++ after ∧ p.offset = byteLength before

def Cursor.Within (pattern : List Char) (c : Cursor) : Prop :=
  ∃ before, pattern = before ++ c.rest ∧ c.pos.offset = byteLength before

variable {pattern : List Char} {verbose : Bool} {c c' : Cursor} {p : Position}

theorem within_default : Position.Within pattern default := ⟨[], pattern, rfl, rfl⟩

theorem Position.Within.le (h : p.Within pattern) : p.offset ≤ byteLength pattern := by
  obtain ⟨before, after, rfl, hoffset⟩ := h
  rw [hoffset, byteLength_append]
  exact Nat.le_add_right _ _

namespace Cursor.Within

theorem pos (h : c.Within pattern) : c.pos.Within pattern := by
  obtain ⟨before, hpattern, hoffset⟩ := h
  exact ⟨before, c.rest, hpattern, hoffset⟩

theorem reaches (h : c.Within pattern) (hc : c.Reaches c') : c'.Within pattern := by
  obtain ⟨before, hpattern, hoffset⟩ := h
  obtain ⟨text, hc⟩ := hc
  refine ⟨before ++ text, ?_, ?_⟩
  · rw [hpattern, hc.rest, List.append_assoc]
  · rw [hc.offset, hoffset, byteLength_append]

theorem bump (h : c.Within pattern) : c.bump.Within pattern := h.reaches (reaches_bump c)

theorem bumpMany (h : c.Within pattern) (n : Nat) : (c.bumpMany n).Within pattern :=
  h.reaches (reaches_bumpMany n c)

theorem skipSpace (h : c.Within pattern) (verbose : Bool) : (c.skipSpace verbose).Within pattern :=
  h.reaches (reaches_skipSpace verbose c)

theorem bumpSpace (h : c.Within pattern) (verbose : Bool) : (c.bumpSpace verbose).Within pattern :=
  h.reaches (reaches_bumpSpace verbose c)

end Cursor.Within

/-- A reading that comes to a result with some property, or to a fault that begins in the
pattern. -/
def Settles {α : Type} (pattern : List Char) (Q : α → Prop) : Except Fault α → Prop
  | .ok a => Q a
  | .error fault => fault.span.start.Within pattern

namespace Settles

variable {α β : Type} {Q : α → Prop} {R : β → Prop} {x : Except Fault α} {f : α → Except Fault β}
  {reason : Reason} {span : Span}

theorem refuse (h : span.start.Within pattern) : Settles pattern Q (refuse reason span) := h

theorem bind (hx : Settles pattern Q x) (hf : ∀ a, Q a → Settles pattern R (f a)) :
    Settles pattern R (x >>= f) := by
  cases x with
  | ok a => exact hf a hx
  | error fault => exact hx

theorem mono (hx : Settles pattern Q x) {Q' : α → Prop} (h : ∀ a, x = .ok a → Q a → Q' a) :
    Settles pattern Q' x := by
  cases x with
  | ok a => exact h a rfl hx
  | error fault => exact hx

theorem result {a : α} (hx : Settles pattern Q x) (h : x = .ok a) : Q a := by
  rw [h] at hx
  exact hx

theorem fault {fault : Fault} (hx : Settles pattern Q x) (h : x = .error fault) :
    fault.span.start.Within pattern := by
  rw [h] at hx
  exact hx

theorem guard {g : Prop} [Decidable g] {f : α → Except Fault β} {y : Except Fault β}
    (hspan : g → span.start.Within pattern) (hy : ¬g → Settles pattern R y) :
    Settles pattern R (if g then Pattern.refuse reason span >>= f else y) := by
  split
  · rename_i hg
    exact hspan hg
  · rename_i hg
    exact hy hg

end Settles

namespace Escape

theorem bracedDigits_settles (hc : c.Within pattern) (digits : List Char) :
    Settles pattern (fun r => r.2.Within pattern) (bracedDigits verbose c digits) := by
  fun_induction bracedDigits verbose c digits with
  | case1 c digits hrest => exact hc.bumpSpace verbose
  | case2 c digits x xs hrest _ hx => exact hc.bumpSpace verbose
  | case3 c digits x xs hrest _ hx hhex => exact .refuse (hc.bumpSpace verbose).pos
  | case4 c digits x xs hrest _ hx hhex ih => exact ih (hc.bumpSpace verbose)

theorem braced_settles (hc : c.Within pattern) :
    Settles pattern (fun r => r.2.Within pattern) (braced verbose c) := by
  refine (bracedDigits_settles hc []).bind fun (digits, c₁) hc₁ => ?_
  refine .guard (fun _ => hc.pos) fun _ => .guard (fun _ => hc.pos) fun _ => ?_
  dsimp only
  split
  · exact .refuse hc.bump.pos
  · exact hc₁.bumpSpace verbose

theorem fixedDigits_settles (hc : c.Within pattern) (n : Nat) (digits : List Char) :
    Settles pattern (fun r => r.2.Within pattern) (fixedDigits verbose n c digits) := by
  induction n generalizing c digits with
  | zero => exact hc
  | succ n ih =>
    have hnext : (if digits.isEmpty then c else c.bumpSpace verbose).Within pattern := by
      split
      · exact hc
      · exact hc.bumpSpace verbose
    simp only [fixedDigits]
    split
    · exact .refuse hnext.pos
    · exact .guard (fun _ => hnext.pos) fun _ => ih hnext _

theorem fixed_settles (hc : c.Within pattern) (count : Nat) :
    Settles pattern (fun r => r.2.Within pattern) (fixed verbose count c) := by
  refine (fixedDigits_settles hc count []).bind fun (digits, c₁) hc₁ => ?_
  dsimp only
  split
  · exact .refuse hc.pos
  · exact hc₁.bumpSpace verbose

theorem hexadecimal_settles (hc : c.Within pattern) (letter : Char) :
    Settles pattern (fun r => r.2.Within pattern) (hexadecimal verbose letter c) := by
  have hnext := hc.bumpSpace verbose
  simp only [hexadecimal]
  split
  · exact .refuse hnext.pos
  · exact braced_settles hnext
  · exact fixed_settles hnext _

def Begins (pattern : List Char) (p : Position) (r : Primitive × Cursor) : Prop :=
  r.1.span.start = p ∧ r.2.Within pattern

theorem property_settles (hc : c.Within pattern) (letter : Char) :
    Settles pattern (Begins pattern p) (property verbose p letter c) := by
  have hnext := hc.bumpSpace verbose
  simp only [property]
  split
  · exact .refuse hnext.pos
  · have hname := hnext.bump.reaches (bracedName_reaches verbose _ [])
    exact .guard (fun _ => hname.pos) fun _ => ⟨rfl, hname.bump⟩
  · exact .refuse hnext.pos
  · exact ⟨rfl, hnext.bumpSpace verbose⟩

theorem specialBoundary_settles (hc : c.Within pattern) (hp : p.Within pattern) :
    Settles pattern (fun r => ∀ found ∈ r, found.2.Within pattern)
      (specialBoundary verbose p c) := by
  have hinside := hc.bumpSpace verbose
  have hname := hinside.reaches (boundaryName_reaches verbose _ [])
  simp only [specialBoundary]
  split
  · exact .refuse hp
  split
  · exact fun _ h => nomatch h
  refine .guard (fun _ => hc.pos) fun _ => ?_
  split
  · exact .refuse hinside.pos
  · rintro found ⟨⟩
    exact hname.bump

theorem read_settles (hc : c.Within pattern) :
    Settles pattern (Begins pattern c.pos) (read verbose c) := by
  have hletter := hc.bump
  have hnext := hletter.bump
  simp only [read]
  split
  · exact .refuse hc.pos
  split
  · exact .refuse hc.pos
  split
  · exact (hexadecimal_settles hletter _).bind fun _ h => ⟨rfl, h⟩
  split
  · exact property_settles hletter _
  split
  · exact ⟨rfl, hnext⟩
  split
  · exact ⟨rfl, hnext⟩
  split
  · exact ⟨rfl, hnext⟩
  · exact ⟨rfl, hnext⟩
  split
  · exact .refuse hc.pos
  split
  · exact ⟨rfl, hnext⟩
  refine (specialBoundary_settles hnext hc.pos).bind fun found hfound => ?_
  cases found with
  | none => exact ⟨rfl, hnext⟩
  | some found => exact ⟨rfl, hfound _ rfl⟩

end Escape

mutual

def ClassNode.Within (pattern : List Char) : ClassNode → Prop
  | .bracket span _ body => span.start.Within pattern ∧ body.Within pattern
  | .union span items => span.start.Within pattern ∧ ClassNode.AllWithin pattern items
  | .operation span _ lhs rhs =>
    span.start.Within pattern ∧ lhs.Within pattern ∧ rhs.Within pattern
  | node => node.span.start.Within pattern

def ClassNode.AllWithin (pattern : List Char) : List ClassNode → Prop
  | [] => True
  | item :: rest => item.Within pattern ∧ ClassNode.AllWithin pattern rest

end

theorem allWithin_iff {items : List ClassNode} :
    ClassNode.AllWithin pattern items ↔ ∀ item ∈ items, item.Within pattern := by
  induction items with
  | nil => exact ⟨fun _ _ h => (nomatch h), fun _ => trivial⟩
  | cons item rest ih => rw [ClassNode.AllWithin, ih, List.forall_mem_cons]

theorem ClassNode.Within.start {node : ClassNode} (h : node.Within pattern) :
    node.span.start.Within pattern := by
  cases node with
  | bracket | union | operation => exact h.1
  | _ => exact h

theorem tooDeep_cases {depth : Nat} {own span : Span} {inner : Option Span}
    (h : (if nestLimit ≤ depth then some own else inner) = some span) :
    own = span ∨ inner = some span := by
  split at h
  · exact .inl (Option.some.inj h)
  · exact .inr h

mutual

theorem ClassNode.tooDeep?_within (node : ClassNode) (h : node.Within pattern) {depth : Nat}
    {span : Span} (hdeep : node.tooDeep? depth = some span) : span.start.Within pattern := by
  match node with
  | .bracket _ _ body =>
    rcases tooDeep_cases hdeep with rfl | hdeep
    · exact h.1
    · exact tooDeep?_within body h.2 hdeep
  | .union _ items =>
    rcases tooDeep_cases hdeep with rfl | hdeep
    · exact h.1
    · exact anyTooDeep?_within items h.2 hdeep
  | .operation _ _ lhs rhs =>
    obtain ⟨hstart, hlhs, hrhs⟩ := h
    rcases tooDeep_cases hdeep with rfl | hdeep
    · exact hstart
    · rcases Option.or_eq_some_iff.1 hdeep with hdeep | ⟨-, hdeep⟩
      · exact tooDeep?_within lhs hlhs hdeep
      · exact tooDeep?_within rhs hrhs hdeep
  | .empty _ | .literal _ | .range .. | .ascii .. | .property .. | .perl .. => cases hdeep

theorem ClassNode.anyTooDeep?_within (items : List ClassNode)
    (h : ClassNode.AllWithin pattern items) {depth : Nat} {span : Span}
    (hdeep : anyTooDeep? depth items = some span) : span.start.Within pattern := by
  match items with
  | [] => cases hdeep
  | item :: rest =>
    rcases Option.or_eq_some_iff.1 hdeep with hdeep | ⟨-, hdeep⟩
    · exact tooDeep?_within item h.1 hdeep
    · exact anyTooDeep?_within rest h.2 hdeep

end

structure ClassUnion.Within (pattern : List Char) (u : ClassUnion) : Prop where
  start : u.span.start.Within pattern
  items : ∀ item ∈ u.items, item.Within pattern

namespace ClassUnion

variable {u : ClassUnion} {node : ClassNode}

theorem within_emptyAt (hp : p.Within pattern) : (emptyAt p).Within pattern :=
  ⟨hp, List.forall_mem_nil _⟩

theorem Within.push (h : u.Within pattern) (hnode : node.Within pattern) :
    (u.push node).Within pattern := by
  refine ⟨?_, List.forall_mem_cons.2 ⟨hnode, h.items⟩⟩
  change (if u.items.isEmpty then node.span.start else u.span.start).Within pattern
  split
  · exact hnode.start
  · exact h.start

theorem Within.toNode (h : u.Within pattern) : u.toNode.Within pattern := by
  have hitems := h.items
  unfold ClassUnion.toNode
  split
  · exact h.start
  · rename_i item heq
    rw [heq] at hitems
    exact List.forall_mem_singleton.1 hitems
  · exact ⟨h.start, allWithin_iff.2 fun item hitem => hitems item (List.mem_reverse.1 hitem)⟩

end ClassUnion

def ClassFrame.Within (pattern : List Char) : ClassFrame → Prop
  | .bracket outer span _ => outer.Within pattern ∧ span.start.Within pattern
  | .operation _ lhs => lhs.Within pattern

structure ClassState.Within (pattern : List Char) (s : ClassState) : Prop where
  cursor : s.cursor.Within pattern
  stack : ∀ frame ∈ s.stack, frame.Within pattern
  union : s.union.Within pattern

namespace Bracket

variable {s : ClassState} {stack : List ClassFrame}

theorem unclosed_within (h : ∀ frame ∈ stack, frame.Within pattern) :
    (unclosed stack).span.start.Within pattern := by
  simp only [unclosed]
  generalize hopen : stack.findSome? _ = open?
  cases open? with
  | none => exact within_default
  | some span =>
    obtain ⟨frame, hframe, hspan⟩ := List.exists_of_findSome?_eq_some hopen
    cases frame with
    | bracket outer span' negated => exact Option.some.inj hspan ▸ (h _ hframe).2
    | operation => cases hspan

theorem leadingHyphens_settles (verbose : Bool) (hc : c.Within pattern) (hp : p.Within pattern)
    {u : ClassUnion} (hu : u.Within pattern) :
    Settles pattern (fun r => r.1.Within pattern ∧ r.2.Within pattern)
      (leadingHyphens verbose p c u) := by
  fun_induction leadingHyphens verbose p c u with
  | case1 c u hrest => exact ⟨hc, hu⟩
  | case2 c u x xs hrest _ hx next hend => exact hp
  | case3 c u x xs hrest _ hx next hend ih => exact ih (hc.bumpSpace verbose) (hu.push hc.pos)
  | case4 c u x xs hrest _ hx => exact ⟨hc, hu⟩

theorem openBracket_settles (h : s.Within pattern) :
    Settles pattern (ClassState.Within pattern) (openBracket verbose s) := by
  have hstart := h.cursor.pos
  have hnext := h.cursor.bumpSpace verbose
  have hcaret : (if (s.cursor.bumpSpace verbose).char? == some '^'
      then (s.cursor.bumpSpace verbose).bumpSpace verbose
      else s.cursor.bumpSpace verbose).Within pattern := by
    split
    · exact hnext.bumpSpace verbose
    · exact hnext
  have hframe (p : Position) (negated : Bool) :
      ∀ frame ∈ .bracket s.union ⟨s.cursor.pos, p⟩ negated :: s.stack, frame.Within pattern :=
    List.forall_mem_cons.2 ⟨⟨h.union, hstart⟩, h.stack⟩
  refine .guard (fun _ => hstart) fun _ => .guard (fun _ => hstart) fun _ => ?_
  have hhyphens := leadingHyphens_settles verbose hcaret hstart
    (ClassUnion.within_emptyAt hcaret.pos)
  refine hhyphens.bind fun (c, inner) ⟨hc, hinner⟩ => ?_
  dsimp only
  split
  · exact .guard (fun _ => hstart) fun _ =>
      ⟨hc.bumpSpace verbose, hframe _ _, hinner.push hc.pos⟩
  · exact ⟨hc, hframe _ _, hinner⟩

theorem asciiClass?_within {node : ClassNode} (hc : c.Within pattern)
    (h : asciiClass? c = some (node, c')) : node.Within pattern ∧ c'.Within pattern := by
  refine ⟨?_, hc.reaches (asciiClass?_reaches h)⟩
  simp only [asciiClass?, Option.bind_eq_bind, Option.bind_eq_some_iff, Option.some.injEq,
    Prod.mk.injEq] at h
  obtain ⟨-, -, -, -, kind, -, rfl, -⟩ := h
  exact hc.pos

theorem item_settles (hc : c.Within pattern) :
    Settles pattern (Escape.Begins pattern c.pos) (item verbose c) := by
  unfold item
  split
  · exact Escape.read_settles hc
  · exact ⟨rfl, hc.bump⟩
  · exact ⟨rfl, hc⟩

theorem toClassNode_settles {item : Primitive} (h : item.span.start.Within pattern) :
    Settles pattern (ClassNode.Within pattern) item.toClassNode := by
  cases item <;> exact h

theorem toLiteral_settles {item : Primitive} (h : item.span.start.Within pattern) :
    Settles pattern (fun _ => True) item.toLiteral := by
  cases item with
  | literal => trivial
  | _ => exact h

theorem range_settles (h : s.Within pattern) :
    Settles pattern (fun r => r.1.Within pattern ∧ r.2.Within pattern) (range verbose s) := by
  have hunclosed := unclosed_within h.stack
  refine (item_settles h.cursor).bind fun (first, c) ⟨hfirst, hc⟩ => ?_
  have hstart : first.span.start.Within pattern := hfirst ▸ h.cursor.pos
  have hskip := hc.skipSpace verbose
  dsimp only
  split
  · exact hunclosed
  split
  · exact (toClassNode_settles hstart).bind fun node hnode => ⟨hnode, hskip⟩
  split
  · exact hunclosed
  refine (item_settles (hskip.bumpSpace verbose)).bind fun (last, c₁) ⟨hlast, hc₁⟩ => ?_
  have hend : last.span.start.Within pattern := hlast ▸ (hskip.bumpSpace verbose).pos
  refine (toLiteral_settles hstart).bind fun lo _ => (toLiteral_settles hend).bind fun hi _ => ?_
  exact .guard (fun _ => hstart) fun _ => ⟨hstart, hc₁⟩

theorem applyPending_within {rhs : ClassNode} (hrhs : rhs.Within pattern)
    (h : ∀ frame ∈ stack, frame.Within pattern) :
    (applyPending rhs stack).1.Within pattern ∧
      ∀ frame ∈ (applyPending rhs stack).2, frame.Within pattern := by
  unfold applyPending
  split
  · obtain ⟨hlhs, hrest⟩ := List.forall_mem_cons.1 h
    exact ⟨⟨hlhs.start, hlhs, hrhs⟩, hrest⟩
  · exact ⟨hrhs, h⟩

def Progress.Within (pattern : List Char) : Progress → Prop
  | .more s => s.Within pattern
  | .done body _ _ _ => body.Within pattern

theorem closeBracket_settles (h : s.Within pattern) :
    Settles pattern (Progress.Within pattern) (closeBracket s) := by
  obtain ⟨hbody, hstack⟩ := applyPending_within h.union.toNode h.stack
  simp only [closeBracket]
  split
  · rename_i heq
    rw [heq] at hstack
    obtain ⟨⟨houter, hspan⟩, hrest⟩ := List.forall_mem_cons.1 hstack
    split
    · exact hbody
    · exact ⟨h.cursor.bump, hrest, houter.push ⟨hspan, hbody⟩⟩
  · exact unclosed_within h.stack

theorem pushOperation_within (h : s.Within pattern) (op : SetOperation) :
    (pushOperation op s).Within pattern := by
  obtain ⟨hlhs, hstack⟩ := applyPending_within h.union.toNode h.stack
  have hc := h.cursor.bumpMany 2
  exact ⟨hc, List.forall_mem_cons.2 ⟨hlhs, hstack⟩, ClassUnion.within_emptyAt hc.pos⟩

theorem step_settles (h : s.Within pattern) :
    Settles pattern (Progress.Within pattern) (step verbose s) := by
  let skipped : ClassState := { s with cursor := s.cursor.skipSpace verbose }
  have hskipped : skipped.Within pattern := ⟨h.cursor.skipSpace verbose, h.stack, h.union⟩
  simp only [step]
  split
  · exact unclosed_within h.stack
  · split
    · rename_i node c hascii
      split at hascii
      · cases hascii
      · obtain ⟨hnode, hc⟩ := asciiClass?_within hskipped.cursor hascii
        exact ⟨hc, h.stack, h.union.push hnode⟩
    · exact (openBracket_settles hskipped).bind fun _ hs => hs
  · exact closeBracket_settles hskipped
  · split
    · exact pushOperation_within hskipped _
    · refine (range_settles hskipped).bind fun (node, c) ⟨hnode, hc⟩ => ?_
      exact ⟨hc, h.stack, h.union.push hnode⟩

end Bracket

def Ast.ClassWithin (pattern : List Char) : Ast → Prop
  | .bracket _ _ body => body.Within pattern
  | _ => True

namespace Bracket

theorem run_settles {s : ClassState} (h : s.Within pattern) (fuel : Nat) :
    Settles pattern (fun r => r.1.ClassWithin pattern) (run verbose fuel s) := by
  induction fuel generalizing s with
  | zero => exact unclosed_within h.stack
  | succ fuel ih =>
    refine (step_settles h).bind fun progress hprogress => ?_
    cases progress with
    | more s => exact ih hprogress
    | done body span negated c => exact hprogress

theorem read_settles (hc : c.Within pattern) :
    Settles pattern (fun r => r.1.ClassWithin pattern) (read verbose c) :=
  run_settles ⟨hc, List.forall_mem_nil _, ClassUnion.within_emptyAt hc.pos⟩ _

end Bracket

namespace Group

theorem flags_settles (hc : c.Within pattern) {entries : List FlagEntry}
    (h : ∀ entry ∈ entries, entry.span.start.Within pattern) :
    Settles pattern (fun _ => True) (flags c entries) := by
  fun_induction flags c entries with
  | case1 => trivial
  | case2 => exact .refuse (List.forall_mem_cons.1 h).1
  | case3 => trivial
  | case4 entries x xs p here hx read fault hread =>
    have hflag : Settles pattern (fun _ => True) read := by
      dsimp only [read]
      split
      · trivial
      split
      · trivial
      · exact .refuse hc.pos
    rw [hread] at hflag
    exact hflag
  | case5 => exact hc.pos
  | case6 => exact .refuse hc.bump.pos
  | case7 entries x xs p here hx read item hread hnone hfull ih =>
    exact ih hc.bump (List.forall_mem_cons.2 ⟨hc.pos, h⟩)

theorem nameChars_settles {start p : Position} {xs name : List Char}
    (hc : Cursor.Within pattern ⟨xs, p⟩) :
    Settles pattern (fun r => r.2.Within pattern) (nameChars start xs p name) := by
  induction xs generalizing p name with
  | nil => exact hc
  | cons x xs ih =>
    rw [nameChars]
    split
    · exact hc
    generalize (if p == start then isNameStart x else isNameChar x) = valid
    split
    · exact ih hc.bump
    · exact .refuse hc.pos

theorem name_settles (hc : c.Within pattern) (names : GroupNames) :
    Settles pattern (fun _ => True) (name names c) := by
  refine .guard (fun _ => hc.pos) fun _ => ?_
  refine (nameChars_settles hc).bind fun (chars, c₁) hc₁ => ?_
  refine .guard (fun _ => hc₁.pos) fun _ => .guard (fun _ => hc.pos) fun _ => ?_
  dsimp only
  split
  · exact hc.pos
  · trivial

theorem nextIndex_settles {captures : Nat} {span : Span} (h : span.start.Within pattern) :
    Settles pattern (fun _ => True) (nextIndex captures span) := by
  unfold nextIndex
  split
  · trivial
  · exact .refuse h

theorem read_settles (hc : c.Within pattern) (captures : Nat) (names : GroupNames) :
    Settles pattern (fun _ => True) (read verbose captures names c) := by
  have hnext := hc.bumpSpace verbose
  simp only [read]
  split
  · exact .refuse hc.pos
  split
  · refine (nextIndex_settles hc.pos).bind fun index _ => ?_
    exact (name_settles (hnext.bumpMany 3) names).bind fun _ _ => trivial
  split
  · refine (nextIndex_settles hc.pos).bind fun index _ => ?_
    exact (name_settles (hnext.bumpMany 2) names).bind fun _ _ => trivial
  split
  · refine .guard (fun _ => hc.pos) fun _ => ?_
    refine (flags_settles hnext.bump (List.forall_mem_nil _)).bind fun (entries, c₁) _ => ?_
    dsimp only
    split
    · exact .guard (fun _ => hnext.pos) fun _ => trivial
    · trivial
  · exact (nextIndex_settles hc.pos).bind fun _ _ => trivial

end Group

namespace Parser

variable {s : ParseState} {x : Char}

theorem decimal_settles (verbose : Bool) (hc : c.Within pattern) :
    Settles pattern (fun _ => True) (decimal verbose c).1 := by
  have hskip := hc.reaches (skipBlanks_skims false c).reaches
  simp only [decimal]
  split
  · exact .refuse hskip.pos
  split
  · trivial
  · exact .refuse hskip.pos

theorem operand_settles (hc : s.cursor.Within pattern) :
    Settles pattern (fun _ => True) (operand s) := by
  unfold operand
  split
  · exact .refuse hc.pos
  · exact .refuse hc.pos
  · exact .refuse hc.pos
  · trivial

theorem countedRepetition_settles (hc : s.cursor.Within pattern) :
    Settles pattern (fun _ => True) (countedRepetition s) := by
  have hnext := hc.bumpSpace s.verbose
  have hlo := hnext.reaches (decimal_skims s.verbose _).reaches
  have hvalue := decimal_settles s.verbose hnext
  refine (operand_settles hc).bind fun (item, rest) _ => ?_
  dsimp only
  generalize decimal s.verbose (s.cursor.bumpSpace s.verbose) = lo at hlo hvalue
  refine .guard (fun _ => hc.pos) fun _ => .guard (fun _ => hc.pos) fun _ => ?_
  refine Settles.bind (Q := fun _ => True) ?_ fun (count, c) _ => ?_
  · split
    · refine .guard (fun _ => hc.pos) fun _ => ?_
      refine hvalue.bind fun lo _ => ?_
      split
      · trivial
      · exact (decimal_settles _ (hlo.bumpSpace s.verbose)).bind fun _ _ => trivial
    · exact hvalue.bind fun _ _ => trivial
  · exact .guard (fun _ => hc.pos) fun _ => .guard (fun _ => hc.pos) fun _ => trivial

theorem popGroup_settles (hc : s.cursor.Within pattern) :
    Settles pattern (fun _ => True) (popGroup s) := by
  simp only [popGroup]
  split
  · split
    · trivial
    · exact .refuse hc.pos
  · split
    · trivial
    · exact .refuse hc.pos

theorem primitive_settles (hc : c.Within pattern) :
    Settles pattern (fun _ => True) (primitive verbose x c) := by
  unfold primitive
  split
  · exact (Escape.read_settles hc).mono fun _ _ _ => trivial
  all_goals trivial

theorem step_settles (hc : s.cursor.Within pattern) :
    Settles pattern (fun _ => True) (step s x) := by
  have hsimple (count : Count) : Settles pattern (fun _ => True) (simpleRepetition s count) :=
    (operand_settles hc).bind fun _ _ => trivial
  unfold step
  split
  · refine (Group.read_settles hc _ _).bind fun (opening, names, c) _ => ?_
    cases opening <;> trivial
  · exact popGroup_settles hc
  · trivial
  · exact (Bracket.read_settles hc).bind fun _ _ => trivial
  · exact hsimple _
  · exact hsimple _
  · exact hsimple _
  · exact countedRepetition_settles hc
  · exact (primitive_settles hc).bind fun _ _ => trivial

end Parser

end RegexStudio.Pattern
