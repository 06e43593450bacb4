import RegexStudio.Proofs.PatternCursor

/-! Where the parts of a pattern stand in it. Each part covers the text between the ends of its
span, and the parts inside of it cover pieces of that text, one after another; what lies between
them is white space and comments, and nothing at all in a pattern that does not ignore these. -/

namespace RegexStudio.Pattern

open Text (byteLength byteLength_append)

def KeepsSpace (entries : List FlagEntry) : Prop := flagState .verbose entries ≠ some true

def GroupKind.KeepsSpace : GroupKind → Prop
  | .plain entries => Pattern.KeepsSpace entries
  | _ => True

mutual

def Ast.KeepsSpace : Ast → Prop
  | .flags _ entries => Pattern.KeepsSpace entries
  | .repetition _ _ _ sub => sub.KeepsSpace
  | .group _ kind sub => kind.KeepsSpace ∧ sub.KeepsSpace
  | .alternation _ items | .concat _ items => Ast.AllKeepSpace items
  | _ => True

def Ast.AllKeepSpace : List Ast → Prop
  | [] => True
  | item :: rest => item.KeepsSpace ∧ Ast.AllKeepSpace rest

end

theorem allKeepSpace_iff {items : List Ast} :
    Ast.AllKeepSpace items ↔ ∀ item ∈ items, item.KeepsSpace := by
  induction items with
  | nil => exact ⟨fun _ _ h => (nomatch h), fun _ => trivial⟩
  | cons item rest ih => rw [Ast.AllKeepSpace, ih, List.forall_mem_cons]

theorem keepsSpace_ofItems {span : Span} {items : List Ast} :
    (Ast.ofItems span items).KeepsSpace ↔ ∀ item ∈ items, item.KeepsSpace := by
  match items with
  | [] => exact ⟨fun _ _ h => (nomatch h), fun _ => trivial⟩
  | [item] => exact List.forall_mem_singleton.symm
  | _ :: _ :: _ => exact allKeepSpace_iff

def Span.Measures (span : Span) (text : List Char) : Prop :=
  span.stop.offset = span.start.offset + byteLength text

def Holds (plain : Prop) (span : Span) (covers : List Char → Prop) (start : Nat)
    (text : List Char) : Prop :=
  ∃ before piece after, text = before ++ piece ++ after ∧ (plain → before = [] ∧ after = []) ∧
    span.start.offset = start + byteLength before ∧ covers piece

mutual

/-- Whether a part is written as some text. Where no white space is ignored the parts inside of it
make up the text, with their operators, parentheses and bars. -/
def Ast.Covers (plain : Prop) : Ast → List Char → Prop
  | .repetition span _ _ sub, text => span.Measures text ∧ ∃ piece op, text = piece ++ op ∧
      op ≠ [] ∧ Holds plain sub.span (sub.Covers plain) span.start.offset piece
  | .group span _ sub, text => span.Measures text ∧ ∃ lead piece,
      text = '(' :: lead ++ piece ++ [')'] ∧
      Holds plain sub.span (sub.Covers plain) (span.start.offset + byteLength ('(' :: lead)) piece
  | .alternation span items, text =>
    span.Measures text ∧ Ast.Row plain ['|'] span.start.offset items (text ++ ['|'])
  | .concat span items, text =>
    span.Measures text ∧ Ast.Row plain [] span.start.offset items text
  | ast, text => ast.span.Measures text

/-- Whether parts stand one after another in a text, each with a mark behind it. -/
def Ast.Row (plain : Prop) (mark : List Char) : Nat → List Ast → List Char → Prop
  | _, [], text => plain → text = []
  | start, item :: rest, text => ∃ piece after, text = piece ++ mark ++ after ∧
      Holds plain item.span (item.Covers plain) start piece ∧
      Ast.Row plain mark (start + byteLength (piece ++ mark)) rest after

end

variable {plain : Prop} {mark : List Char} {start : Nat} {item : Ast} {items rest : List Ast}
  {text piece gap : List Char}

def Ast.IsLeaf : Ast → Prop
  | .empty .. | .flags .. | .repetition .. | .group .. | .alternation .. | .concat .. => False
  | _ => True

theorem Ast.IsLeaf.covers {ast : Ast} (h : ast.IsLeaf) (hspan : ast.span.Measures text) :
    ast.Covers plain text := by
  cases ast with
  | empty | flags | repetition | group | alternation | concat => exact h.elim
  | _ => exact hspan

theorem isLeaf_toAst (p : Primitive) : p.toAst.IsLeaf := by
  cases p <;> trivial

theorem span_toAst (p : Primitive) : p.toAst.span = p.span := by
  cases p <;> rfl

theorem Bracket.run_isLeaf {verbose : Bool} {fuel : Nat} {s : ClassState} {ast : Ast} {c : Cursor}
    (h : run verbose fuel s = .ok (ast, c)) : ast.IsLeaf := by
  induction fuel generalizing s with
  | zero => cases h
  | succ fuel ih =>
    obtain ⟨progress, -, h⟩ := bind_eq_ok.1 h
    cases progress with
    | more s => exact ih h
    | done body span negated c =>
      cases h
      trivial

theorem Bracket.read_isLeaf {verbose : Bool} {c c' : Cursor} {ast : Ast}
    (h : read verbose c = .ok (ast, c')) : ast.IsLeaf := run_isLeaf h

theorem Ast.Covers.measures {ast : Ast} (h : ast.Covers plain text) : ast.span.Measures text := by
  cases ast with
  | repetition | group | alternation | concat => exact h.1
  | _ => exact h

namespace Holds

variable {span : Span} {covers : List Char → Prop}

theorem exact (hspan : span.start.offset = start) (h : covers text) :
    Holds plain span covers start text :=
  ⟨[], text, [], by simp, fun _ => ⟨rfl, rfl⟩, hspan, h⟩

theorem after (h : Holds plain span covers start text) (hgap : plain → gap = []) :
    Holds plain span covers start (text ++ gap) := by
  obtain ⟨before, piece, after, rfl, hplain, hspan, hpiece⟩ := h
  refine ⟨before, piece, after ++ gap, by simp, fun hp => ⟨(hplain hp).1, ?_⟩, hspan, hpiece⟩
  rw [(hplain hp).2, hgap hp, List.append_nil]

theorem before (h : Holds plain span covers (start + byteLength gap) text)
    (hgap : plain → gap = []) : Holds plain span covers start (gap ++ text) := by
  obtain ⟨before, piece, after, rfl, hplain, hspan, hpiece⟩ := h
  refine ⟨gap ++ before, piece, after, by simp, fun hp => ⟨?_, (hplain hp).2⟩, ?_, hpiece⟩
  · rw [(hplain hp).1, hgap hp, List.append_nil]
  · rw [hspan, byteLength_append, Nat.add_assoc]

end Holds

namespace Ast.Row

theorem after (h : Row plain mark start items text) (hgap : plain → gap = []) :
    Row plain mark start items (text ++ gap) := by
  induction items generalizing start text with
  | nil =>
    intro hp
    rw [h hp, hgap hp, List.append_nil]
  | cons item rest ih =>
    obtain ⟨piece, after, rfl, hpiece, hrest⟩ := h
    exact ⟨piece, after ++ gap, by simp, hpiece, ih hrest⟩

theorem push (h : Row plain mark start items text)
    (hitem : Holds plain item.span (item.Covers plain) (start + byteLength text) piece) :
    Row plain mark start (items ++ [item]) (text ++ piece ++ mark) := by
  induction items generalizing start text with
  | nil => exact ⟨text ++ piece, [], by simp, hitem.before h, fun _ => rfl⟩
  | cons first rest ih =>
    obtain ⟨piece', after, rfl, hpiece, hrest⟩ := h
    refine ⟨piece', after ++ piece ++ mark, by simp, hpiece, ih hrest ?_⟩
    rwa [byteLength_append, ← Nat.add_assoc] at hitem

theorem pop (h : Row plain [] start (items ++ [item]) text) :
    ∃ text' piece, text = text' ++ piece ∧ Row plain [] start items text' ∧
      Holds plain item.span (item.Covers plain) (start + byteLength text') piece := by
  induction items generalizing start text with
  | nil =>
    obtain ⟨piece, after, rfl, hpiece, hafter⟩ := h
    refine ⟨[], piece ++ after, by simp, fun _ => rfl, hpiece.after hafter⟩
  | cons first rest ih =>
    obtain ⟨piece', after, rfl, hpiece, hrest⟩ := h
    obtain ⟨text', piece, rfl, htext, hitem⟩ := ih hrest
    refine ⟨piece' ++ [] ++ text', piece, by simp, ⟨piece', text', rfl, hpiece, htext⟩, ?_⟩
    rwa [byteLength_append, ← Nat.add_assoc]

end Ast.Row

namespace Sequence

def Covers (plain : Prop) (s : Sequence) (start : Nat) (text : List Char) : Prop :=
  s.start.offset = start ∧ Ast.Row plain [] start s.items.reverse text

variable {s : Sequence}

theorem covers_nil (p : Position) : Covers plain ⟨p, []⟩ p.offset [] := ⟨rfl, fun _ => rfl⟩

theorem Covers.push (h : s.Covers plain start text)
    (hitem : Holds plain item.span (item.Covers plain) (start + byteLength text) piece) :
    (s.push item).Covers plain start (text ++ piece) := by
  refine ⟨h.1, ?_⟩
  have hrow := h.2.push hitem
  rwa [List.append_nil, ← List.reverse_cons] at hrow

theorem Covers.toAst (h : s.Covers plain start text) {stop : Position}
    (hstop : stop.offset = start + byteLength text) :
    Holds plain (s.toAst stop).span ((s.toAst stop).Covers plain) start text := by
  obtain ⟨hstart, hrow⟩ := h
  have hmeasures : Span.Measures ⟨s.start, stop⟩ text := hstop.trans (hstart ▸ rfl)
  unfold Sequence.toAst
  match hitems : s.items.reverse with
  | [] => exact .exact hstart hmeasures
  | [item] =>
    rw [hitems] at hrow
    obtain ⟨piece, after, rfl, hpiece, hafter⟩ := hrow
    rw [List.append_nil]
    exact hpiece.after hafter
  | first :: second :: rest =>
    rw [hitems, ← hstart] at hrow
    exact .exact hstart ⟨hmeasures, hrow⟩

end Sequence

def Framed (plain : Prop) : List Frame → List Char → Prop
  | [], before => before = []
  | .alternation start branches :: rest, before =>
    (∀ start' branches' rest', rest ≠ .alternation start' branches' :: rest') ∧
      ∃ first text, before = first ++ text ∧ start.offset = byteLength first ∧
        Ast.Row plain ['|'] (byteLength first) branches.reverse text ∧ Framed plain rest first
  | .group outer span _ verbose :: rest, before =>
    ∃ first text lead, before = first ++ text ++ '(' :: lead ∧
      outer.Covers plain (byteLength first) text ∧ span.start.offset = byteLength (first ++ text) ∧
      (plain → verbose = false) ∧ Framed plain rest first

def Frame.KeepsSpace : Frame → Prop
  | .group outer _ kind _ => (∀ item ∈ outer.items, item.KeepsSpace) ∧ kind.KeepsSpace
  | .alternation _ branches => ∀ branch ∈ branches, branch.KeepsSpace

namespace ParseState

structure KeepsSpace (s : ParseState) : Prop where
  frames : ∀ frame ∈ s.frames, frame.KeepsSpace
  sequence : ∀ item ∈ s.sequence.items, item.KeepsSpace

/-- What a reader has read: the open groups and alternations, then the innermost sequence, and the
cursor stands behind both. -/
structure Reads (plain : Prop) (pattern : List Char) (s : ParseState) (before text : List Char) :
    Prop where
  pattern : pattern = before ++ text ++ s.cursor.rest
  offset : s.cursor.pos.offset = byteLength (before ++ text)
  frames : Framed plain s.frames before
  sequence : s.sequence.Covers plain (byteLength before) text
  verbose : plain → s.verbose = false

variable {pattern before : List Char} {s s' : ParseState} {c : Cursor}

theorem reads_initial (plain : Prop) (pattern : List Char) :
    (initial pattern).Reads plain pattern [] [] :=
  ⟨rfl, rfl, rfl, Sequence.covers_nil _, fun _ => rfl⟩

theorem Reads.skip (h : s.Reads plain pattern before text) :
    ∃ text',
      Reads plain pattern { s with cursor := s.cursor.skipSpace s.verbose } before text' := by
  obtain ⟨gap, hrest, hoffset⟩ := Cursor.reaches_skipSpace s.verbose s.cursor
  have hgap : plain → gap = [] := by
    intro hp
    rw [h.verbose hp] at hrest
    exact List.self_eq_append_left.1 hrest
  refine ⟨text ++ gap, ?_, ?_, h.frames, ⟨h.sequence.1, h.sequence.2.after hgap⟩, h.verbose⟩
  · rw [h.pattern, hrest]
    simp
  · rw [hoffset, h.offset, byteLength_append before, byteLength_append before, byteLength_append,
      Nat.add_assoc]

theorem Reads.push (h : s.Reads plain pattern before text) (hc : s.cursor.Passes piece c)
    (hspan : item.span.start.offset = s.cursor.pos.offset) (hitem : item.Covers plain piece) :
    (s.push item c).Reads plain pattern before (text ++ piece) := by
  have hoffset : item.span.start.offset = byteLength before + byteLength text := by
    rw [hspan, h.offset, byteLength_append]
  refine ⟨?_, ?_, h.frames, h.sequence.push (.exact hoffset hitem), h.verbose⟩
  · rw [h.pattern, hc.rest]
    simp [ParseState.push]
  · change c.pos.offset = _
    rw [hc.offset, h.offset, ← List.append_assoc, byteLength_append (before ++ text)]

theorem Reads.branch (h : s.Reads plain pattern before text) :
    Holds plain (s.sequence.toAst s.cursor.pos).span
      ((s.sequence.toAst s.cursor.pos).Covers plain) (byteLength before) text :=
  h.sequence.toAst (by rw [h.offset, byteLength_append])

end ParseState

namespace Parser

variable {pattern before : List Char} {s s' : ParseState} {x : Char}

theorem pushAlternate_reads (h : s.Reads plain pattern before text)
    (hx : s.cursor.char? = some '|') :
    (pushAlternate s).Reads plain pattern (before ++ text ++ ['|']) [] := by
  have hbump := Cursor.passes_bump hx
  have hoffset : s.cursor.bump.pos.offset = byteLength (before ++ text ++ ['|']) := by
    rw [hbump.offset, h.offset, byteLength_append (before ++ text)]
  have hbranch := h.branch
  refine ⟨?_, ?_, ?_, hoffset ▸ Sequence.covers_nil _, h.verbose⟩
  · rw [h.pattern, hbump.rest]
    simp [pushAlternate]
  · rw [List.append_nil]
    exact hoffset
  · simp only [pushAlternate]
    split
    · rename_i start branches rest hframes
      have hframed := h.frames
      rw [hframes] at hframed
      obtain ⟨halone, first, row, rfl, hstart, hrow, hrest⟩ := hframed
      refine ⟨halone, first, row ++ text ++ ['|'], by simp, hstart, ?_, hrest⟩
      rw [byteLength_append] at hbranch
      rw [List.reverse_cons]
      exact hrow.push hbranch
    · rename_i hframes
      refine ⟨hframes, before, text ++ ['|'], by simp, h.sequence.1, ?_, h.frames⟩
      have hnone : Ast.Row plain ['|'] (byteLength before) [] [] := fun _ => rfl
      exact hnone.push hbranch

theorem verbose_of_keepsSpace {entries : List FlagEntry} (h : KeepsSpace entries) {verbose : Bool}
    (hverbose : verbose = false) : (flagState .verbose entries).getD verbose = false := by
  unfold KeepsSpace at h
  cases hstate : flagState .verbose entries with
  | none => exact hverbose
  | some on =>
    cases on with
    | false => rfl
    | true => exact absurd hstate h

theorem pushGroup_reads (h : s.Reads plain pattern before text) (hx : s.cursor.char? = some '(')
    (hs : pushGroup s = .ok s') (hkeeps : plain → s'.KeepsSpace) :
    ∃ before' text', s'.Reads plain pattern before' text' := by
  obtain ⟨⟨opening, names, c⟩, hread, hs⟩ := bind_eq_ok.1 hs
  obtain ⟨hskims, hbegins⟩ := Group.read_skims hread
  obtain ⟨lead, hc⟩ := hskims.reaches.passes_char hx
  cases opening with
  | flags span entries =>
    cases hs
    obtain rfl : span = ⟨s.cursor.pos, c.pos⟩ := hbegins
    have hflags : Ast.Covers plain (.flags ⟨s.cursor.pos, c.pos⟩ entries) ('(' :: lead) :=
      hc.offset
    have hpush := h.push hc rfl hflags
    refine ⟨before, _, hpush.pattern, hpush.offset, hpush.frames, hpush.sequence, fun hp => ?_⟩
    have hentries : KeepsSpace entries := (hkeeps hp).sequence _ List.mem_cons_self
    exact verbose_of_keepsSpace hentries (h.verbose hp)
  | group span kind =>
    cases hs
    have hspan : span.start = s.cursor.pos := hbegins
    have hoffset : c.pos.offset = byteLength (before ++ text ++ '(' :: lead) := by
      rw [hc.offset, h.offset, byteLength_append (before ++ text)]
    refine ⟨before ++ text ++ '(' :: lead, [], ?_, ?_, ?_, hoffset ▸ Sequence.covers_nil _, ?_⟩
    · rw [h.pattern, hc.rest]
      simp
    · rw [List.append_nil]
      exact hoffset
    · refine ⟨before, text, lead, rfl, h.sequence, ?_, h.verbose, h.frames⟩
      rw [hspan, h.offset]
    · intro hp
      have hkind := ((hkeeps hp).frames _ List.mem_cons_self).2
      cases kind with
      | plain entries => exact verbose_of_keepsSpace hkind (h.verbose hp)
      | capture | named => exact h.verbose hp

def closed (s : ParseState) (outer : Sequence) (span : Span) (kind : GroupKind) (verbose : Bool)
    (rest : List Frame) (body : Ast) : ParseState :=
  { s with
    cursor := s.cursor.bump, verbose, frames := rest
    sequence := outer.push (.group ⟨span.start, s.cursor.bump.pos⟩ kind body) }

theorem close_reads {first outerText lead : List Char} {outer : Sequence} {span : Span}
    {kind : GroupKind} {verbose : Bool} {body : Ast} {rest : List Frame}
    (hpattern : pattern = first ++ outerText ++ '(' :: lead ++ text ++ ')' :: s.cursor.bump.rest)
    (hoffset : s.cursor.bump.pos.offset =
      byteLength (first ++ outerText ++ '(' :: lead ++ text ++ [')']))
    (houter : outer.Covers plain (byteLength first) outerText)
    (hspan : span.start.offset = byteLength (first ++ outerText))
    (hverbose : plain → verbose = false) (hrest : Framed plain rest first)
    (hbody : Holds plain body.span (body.Covers plain)
      (byteLength (first ++ outerText ++ '(' :: lead)) text) :
    (closed s outer span kind verbose rest body).Reads plain pattern first
      (outerText ++ ('(' :: lead ++ text ++ [')'])) := by
  have hgroup : Ast.Covers plain (.group ⟨span.start, s.cursor.bump.pos⟩ kind body)
      ('(' :: lead ++ text ++ [')']) := by
    refine ⟨?_, lead, text, rfl, ?_⟩
    · change s.cursor.bump.pos.offset = span.start.offset + _
      rw [hoffset, hspan, ← byteLength_append]
      simp
    · change Holds plain body.span _ (span.start.offset + _) text
      rwa [hspan, ← byteLength_append]
  refine ⟨?_, ?_, hrest, houter.push (.exact ?_ hgroup), hverbose⟩
  · rw [hpattern]
    simp [closed]
  · change s.cursor.bump.pos.offset = _
    rw [hoffset]
    simp
  · exact hspan.trans (byteLength_append _ _)

/-- A group that was open is closed around its one branch, or around the choice of all of them. -/
inductive Popped (s : ParseState) : ParseState → Prop
  | branch {outer : Sequence} {span : Span} {kind : GroupKind} {verbose : Bool}
      {rest : List Frame} (hframes : s.frames = .group outer span kind verbose :: rest) :
      Popped s (closed s outer span kind verbose rest (s.sequence.toAst s.cursor.pos))
  | choice {start : Position} {branches : List Ast} {outer : Sequence} {span : Span}
      {kind : GroupKind} {verbose : Bool} {rest : List Frame}
      (hframes : s.frames = .alternation start branches :: .group outer span kind verbose :: rest) :
      Popped s (closed s outer span kind verbose rest (.alternation ⟨start, s.cursor.pos⟩
        (s.sequence.toAst s.cursor.pos :: branches).reverse))

theorem popGroup_cases (hs : popGroup s = .ok s') : Popped s s' := by
  simp only [popGroup] at hs
  split at hs
  · rename_i hframes
    split at hs
    · cases hs
      exact .choice hframes
    · cases hs
  · split at hs
    · rename_i hframes
      cases hs
      exact .branch hframes
    · cases hs

theorem popGroup_reads (h : s.Reads plain pattern before text) (hx : s.cursor.char? = some ')')
    (hs : popGroup s = .ok s') : ∃ before' text', s'.Reads plain pattern before' text' := by
  have hbump := Cursor.passes_bump hx
  have hpattern : pattern = before ++ text ++ ')' :: s.cursor.bump.rest := by
    rw [h.pattern, hbump.rest]
    rfl
  have hoffset : s.cursor.bump.pos.offset = byteLength (before ++ text ++ [')']) := by
    rw [hbump.offset, h.offset, byteLength_append (before ++ text)]
  have hframed := h.frames
  cases popGroup_cases hs with
  | branch hframes =>
    rw [hframes] at hframed
    obtain ⟨first, outerText, lead, rfl, houter, hspan, hverbose, hrest⟩ := hframed
    exact ⟨first, _, close_reads hpattern hoffset houter hspan hverbose hrest h.branch⟩
  | @choice start branches _ _ _ _ _ hframes =>
    rw [hframes] at hframed
    obtain ⟨-, first, row, rfl, hstart, hrow, hrest⟩ := hframed
    obtain ⟨first, outerText, lead, rfl, houter, hspan, hverbose, hrest⟩ := hrest
    have hbranch := h.branch
    rw [byteLength_append] at hbranch
    have hrow' := hrow.push hbranch
    rw [← List.reverse_cons] at hrow'
    have hbody : Ast.Covers plain (.alternation ⟨start, s.cursor.pos⟩
        (s.sequence.toAst s.cursor.pos :: branches).reverse) (row ++ text) := by
      refine ⟨?_, ?_⟩
      · change s.cursor.pos.offset = start.offset + _
        rw [h.offset, hstart, ← byteLength_append, List.append_assoc]
      · change Ast.Row plain ['|'] start.offset _ _
        rwa [hstart]
    have hholds : Holds plain ⟨start, s.cursor.pos⟩ _ _ (row ++ text) := .exact hstart hbody
    refine ⟨first, _, close_reads ?_ ?_ houter hspan hverbose hrest hholds⟩
    · rw [hpattern]
      simp
    · rw [hoffset]
      simp

theorem repeats_reads (h : s.Reads plain pattern before text) (hx : s.cursor.char? = some x)
    {item : Ast} {rest : List Ast} (hs : Repeats s s' item rest) :
    ∃ text', s'.Reads plain pattern before text' := by
  have hitems := hs.items
  obtain ⟨-, hskims, count, greedy, hs⟩ := hs
  obtain ⟨op, hc⟩ := hskims.reaches.passes_char hx
  have hrow := h.sequence.2
  rw [hitems, List.reverse_cons] at hrow
  obtain ⟨text', piece, rfl, hrest, front, inner, back, rfl, hplain, hspan, hinner⟩ := hrow.pop
  have hstop : s'.cursor.pos.offset =
      byteLength (before ++ (text' ++ (front ++ inner ++ back)) ++ x :: op) := by
    rw [hc.offset, h.offset, byteLength_append (before ++ _)]
  -- the operand keeps its place, and all from there on is the repetition
  have hnode : Ast.Covers plain
      (.repetition ⟨item.span.start, s'.cursor.pos⟩ count greedy item)
      (inner ++ back ++ x :: op) := by
    refine ⟨?_, inner ++ back, x :: op, rfl, List.cons_ne_nil _ _, ?_⟩
    · change s'.cursor.pos.offset = item.span.start.offset + _
      rw [hstop, hspan]
      simp only [byteLength_append, Nat.add_assoc]
    · exact ⟨[], inner, back, rfl, fun hp => ⟨rfl, (hplain hp).2⟩, rfl, hinner⟩
  have hholds : Holds plain (Ast.span (.repetition ⟨item.span.start, s'.cursor.pos⟩ count greedy
      item)) (Ast.Covers plain (.repetition ⟨item.span.start, s'.cursor.pos⟩ count greedy item))
      (byteLength before + byteLength text') (front ++ (inner ++ back ++ x :: op)) :=
    ⟨front, inner ++ back ++ x :: op, [], by simp, fun hp => ⟨(hplain hp).1, rfl⟩, hspan, hnode⟩
  refine ⟨text' ++ (front ++ (inner ++ back ++ x :: op)), ?_, ?_, ?_, ?_, ?_⟩
  · rw [h.pattern, hc.rest]
    simp
  · rw [hstop]
    simp
  · rw [hs]
    exact h.frames
  · rw [hs]
    refine ⟨h.sequence.1, ?_⟩
    have hpushed := hrest.push hholds
    rwa [List.append_nil, ← List.reverse_cons] at hpushed
  · rw [hs]
    exact h.verbose

inductive Stepped (s s' : ParseState) : Prop
  | opens (hx : s.cursor.char? = some '(') (hs : pushGroup s = .ok s')
  | closes (hx : s.cursor.char? = some ')') (hs : popGroup s = .ok s')
  | bar (hx : s.cursor.char? = some '|') (hs : s' = pushAlternate s)
  | leaf (item : Ast) (c : Cursor) (hs : s' = s.push item c) (hc : s.cursor.bump.Reaches c)
    (hspan : item.span = ⟨s.cursor.pos, c.pos⟩) (hitem : item.IsLeaf)
    (hread : Bracket.read s.verbose s.cursor = .ok (item, c) ∨ ∃ p : Primitive, item = p.toAst)
  | repeats (item : Ast) (rest : List Ast) (hs : Repeats s s' item rest)

theorem step_cases (hx : s.cursor.char? = some x) (hs : step s x = .ok s') : Stepped s s' := by
  have hsimple {count : Count} (hs : simpleRepetition s count = .ok s') : Stepped s s' := by
    obtain ⟨item, rest, hs⟩ := simpleRepetition_repeats hs
    exact .repeats item rest hs
  unfold step at hs
  split at hs
  · exact .opens hx hs
  · exact .closes hx hs
  · exact .bar hx (Except.ok.inj hs).symm
  · obtain ⟨⟨node, c⟩, hread, hs⟩ := bind_eq_ok.1 hs
    obtain ⟨hreaches, hspan⟩ := Bracket.read_reaches hx hread
    exact .leaf node c (Except.ok.inj hs).symm hreaches hspan (Bracket.read_isLeaf hread)
      (.inl hread)
  · exact hsimple hs
  · exact hsimple hs
  · exact hsimple hs
  · obtain ⟨item, rest, hs⟩ := countedRepetition_repeats hs
    exact .repeats item rest hs
  · obtain ⟨⟨p, c⟩, hread, hs⟩ := bind_eq_ok.1 hs
    obtain ⟨hreaches, hspan⟩ := primitive_reaches hread
    have hast : p.toAst.span = ⟨s.cursor.pos, c.pos⟩ := (span_toAst p).trans hspan
    exact .leaf p.toAst c (Except.ok.inj hs).symm hreaches hast (isLeaf_toAst p) (.inr ⟨p, rfl⟩)

theorem step_reads (h : s.Reads plain pattern before text) (hx : s.cursor.char? = some x)
    (hs : Stepped s s') (hkeeps : plain → s'.KeepsSpace) :
    ∃ before' text', s'.Reads plain pattern before' text' := by
  cases hs with
  | opens hx hs => exact pushGroup_reads h hx hs hkeeps
  | closes hx hs => exact popGroup_reads h hx hs
  | bar hx hs => exact ⟨_, _, hs ▸ pushAlternate_reads h hx⟩
  | leaf item c hs hc hspan hitem =>
    obtain ⟨piece, hc⟩ := hc.passes_char hx
    have hstart : item.span.start.offset = s.cursor.pos.offset := by rw [hspan]
    have hmeasures : item.span.Measures (x :: piece) := by
      rw [hspan]
      exact hc.offset
    exact ⟨before, _, hs ▸ h.push hc hstart (hitem.covers hmeasures)⟩
  | repeats item rest hs => exact ⟨before, repeats_reads h hx hs⟩

theorem Stepped.skims (hs : Stepped s s') :
    s.cursor.bump.Skims s.verbose s'.cursor ∨
      ∃ item c, s' = s.push item c ∧ item.IsLeaf ∧ s.cursor.bump.Reaches c ∧
        item.span = ⟨s.cursor.pos, c.pos⟩ := by
  cases hs with
  | opens hx hs =>
    obtain ⟨⟨opening, names, c⟩, hread, hs⟩ := bind_eq_ok.1 hs
    have hskims := (Group.read_skims hread).1
    cases opening <;> cases hs <;> exact .inl hskims
  | closes hx hs =>
    cases popGroup_cases hs <;> exact .inl (.refl _ _)
  | bar hx hs => exact .inl (hs ▸ .refl _ _)
  | leaf item c hs hc hspan hitem => exact .inr ⟨item, c, hs, hitem, hc, hspan⟩
  | repeats item rest hs => exact .inl hs.skims

theorem Stepped.reaches (hs : Stepped s s') : s.cursor.bump.Reaches s'.cursor := by
  rcases hs.skims with hskims | ⟨item, c, rfl, -, hc, -⟩
  · exact hskims.reaches
  · exact hc

theorem keepsSpace_toAst {s : Sequence} {stop : Position} :
    (s.toAst stop).KeepsSpace ↔ ∀ item ∈ s.items, item.KeepsSpace := by
  rw [Sequence.toAst, keepsSpace_ofItems]
  exact ⟨fun h item hitem => h item (List.mem_reverse.2 hitem),
    fun h item hitem => h item (List.mem_reverse.1 hitem)⟩

theorem keepsSpace_alternation {span : Span} {branch : Ast} {branches : List Ast} :
    (Ast.alternation span (branch :: branches).reverse).KeepsSpace ↔
      branch.KeepsSpace ∧ ∀ b ∈ branches, b.KeepsSpace := by
  rw [Ast.KeepsSpace, allKeepSpace_iff, ← List.forall_mem_cons]
  exact ⟨fun h b hb => h b (List.mem_reverse.2 hb), fun h b hb => h b (List.mem_reverse.1 hb)⟩

theorem Stepped.keepsSpace (hs : Stepped s s') (h : s'.KeepsSpace) : s.KeepsSpace := by
  cases hs with
  | opens hx hs =>
    obtain ⟨⟨opening, names, c⟩, hread, hs⟩ := bind_eq_ok.1 hs
    cases opening with
    | flags span entries =>
      cases hs
      exact ⟨h.frames, (List.forall_mem_cons.1 h.sequence).2⟩
    | group span kind =>
      cases hs
      obtain ⟨hframe, hframes⟩ := List.forall_mem_cons.1 h.frames
      exact ⟨hframes, hframe.1⟩
  | closes hx hs =>
    cases popGroup_cases hs with
    | branch hframes =>
      obtain ⟨⟨hkind, hbody⟩, houter⟩ := List.forall_mem_cons.1 h.sequence
      refine ⟨?_, keepsSpace_toAst.1 hbody⟩
      rw [hframes]
      exact List.forall_mem_cons.2 ⟨⟨houter, hkind⟩, h.frames⟩
    | choice hframes =>
      obtain ⟨⟨hkind, hbody⟩, houter⟩ := List.forall_mem_cons.1 h.sequence
      -- the last branch was open, the ones before it are those of the node
      obtain ⟨hbranch, hbranches⟩ := keepsSpace_alternation.1 hbody
      refine ⟨?_, keepsSpace_toAst.1 hbranch⟩
      rw [hframes]
      exact List.forall_mem_cons.2 ⟨hbranches,
        List.forall_mem_cons.2 ⟨⟨houter, hkind⟩, h.frames⟩⟩
  | bar hx hs =>
    have hframes := (hs ▸ h).frames
    simp only [pushAlternate] at hframes
    split at hframes
    · rename_i heq
      obtain ⟨hframe, hframes⟩ := List.forall_mem_cons.1 hframes
      obtain ⟨hbranch, hbranches⟩ := List.forall_mem_cons.1 hframe
      refine ⟨?_, keepsSpace_toAst.1 hbranch⟩
      rw [heq]
      exact List.forall_mem_cons.2 ⟨hbranches, hframes⟩
    · obtain ⟨hframe, hframes⟩ := List.forall_mem_cons.1 hframes
      exact ⟨hframes, keepsSpace_toAst.1 (List.forall_mem_singleton.1 hframe)⟩
  | leaf item c hs hc hspan hitem =>
    rw [hs] at h
    exact ⟨h.frames, (List.forall_mem_cons.1 h.sequence).2⟩
  | repeats item rest hs =>
    have hitems := hs.items
    obtain ⟨-, -, count, greedy, heq⟩ := hs
    rw [heq] at h
    obtain ⟨hitem, hrest⟩ := List.forall_mem_cons.1 h.sequence
    exact ⟨h.frames, hitems ▸ List.forall_mem_cons.2 ⟨hitem, hrest⟩⟩

theorem finish_cases (hframed : Framed plain s.frames before) {ast : Ast}
    (hast : finish s = .ok ast) :
    s.frames = [] ∧ ast = s.sequence.toAst s.cursor.pos ∨
      ∃ start branches, s.frames = [.alternation start branches] ∧
        ast = .alternation ⟨start, s.cursor.pos⟩
          (s.sequence.toAst s.cursor.pos :: branches).reverse := by
  unfold finish at hast
  dsimp only at hast
  generalize s.frames = frames at hframed hast
  cases frames with
  | nil => exact .inl ⟨rfl, (Except.ok.inj hast).symm⟩
  | cons frame rest =>
    cases frame with
    | group => cases hast
    | alternation start branches =>
      cases rest with
      | nil => exact .inr ⟨start, branches, rfl, (Except.ok.inj hast).symm⟩
      | cons frame rest =>
        cases frame with
        | group => cases hast
        | alternation start' branches' => exact absurd rfl (hframed.1 start' branches' rest)

theorem finish_covers (h : s.Reads plain pattern before text) (hend : s.cursor.rest = [])
    {ast : Ast} (hast : finish s = .ok ast) :
    Holds plain ast.span (ast.Covers plain) 0 pattern := by
  have hpattern : pattern = before ++ text := by rw [h.pattern, hend, List.append_nil]
  have hbranch := h.branch
  have hframed := h.frames
  rcases finish_cases hframed hast with ⟨hframes, rfl⟩ | ⟨start, branches, hframes, rfl⟩
  · rw [hframes] at hframed
    obtain rfl : before = [] := hframed
    rw [hpattern]
    exact hbranch
  · rw [hframes] at hframed
    obtain ⟨-, first, row, rfl, hstart, hrow, hfirst⟩ := hframed
    obtain rfl : first = [] := hfirst
    have hzero : start.offset = 0 := hstart
    rw [byteLength_append] at hbranch
    have hrow' := hrow.push hbranch
    rw [← List.reverse_cons] at hrow'
    rw [hpattern, List.nil_append]
    refine .exact hzero ⟨?_, ?_⟩
    · change s.cursor.pos.offset = start.offset + _
      rw [h.offset, hzero, List.nil_append, Nat.zero_add]
    · change Ast.Row plain ['|'] start.offset _ _
      rwa [hzero]

theorem finish_keepsSpace (hframed : Framed plain s.frames before) {ast : Ast}
    (hast : finish s = .ok ast) (h : ast.KeepsSpace) : s.KeepsSpace := by
  rcases finish_cases hframed hast with ⟨hframes, rfl⟩ | ⟨start, branches, hframes, rfl⟩
  · exact ⟨hframes ▸ fun _ h => (nomatch h), keepsSpace_toAst.1 h⟩
  · obtain ⟨hbranch, hbranches⟩ := keepsSpace_alternation.1 h
    exact ⟨hframes ▸ List.forall_mem_singleton.2 hbranches, keepsSpace_toAst.1 hbranch⟩

theorem run_keepsSpace (h : ∃ before text, s.Reads False pattern before text) {fuel : Nat}
    {ast : Ast} (hast : run fuel s = .ok ast) (hkeeps : ast.KeepsSpace) : s.KeepsSpace := by
  induction fuel generalizing s with
  | zero =>
    obtain ⟨before, text, h⟩ := h
    exact finish_keepsSpace h.frames hast hkeeps
  | succ fuel ih =>
    obtain ⟨before, text, h⟩ := h
    obtain ⟨text', hskip⟩ := h.skip
    let skipped : ParseState := { s with cursor := s.cursor.skipSpace s.verbose }
    have hback : skipped.KeepsSpace → s.KeepsSpace := fun hk => ⟨hk.frames, hk.sequence⟩
    simp only [run] at hast
    split at hast
    · exact hback (finish_keepsSpace hskip.frames hast hkeeps)
    · rename_i x hx
      obtain ⟨s', hs, hast⟩ := bind_eq_ok.1 hast
      have hstep := step_cases hx hs
      exact hback (hstep.keepsSpace (ih (step_reads hskip hx hstep False.elim) hast))

theorem run_covers (h : ∃ before text, s.Reads plain pattern before text)
    (hany : ∃ before text, s.Reads False pattern before text) {fuel : Nat}
    (hfuel : s.cursor.rest.length < fuel) {ast : Ast} (hast : run fuel s = .ok ast)
    (hkeeps : plain → ast.KeepsSpace) : Holds plain ast.span (ast.Covers plain) 0 pattern := by
  induction fuel generalizing s with
  | zero => exact absurd hfuel (Nat.not_lt_zero _)
  | succ fuel ih =>
    obtain ⟨before, text, h⟩ := h
    obtain ⟨text', hskip⟩ := h.skip
    obtain ⟨before₀, text₀, hany⟩ := hany
    obtain ⟨text₀', hskipAny⟩ := hany.skip
    simp only [run] at hast
    split at hast
    · rename_i hx
      exact finish_covers hskip (List.head?_eq_none_iff.1 hx) hast
    · rename_i x hx
      obtain ⟨s', hs, hast⟩ := bind_eq_ok.1 hast
      have hstep := step_cases hx hs
      have hany' := step_reads hskipAny hx hstep False.elim
      have hkeeps' : plain → s'.KeepsSpace := fun hp => run_keepsSpace hany' hast (hkeeps hp)
      obtain ⟨gap, hgap⟩ := Cursor.reaches_skipSpace s.verbose s.cursor
      obtain ⟨piece, hpiece⟩ := hstep.reaches.passes_char hx
      refine ih (step_reads hskip hx hstep hkeeps') hany' ?_ hast
      have hlen := congrArg List.length hgap.rest
      have hlen' := congrArg List.length hpiece.rest
      simp only [List.length_append, List.length_cons] at hlen hlen'
      omega

end Parser

/-- A pattern that was read is covered by its root, without white space around it where no white
space is ignored. -/
theorem parse_covers {pattern : List Char} {ast : Ast} (h : parse pattern = .ok ast) :
    Holds ast.KeepsSpace ast.span (ast.Covers ast.KeepsSpace) 0 pattern := by
  obtain ⟨ast', hrun, h⟩ := bind_eq_ok.1 h
  split at h
  · cases h
  · obtain rfl := Except.ok.inj h
    exact Parser.run_covers ⟨_, _, ParseState.reads_initial _ pattern⟩
      ⟨_, _, ParseState.reads_initial _ pattern⟩ (Nat.lt_succ_self _) hrun fun hk => hk

end RegexStudio.Pattern
