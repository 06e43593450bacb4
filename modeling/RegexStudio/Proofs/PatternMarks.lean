import RegexStudio.Proofs.PatternSpans

/-! What stands in a pattern that was read, in the order in which it is written: the leaves and the
openings of groups. A step of the reader marks one more of these at most, and what is marked stays
to the end. So the groups are numbered from 1 on in this order, and no two have the same name. -/

namespace RegexStudio.Pattern

inductive Mark
  | leaf (ast : Ast)
  | opened (kind : GroupKind)

namespace Mark

def leaf? : Mark → Option Ast
  | leaf ast => some ast
  | opened _ => none

def group? : Mark → Option (Nat × Option String)
  | leaf _ => none
  | opened kind => kind.index?.map fun index => (index, kind.name?)

end Mark

mutual

/-- What is marked in a part. Nothing at all is no leaf: it is written nowhere. -/
def Ast.marks : Ast → List Mark
  | .empty _ => []
  | .repetition _ _ _ sub => sub.marks
  | .group _ kind sub => .opened kind :: sub.marks
  | .alternation _ items | .concat _ items => Ast.allMarks items
  | ast => [.leaf ast]

def Ast.allMarks : List Ast → List Mark
  | [] => []
  | item :: rest => item.marks ++ Ast.allMarks rest

end

def Ast.groups (ast : Ast) : List (Nat × Option String) := ast.marks.filterMap Mark.group?

def Ast.leaves (ast : Ast) : List Ast := ast.marks.filterMap Mark.leaf?

theorem allMarks_eq_flatMap (items : List Ast) : Ast.allMarks items = items.flatMap Ast.marks := by
  induction items with
  | nil => rfl
  | cons item rest ih => rw [Ast.allMarks, ih, List.flatMap_cons]

theorem allMarks_reverse_cons (item : Ast) (rest : List Ast) :
    Ast.allMarks (item :: rest).reverse = Ast.allMarks rest.reverse ++ item.marks := by
  simp only [allMarks_eq_flatMap, List.reverse_cons, List.flatMap_append, List.flatMap_cons,
    List.flatMap_nil, List.append_nil]

theorem marks_ofItems (span : Span) (items : List Ast) :
    (Ast.ofItems span items).marks = Ast.allMarks items := by
  match items with
  | [] => rfl
  | [item] => exact (List.append_nil _).symm
  | _ :: _ :: _ => rfl

theorem Ast.IsLeaf.marks {ast : Ast} (h : ast.IsLeaf) : ast.marks = [.leaf ast] := by
  cases ast with
  | empty | flags | repetition | group | alternation | concat => exact h.elim
  | _ => rfl

namespace Sequence

def marks (s : Sequence) : List Mark := Ast.allMarks s.items.reverse

theorem marks_push (s : Sequence) (item : Ast) : (s.push item).marks = s.marks ++ item.marks :=
  allMarks_reverse_cons item s.items

theorem marks_toAst (s : Sequence) (stop : Position) : (s.toAst stop).marks = s.marks :=
  marks_ofItems _ _

end Sequence

def Frame.marks : Frame → List Mark
  | .group outer _ kind _ => outer.marks ++ [.opened kind]
  | .alternation _ branches => Ast.allMarks branches.reverse

def framesMarks (frames : List Frame) : List Mark := frames.reverse.flatMap Frame.marks

theorem framesMarks_cons (frame : Frame) (rest : List Frame) :
    framesMarks (frame :: rest) = framesMarks rest ++ frame.marks := by
  simp only [framesMarks, List.reverse_cons, List.flatMap_append, List.flatMap_cons,
    List.flatMap_nil, List.append_nil]

def ParseState.marks (s : ParseState) : List Mark := framesMarks s.frames ++ s.sequence.marks

theorem ParseState.marks_push (s : ParseState) (item : Ast) (c : Cursor) :
    (s.push item c).marks = s.marks ++ item.marks := by
  change framesMarks s.frames ++ (s.sequence.push item).marks = _
  rw [Sequence.marks_push, ← List.append_assoc]
  rfl

theorem ParseState.marks_open (s : ParseState) (span : Span) (kind : GroupKind) (p : Position) :
    framesMarks (.group s.sequence span kind s.verbose :: s.frames) ++
      (⟨p, []⟩ : Sequence).marks = s.marks ++ [.opened kind] := by
  rw [framesMarks_cons, Frame.marks, ← List.append_assoc]
  exact List.append_nil _

namespace Parser

variable {s s' : ParseState} {pattern : List Char} {x : Char} {ast : Ast} {fuel : Nat}

theorem pushAlternate_marks (s : ParseState) : (pushAlternate s).marks = s.marks := by
  have hnone (p : Position) : (⟨p, []⟩ : Sequence).marks = [] := rfl
  simp only [ParseState.marks, pushAlternate, hnone, List.append_nil]
  split
  · rename_i hframes
    rw [hframes, framesMarks_cons, framesMarks_cons, Frame.marks, Frame.marks,
      allMarks_reverse_cons, Sequence.marks_toAst, List.append_assoc]
  · simp only [framesMarks_cons, Frame.marks, List.reverse_singleton, Ast.allMarks,
      Sequence.marks_toAst, List.append_nil]

inductive Numbers (s s' : ParseState) : List (Nat × Option String) → Prop
  | none (hcaptures : s'.captures = s.captures) (hnames : s'.names = s.names) : Numbers s s' []
  | next (name? : Option String) (hlimit : s.captures < Group.maxCaptures)
    (hcaptures : s'.captures = s.captures + 1)
    (hnames : s'.names.map Prod.fst = s.names.map Prod.fst ++ name?.toList)
    (hfresh : ∀ name ∈ name?, name ∉ s.names.map Prod.fst)
    (hword : ∀ name ∈ name?, name.toList.all Text.isDigit = false) :
    Numbers s s' [(s.captures + 1, name?)]

theorem pushGroup_marks (hs : pushGroup s = .ok s') :
    ∃ added, s'.marks = s.marks ++ added ∧ Numbers s s' (added.filterMap Mark.group?) := by
  obtain ⟨⟨opening, names, c⟩, hread, hs⟩ := bind_eq_ok.1 hs
  cases Group.read_opens hread with
  | named mark text span c hmark hahead hlimit hname =>
    cases hs
    refine ⟨_, s.marks_open _ _ _, .next (some text) hlimit rfl List.map_append ?_ ?_⟩
    · rintro name ⟨⟩
      exact Group.name_fresh hname
    · rintro name ⟨⟩
      exact Group.name_not_digits hname
  | flags entries c hmark hflags =>
    cases hs
    exact ⟨_, s.marks_push (.flags _ entries) c, .none rfl rfl⟩
  | plain entries c hmark hflags =>
    cases hs
    exact ⟨_, s.marks_open _ _ _, .none rfl rfl⟩
  | capture hlimit =>
    cases hs
    refine ⟨_, s.marks_open _ _ _, .next none hlimit rfl (List.append_nil _).symm ?_ ?_⟩
    · exact fun _ h => nomatch h
    · exact fun _ h => nomatch h

theorem marks_closed (s : ParseState) (outer : Sequence) (span : Span) (kind : GroupKind)
    (verbose : Bool) (rest : List Frame) (body : Ast) :
    (closed s outer span kind verbose rest body).marks =
      framesMarks rest ++ (outer.marks ++ [.opened kind]) ++ body.marks := by
  -- the opening goes before the body, on the frame as in the group
  change framesMarks rest ++ (outer.push _).marks = _
  rw [Sequence.marks_push, Ast.marks, List.append_assoc, List.append_assoc, List.singleton_append]

theorem popGroup_marks (hs : popGroup s = .ok s') :
    s'.marks = s.marks ∧ s'.captures = s.captures ∧ s'.names = s.names := by
  cases popGroup_cases hs with
  | branch hframes =>
    refine ⟨?_, rfl, rfl⟩
    rw [marks_closed, ParseState.marks, hframes, framesMarks_cons, Frame.marks,
      Sequence.marks_toAst]
  | choice hframes =>
    refine ⟨?_, rfl, rfl⟩
    rw [marks_closed, ParseState.marks, hframes, framesMarks_cons, framesMarks_cons, Frame.marks,
      Frame.marks, Ast.marks, allMarks_reverse_cons, Sequence.marks_toAst,
      List.append_assoc _ _ s.sequence.marks]

theorem repeats_marks {item : Ast} {rest : List Ast} (hs : Repeats s s' item rest) :
    s'.marks = s.marks := by
  have hitems := hs.items
  obtain ⟨-, -, count, greedy, hs⟩ := hs
  rw [hs, ParseState.marks, ParseState.marks, Sequence.marks, Sequence.marks, hitems,
    allMarks_reverse_cons]
  exact congrArg _ (allMarks_reverse_cons _ rest)

theorem Stepped.marks (hs : Stepped s s') :
    ∃ added, s'.marks = s.marks ++ added ∧ Numbers s s' (added.filterMap Mark.group?) := by
  cases hs with
  | opens hx hs => exact pushGroup_marks hs
  | closes hx hs =>
    obtain ⟨hmarks, hcaptures, hnames⟩ := popGroup_marks hs
    exact ⟨[], hmarks.trans (List.append_nil _).symm, .none hcaptures hnames⟩
  | bar hx hs =>
    rw [hs]
    exact ⟨[], (pushAlternate_marks s).trans (List.append_nil _).symm, .none rfl rfl⟩
  | leaf item c hs hc hspan hitem =>
    rw [hs]
    refine ⟨_, s.marks_push item c, ?_⟩
    rw [hitem.marks]
    exact .none rfl rfl
  | repeats item rest hs =>
    have hmarks := repeats_marks hs
    obtain ⟨-, -, count, greedy, hs⟩ := hs
    refine ⟨[], hmarks.trans (List.append_nil _).symm, ?_⟩
    rw [hs]
    exact .none rfl rfl

theorem finish_marks (h : ∃ before text, s.Reads False pattern before text)
    (hast : finish s = .ok ast) : ast.marks = s.marks := by
  obtain ⟨before, text, h⟩ := h
  rcases finish_cases h.frames hast with ⟨hframes, rfl⟩ | ⟨start, branches, hframes, rfl⟩
  · rw [Sequence.marks_toAst, ParseState.marks, hframes]
    rfl
  · rw [Ast.marks, allMarks_reverse_cons, Sequence.marks_toAst, ParseState.marks, hframes,
      framesMarks_cons]
    rfl

theorem run_marks (h : ∃ before text, s.Reads False pattern before text)
    (hast : run fuel s = .ok ast) : s.marks <+: ast.marks := by
  induction fuel generalizing s with
  | zero => exact finish_marks h hast ▸ List.prefix_rfl
  | succ fuel ih =>
    obtain ⟨before, text, h⟩ := h
    obtain ⟨text', hskip⟩ := h.skip
    simp only [run] at hast
    split at hast
    · exact finish_marks ⟨_, _, hskip⟩ hast ▸ List.prefix_rfl
    · rename_i x hx
      obtain ⟨s', hs, hast⟩ := bind_eq_ok.1 hast
      have hstep := step_cases hx hs
      obtain ⟨added, hadded, -⟩ := hstep.marks
      have hrest := ih (step_reads hskip hx hstep False.elim) hast
      rw [hadded] at hrest
      exact (List.prefix_append _ added).trans hrest

end Parser

/-- Capturing groups are numbered from 1 on, no two of them have the same name, and a name is not
written like a number. -/
structure Tally (groups : List (Nat × Option String)) : Prop where
  numbers : groups.map Prod.fst = List.range' 1 groups.length
  limit : groups.length ≤ Group.maxCaptures
  apart : (groups.filterMap Prod.snd).Nodup
  words : ∀ name ∈ groups.filterMap Prod.snd, name.toList.all Text.isDigit = false

theorem Tally.next {groups : List (Nat × Option String)} (h : Tally groups)
    (hlimit : groups.length < Group.maxCaptures) {name? : Option String}
    (hfresh : ∀ name ∈ name?, name ∉ groups.filterMap Prod.snd)
    (hword : ∀ name ∈ name?, name.toList.all Text.isDigit = false) :
    Tally (groups ++ [(groups.length + 1, name?)]) := by
  have hnames : (groups ++ [(groups.length + 1, name?)]).filterMap Prod.snd =
      groups.filterMap Prod.snd ++ name?.toList := by
    rw [List.filterMap_append]
    cases name? <;> rfl
  refine ⟨?_, ?_, ?_, ?_⟩
  · rw [List.map_append, h.numbers, List.length_append, List.length_singleton,
      List.range'_concat, Nat.one_mul, Nat.add_comm 1]
    rfl
  · rw [List.length_append]
    exact hlimit
  · rw [hnames]
    cases name? with
    | none => exact (List.append_nil _).symm ▸ h.apart
    | some name =>
      rw [Option.toList_some, ← List.concat_eq_append]
      exact h.apart.concat (hfresh name rfl)
  · rw [hnames]
    intro name hname
    rcases List.mem_append.1 hname with hname | hname
    · exact h.words name hname
    · exact hword name (Option.mem_toList.1 hname)

namespace Tally

variable {groups : List (Nat × Option String)} {i j : Nat} {name? name?' : Option String}

theorem number (h : Tally groups) {group : Nat × Option String} (hj : groups[j]? = some group) :
    group.1 = j + 1 := by
  have hlength : j < groups.length := (List.getElem?_eq_some_iff.1 hj).1
  have hnumber : (groups.map Prod.fst)[j]? = some group.1 := by
    rw [List.getElem?_map, hj]
    rfl
  rw [h.numbers, List.getElem?_range' hlength, Nat.one_mul, Nat.add_comm] at hnumber
  exact (Option.some.inj hnumber).symm

theorem mem_iff (h : Tally groups) :
    (j + 1, name?) ∈ groups ↔ (groups.map Prod.snd)[j]? = some name? := by
  rw [List.getElem?_map, Option.map_eq_some_iff]
  constructor
  · intro hmem
    obtain ⟨j', hj'⟩ := List.mem_iff_getElem?.1 hmem
    obtain rfl : j = j' := Nat.succ.inj (h.number hj')
    exact ⟨_, hj', rfl⟩
  · rintro ⟨group, hj, rfl⟩
    rw [← h.number hj]
    exact List.mem_of_getElem? hj

theorem mem_pos (h : Tally groups) {group : Nat × Option String} (hmem : group ∈ groups) :
    1 ≤ group.1 ∧ group.1 ≤ groups.length := by
  obtain ⟨j, hj⟩ := List.mem_iff_getElem?.1 hmem
  have hnumber := h.number hj
  have hlength := (List.getElem?_eq_some_iff.1 hj).1
  omega

theorem exists_mem (h : Tally groups) (hpos : 1 ≤ i) (hi : i ≤ groups.length) :
    ∃ name?, (i, name?) ∈ groups := by
  obtain ⟨j, rfl⟩ := Nat.exists_eq_add_of_le' hpos
  refine ⟨_, h.mem_iff.2 (List.getElem?_eq_getElem ?_)⟩
  rw [List.length_map]
  exact hi

theorem name_unique (h : Tally groups) (hmem : (i, name?) ∈ groups) (hmem' : (i, name?') ∈ groups) :
    name? = name?' := by
  obtain ⟨j, rfl⟩ := Nat.exists_eq_add_of_le' (h.mem_pos hmem).1
  rw [h.mem_iff] at hmem hmem'
  exact Option.some.inj (hmem.symm.trans hmem')

end Tally

namespace ParseState

structure Tallied (s : ParseState) : Prop where
  tally : Tally (s.marks.filterMap Mark.group?)
  captures : s.captures = (s.marks.filterMap Mark.group?).length
  names : s.names.map Prod.fst = (s.marks.filterMap Mark.group?).filterMap Prod.snd

theorem tallied_initial (pattern : List Char) : (initial pattern).Tallied :=
  ⟨⟨rfl, Nat.zero_le _, List.nodup_nil, fun _ h => nomatch h⟩, rfl, rfl⟩

theorem Tallied.step {s s' : ParseState} (h : s.Tallied) (hs : Parser.Stepped s s') :
    s'.Tallied := by
  obtain ⟨added, hmarks, hnumbers⟩ := hs.marks
  have hgroups : s'.marks.filterMap Mark.group? =
      s.marks.filterMap Mark.group? ++ added.filterMap Mark.group? := by
    rw [hmarks, List.filterMap_append]
  generalize added.filterMap Mark.group? = opened at hgroups hnumbers
  cases hnumbers with
  | none hcaptures hnames =>
    rw [List.append_nil] at hgroups
    exact ⟨hgroups ▸ h.tally, hgroups ▸ hcaptures ▸ h.captures, hgroups ▸ hnames ▸ h.names⟩
  | next name? hlimit hcaptures hnames hfresh hword =>
    rw [h.captures] at hlimit hcaptures hgroups
    rw [h.names] at hfresh hnames
    refine ⟨?_, ?_, ?_⟩
    · rw [hgroups]
      exact h.tally.next hlimit hfresh hword
    · rw [hcaptures, hgroups, List.length_append, List.length_singleton]
    · rw [hnames, hgroups, List.filterMap_append]
      cases name? <;> rfl

end ParseState

theorem Parser.run_tally {s : ParseState} {pattern : List Char} {ast : Ast} {fuel : Nat}
    (h : ∃ before text, s.Reads False pattern before text) (htally : s.Tallied)
    (hast : run fuel s = .ok ast) : Tally ast.groups := by
  induction fuel generalizing s with
  | zero =>
    rw [Ast.groups, finish_marks h hast]
    exact htally.tally
  | succ fuel ih =>
    obtain ⟨before, text, h⟩ := h
    obtain ⟨text', hskip⟩ := h.skip
    let skipped : ParseState := { s with cursor := s.cursor.skipSpace s.verbose }
    have htally' : skipped.Tallied := ⟨htally.tally, htally.captures, htally.names⟩
    simp only [run] at hast
    split at hast
    · rw [Ast.groups, finish_marks ⟨_, _, hskip⟩ hast]
      exact htally.tally
    · rename_i x hx
      obtain ⟨s', hs, hast⟩ := bind_eq_ok.1 hast
      have hstep := step_cases hx hs
      exact ih (step_reads hskip hx hstep False.elim) (htally'.step hstep) hast

theorem parse_eq_ok {pattern : List Char} {ast : Ast} (h : parse pattern = .ok ast) :
    Parser.run (pattern.length + 1) (.initial pattern) = .ok ast := by
  obtain ⟨ast', hrun, h⟩ := bind_eq_ok.1 h
  split at h
  · cases h
  · obtain rfl := Except.ok.inj h
    exact hrun

/-- The capturing groups of a pattern are numbered in the order of their openings. -/
theorem parse_tally {pattern : List Char} {ast : Ast} (h : parse pattern = .ok ast) :
    Tally ast.groups :=
  Parser.run_tally ⟨_, _, ParseState.reads_initial _ pattern⟩ (ParseState.tallied_initial pattern)
    (parse_eq_ok h)

end RegexStudio.Pattern
