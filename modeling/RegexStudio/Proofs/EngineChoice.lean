import RegexStudio.Proofs.Replacement

/-! Which engine gets a pattern. The features of the backtracking engine are looked for in the text
of the pattern, whatever that means there. In a pattern that is well formed for the linear engine
they stand inside of leaves only, a class or an escape, or in comments: there the search is misled,
and the pattern goes past the engine that would take it. -/

namespace RegexStudio

open Text (byteLength byteLength_append)

namespace Features

inductive Spelled : List Char → Prop
  | group (mark rest : List Char) (hmark : mark ∈ [['?', '='], ['?', '!'], ['?', '<', '='],
      ['?', '<', '!'], ['?', '>']]) : Spelled ('(' :: mark ++ rest)
  | reference (d : Char) (rest : List Char) (hd : '1' ≤ d ∧ d ≤ '9') : Spelled ('\\' :: d :: rest)

theorem occurs_iff {needle text : List Char} (hneedle : needle ≠ []) :
    Text.occurs needle text = true ↔ ∃ front rest, text = front ++ (needle ++ rest) := by
  induction text with
  | nil =>
    rw [Text.occurs, List.isEmpty_iff]
    refine ⟨fun h => absurd h hneedle, ?_⟩
    rintro ⟨front, rest, h⟩
    exact absurd (List.append_eq_nil_iff.1 (List.append_eq_nil_iff.1 h.symm).2).1 hneedle
  | cons c cs ih =>
    rw [Text.occurs, Bool.or_eq_true, List.isPrefixOf_iff_prefix, ih]
    constructor
    · rintro (⟨rest, h⟩ | ⟨front, rest, rfl⟩)
      · exact ⟨[], rest, h.symm⟩
      · exact ⟨c :: front, rest, rfl⟩
    · rintro ⟨front, rest, h⟩
      cases front with
      | nil => exact .inl ⟨rest, h.symm⟩
      | cons y front =>
        obtain ⟨-, rfl⟩ := List.cons.inj h
        exact .inr ⟨front, rest, rfl⟩

theorem hasNumberedReference_iff {text : List Char} :
    hasNumberedReference text = true ↔
      ∃ front d rest, text = front ++ '\\' :: d :: rest ∧ '1' ≤ d ∧ d ≤ '9' := by
  -- a reference stands at the front of the text or in what follows its first character
  have hcons (c : Char) (cs : List Char) :
      (∃ front d rest, c :: cs = front ++ '\\' :: d :: rest ∧ '1' ≤ d ∧ d ≤ '9') ↔
        (∃ d rest, c :: cs = '\\' :: d :: rest ∧ '1' ≤ d ∧ d ≤ '9') ∨
          ∃ front d rest, cs = front ++ '\\' :: d :: rest ∧ '1' ≤ d ∧ d ≤ '9' := by
    constructor
    · rintro ⟨front, d, rest, h, hd⟩
      cases front with
      | nil => exact .inl ⟨d, rest, h, hd⟩
      | cons y front => exact .inr ⟨front, d, rest, (List.cons.inj h).2, hd⟩
    · rintro (⟨d, rest, h, hd⟩ | ⟨front, d, rest, rfl, hd⟩)
      · exact ⟨[], d, rest, h, hd⟩
      · exact ⟨c :: front, d, rest, rfl, hd⟩
  fun_induction hasNumberedReference text with
  | case1 d rest ih =>
    rw [hcons, Bool.or_eq_true, Bool.and_eq_true, decide_eq_true_eq, decide_eq_true_eq]
    refine or_congr ⟨fun h => ⟨d, rest, rfl, h⟩, ?_⟩ ih
    rintro ⟨d', rest', h, hd⟩
    cases h
    exact hd
  | case2 c rest hother ih =>
    rw [hcons]
    refine ih.trans (or_iff_right ?_).symm
    rintro ⟨d, rest', h, -⟩
    obtain ⟨rfl, rfl⟩ := List.cons.inj h
    exact hother d rest' rfl rfl
  | case3 =>
    constructor
    · exact fun h => nomatch h
    · rintro ⟨front, d, rest, h, -⟩
      exact absurd h.symm (by simp)

theorem needsBacktracking_iff {pattern : List Char} :
    (ofPattern pattern).needsBacktracking = true ↔
      ∃ front feature, pattern = front ++ feature ∧ Spelled feature := by
  have hgroup (mark : List Char) : (∃ front rest, pattern = front ++ ('(' :: mark ++ rest)) ↔
      Text.occurs ('(' :: mark) pattern = true := (occurs_iff (List.cons_ne_nil _ _)).symm
  have hspelled : (∃ front feature, pattern = front ++ feature ∧ Spelled feature) ↔
      (∃ mark ∈ [['?', '='], ['?', '!'], ['?', '<', '='], ['?', '<', '!'], ['?', '>']],
        ∃ front rest, pattern = front ++ ('(' :: mark ++ rest)) ∨
      ∃ front d rest, pattern = front ++ '\\' :: d :: rest ∧ '1' ≤ d ∧ d ≤ '9' := by
    constructor
    · rintro ⟨front, feature, rfl, hfeature⟩
      cases hfeature with
      | group mark rest hmark => exact .inl ⟨mark, hmark, front, rest, rfl⟩
      | reference d rest hd => exact .inr ⟨front, d, rest, rfl, hd⟩
    · rintro (⟨mark, hmark, front, rest, rfl⟩ | ⟨front, d, rest, rfl, hd⟩)
      · exact ⟨front, _, rfl, .group mark rest hmark⟩
      · exact ⟨front, _, rfl, .reference d rest hd⟩
  rw [hspelled, ← hasNumberedReference_iff]
  simp only [hgroup, List.mem_cons, List.not_mem_nil, or_false, exists_eq_or_imp, exists_eq_left,
    needsBacktracking, ofPattern, Bool.or_eq_true]
  change (((Text.occurs ['(', '?', '='] pattern = true ∨
      Text.occurs ['(', '?', '!'] pattern = true) ∨
    (Text.occurs ['(', '?', '<', '='] pattern = true ∨
      Text.occurs ['(', '?', '<', '!'] pattern = true)) ∨ hasNumberedReference pattern = true) ∨
    Text.occurs ['(', '?', '>'] pattern = true ↔ _
  simp only [or_assoc, or_comm, or_left_comm]

theorem Spelled.opener {feature : List Char} (h : Spelled feature) :
    ∃ x xs, feature = x :: xs ∧ (x = '(' ∨ x = '\\') := by
  cases h with
  | group mark rest hmark => exact ⟨_, _, rfl, .inl rfl⟩
  | reference d rest hd => exact ⟨_, _, rfl, .inr rfl⟩

end Features

namespace Pattern

open Features (Spelled)

theorem Cursor.Skims.before_feature {verbose : Bool} {c c' : Cursor} (h : c.Skims verbose c')
    {more feature : List Char} (hrest : c.rest = more ++ feature) (hspelled : Spelled feature)
    (hcomments : verbose = true → '#' ∉ c.rest) :
    ∃ more', c'.rest = more' ++ feature ∧ more'.length ≤ more.length := by
  obtain ⟨text, hc, hquiet⟩ := h
  have hno : ∀ x ∈ text, x ≠ '(' ∧ x ≠ '\\' := by
    refine hquiet.resolve_right fun ⟨hverbose, hhash⟩ => hcomments hverbose ?_
    rw [hc.rest]
    exact List.mem_append_left _ hhash
  have hsplit := hc.rest.symm.trans hrest
  rcases List.append_eq_append_iff.1 hsplit with ⟨more', rfl, hmore⟩ | ⟨beyond, rfl, hover⟩
  · exact ⟨more', hmore, by simp⟩
  · -- the text would take the first character of the feature
    obtain ⟨x, xs, rfl, hx⟩ := hspelled.opener
    cases beyond with
    | nil => exact ⟨[], hover.symm, Nat.zero_le _⟩
    | cons y beyond =>
      obtain ⟨rfl, -⟩ := List.cons.inj hover
      obtain ⟨hparen, hbackslash⟩ := hno x (by simp)
      exact (hx.elim hparen hbackslash).elim

theorem Group.read_feature {verbose : Bool} {captures : Nat} {names : GroupNames} {p : Position}
    {mark rest : List Char}
    (hmark : mark ∈ [['?', '='], ['?', '!'], ['?', '<', '='], ['?', '<', '!'], ['?', '>']])
    {opening : Opening} {names' : GroupNames} {c' : Cursor} :
    read verbose captures names ⟨'(' :: mark ++ rest, p⟩ ≠ .ok (opening, names', c') := by
  intro h
  simp only [List.mem_cons, List.not_mem_nil, or_false] at hmark
  have hskip : Cursor.bumpSpace verbose ⟨'(' :: mark ++ rest, p⟩ =
      ⟨mark ++ rest, p.advance '('⟩ := by
    rcases hmark with rfl | rfl | rfl | rfl | rfl <;> cases verbose <;> rfl
  unfold read at h
  rw [hskip] at h
  rcases hmark with rfl | rfl | rfl | rfl | rfl
  · exact nomatch h
  · exact nomatch h
  · exact nomatch h
  · exact nomatch h
  · -- the angle is read as a flag, which it is not
    obtain ⟨⟨entries, c₁⟩, hflags, -⟩ := bind_eq_ok.1 h
    change flags ⟨'>' :: rest, _⟩ [] = _ at hflags
    rw [flags.eq_def] at hflags
    exact nomatch hflags

theorem Parser.step_feature {s s' : ParseState} {x : Char} (hspelled : Spelled s.cursor.rest)
    (hx : s.cursor.char? = some x) : step s x ≠ .ok s' := by
  intro h
  obtain ⟨c, verbose, sequence, frames, captures, names⟩ := s
  obtain ⟨rest, pos⟩ := c
  change Spelled rest at hspelled
  cases hspelled with
  | group mark rest hmark =>
    obtain rfl := Option.some.inj hx
    obtain ⟨⟨opening, names', c'⟩, hread, -⟩ := bind_eq_ok.1 h
    exact Group.read_feature hmark hread
  | reference d rest hd =>
    obtain rfl := Option.some.inj hx
    obtain ⟨⟨item, c'⟩, hread, -⟩ := bind_eq_ok.1 h
    have hdigit : Text.isDigit d = true := by
      rw [Text.isDigit, Bool.and_eq_true, decide_eq_true_eq, decide_eq_true_eq]
      exact ⟨Char.le_trans (by decide) hd.1, hd.2⟩
    change Escape.read verbose ⟨'\\' :: d :: rest, pos⟩ = _ at hread
    unfold Escape.read at hread
    dsimp only [Cursor.char?, Cursor.bump, List.head?] at hread
    rw [if_pos hdigit] at hread
    cases hread

namespace ParseState

variable {plain : Prop} {pattern before text front feature more : List Char} {s : ParseState}

theorem Reads.comments (h : s.Reads plain pattern before text)
    (hcomments : plain ∨ '#' ∉ pattern) (hverbose : s.verbose = true) :
    '#' ∉ s.cursor.rest := by
  intro hhash
  rcases hcomments with hplain | hnone
  · rw [h.verbose hplain] at hverbose
    cases hverbose
  · rw [h.pattern] at hnone
    exact hnone (List.mem_append_right _ hhash)

theorem Reads.offset_front (h : s.Reads plain pattern before text)
    (hpattern : pattern = front ++ feature) (hrest : s.cursor.rest = more ++ feature) :
    byteLength front = s.cursor.pos.offset + byteLength more := by
  have hfront : front ++ feature = before ++ text ++ more ++ feature := by
    rw [← hpattern, h.pattern, hrest, ← List.append_assoc]
  rw [List.append_cancel_right hfront, byteLength_append, h.offset]

end ParseState

/-- Whether what comes behind some text begins strictly inside of a part. -/
def Ast.Hides (ast : Ast) (front : List Char) : Prop :=
  ast.span.start.offset < byteLength front ∧ byteLength front < ast.span.stop.offset

namespace Parser

variable {plain : Prop} {pattern before text front feature more : List Char} {s s' : ParseState}
  {x : Char}

theorem Stepped.before_feature (h : s.Reads plain pattern before text)
    (hx : s.cursor.char? = some x) (hs : Stepped s s') (hcomments : plain ∨ '#' ∉ pattern)
    (hpattern : pattern = front ++ feature) (hspelled : Spelled feature)
    (hrest : s.cursor.rest = x :: more ++ feature) :
    (∃ more', s'.cursor.rest = more' ++ feature ∧ more'.length ≤ more.length) ∨
      ∃ item c, s' = s.push item c ∧ item.IsLeaf ∧ item.Hides front := by
  have hbump : s.cursor.bump.rest = more ++ feature := by
    have hpasses := (Cursor.passes_bump hx).rest
    rw [hrest] at hpasses
    exact (List.cons.inj hpasses).2.symm
  rcases hs.skims with hskims | ⟨item, c, rfl, hitem, hc, hspan⟩
  · refine .inl (hskims.before_feature hbump hspelled fun hverbose hhash => ?_)
    rw [hbump] at hhash
    refine h.comments hcomments hverbose ?_
    rw [hrest]
    exact List.mem_cons_of_mem _ hhash
  · obtain ⟨piece, hpiece⟩ := hc
    rcases List.append_eq_append_iff.1 (hpiece.rest.symm.trans hbump) with
      ⟨more', rfl, hmore⟩ | ⟨beyond, rfl, hover⟩
    · exact .inl ⟨more', hmore, by simp⟩
    · cases beyond with
      | nil => exact .inl ⟨[], hover.symm, Nat.zero_le _⟩
      | cons y beyond =>
        -- the leaf goes on behind the place where the feature begins
        refine .inr ⟨item, c, rfl, hitem, ?_⟩
        have hfront := h.offset_front hpattern hrest
        have hstop := hpiece.offset
        rw [(Cursor.passes_bump hx).offset, byteLength_append] at hstop
        have hpos := Char.utf8Size_pos x
        have hposy := Char.utf8Size_pos y
        simp only [byteLength] at hfront hstop
        rw [Ast.Hides, hspan]
        constructor
        · change s.cursor.pos.offset < _
          omega
        · change _ < c.pos.offset
          omega

theorem mem_leaves {ast item : Ast} {marks : List Mark} (hitem : Mark.leaf item ∈ marks)
    (hmarks : marks <+: ast.marks) : item ∈ ast.leaves :=
  List.mem_filterMap.2 ⟨_, hmarks.subset hitem, rfl⟩

theorem run_hides (h : ∃ before text, s.Reads plain pattern before text)
    (hany : ∃ before text, s.Reads False pattern before text) {fuel : Nat}
    (hfuel : s.cursor.rest.length < fuel) {ast : Ast} (hast : run fuel s = .ok ast)
    (hkeeps : plain → ast.KeepsSpace) (hcomments : plain ∨ '#' ∉ pattern)
    (hpattern : pattern = front ++ feature) (hspelled : Spelled feature)
    (hrest : s.cursor.rest = more ++ feature) : ∃ leaf ∈ ast.leaves, leaf.Hides front := by
  induction fuel generalizing s more with
  | zero => exact absurd hfuel (Nat.not_lt_zero _)
  | succ fuel ih =>
    obtain ⟨before, text, h⟩ := h
    obtain ⟨text', hskip⟩ := h.skip
    obtain ⟨before₀, text₀, hany⟩ := hany
    obtain ⟨text₀', hskipAny⟩ := hany.skip
    have hspace := Cursor.skims_skipSpace s.verbose s.cursor
    obtain ⟨more', hrest', hlength⟩ :=
      hspace.before_feature hrest hspelled (h.comments hcomments)
    simp only [run] at hast
    split at hast
    · rename_i hx
      obtain ⟨x, xs, rfl, -⟩ := hspelled.opener
      have hend := List.head?_eq_none_iff.1 hx
      rw [hend] at hrest'
      exact absurd hrest'.symm (by simp)
    · rename_i x hx
      obtain ⟨s', hs, hast'⟩ := bind_eq_ok.1 hast
      -- a step begins at no feature; it stops before the feature or reads the leaf that hides it
      have hstep := step_cases hx hs
      have hany' := step_reads hskipAny hx hstep False.elim
      have hkeeps' : plain → s'.KeepsSpace := fun hp => run_keepsSpace hany' hast' (hkeeps hp)
      have hreads' := step_reads hskip hx hstep hkeeps'
      cases more' with
      | nil =>
        rw [List.nil_append] at hrest'
        exact absurd hs (step_feature (hrest' ▸ hspelled) hx)
      | cons y more' =>
        obtain rfl : y = x := by
          rw [Cursor.char?, hrest'] at hx
          exact Option.some.inj hx
        rcases Stepped.before_feature hskip hx hstep hcomments hpattern hspelled hrest' with
          ⟨more'', hrest'', hlength'⟩ | ⟨item, c, rfl, hitem, hhides⟩
        · refine ih hreads' hany' ?_ hast' hrest''
          rw [hrest] at hfuel
          rw [hrest'']
          simp only [List.length_append, List.length_cons] at hfuel hlength ⊢
          omega
        · refine ⟨item, mem_leaves ?_ (run_marks hany' hast'), hhides⟩
          rw [ParseState.marks_push, hitem.marks]
          exact List.mem_append_right _ List.mem_cons_self

end Parser

/-- In a pattern without comments that is well formed for the linear engine every feature begins
inside of a leaf. -/
theorem parse_hides {pattern front feature : List Char} {ast : Ast}
    (hparse : parse pattern = .ok ast) (hcomments : ast.KeepsSpace ∨ '#' ∉ pattern)
    (hpattern : pattern = front ++ feature) (hspelled : Spelled feature) :
    ∃ leaf ∈ ast.leaves, leaf.Hides front :=
  Parser.run_hides ⟨_, _, ParseState.reads_initial _ pattern⟩
    ⟨_, _, ParseState.reads_initial _ pattern⟩ (Nat.lt_succ_self _) (parse_eq_ok hparse) id
    hcomments hpattern hspelled hpattern

def Ast.HidesFeature (ast : Ast) (pattern : List Char) : Prop :=
  ∃ leaf ∈ ast.leaves, ∃ front feature, pattern = front ++ feature ∧ Spelled feature ∧
    leaf.Hides front

theorem needsBacktracking_iff_hidesFeature {pattern : List Char} {ast : Ast}
    (hparse : parse pattern = .ok ast) (hcomments : ast.KeepsSpace ∨ '#' ∉ pattern) :
    (Features.ofPattern pattern).needsBacktracking = true ↔ ast.HidesFeature pattern := by
  rw [Features.needsBacktracking_iff]
  constructor
  · rintro ⟨front, feature, hpattern, hspelled⟩
    obtain ⟨leaf, hleaf, hhides⟩ := parse_hides hparse hcomments hpattern hspelled
    exact ⟨leaf, hleaf, front, feature, hpattern, hspelled, hhides⟩
  · rintro ⟨leaf, -, front, feature, hpattern, hspelled, -⟩
    exact ⟨front, feature, hpattern, hspelled⟩

end Pattern

namespace Compiled

/-- Whether some pattern gets the linear engine if that takes it, and else the other one if that
does. -/
structure PrefersLinear (pattern : String) : Prop where
  accepts : (∃ c, ofPattern none pattern = .ok c) ↔
    (∃ re, Linear.Regex.compile pattern.toList = .ok re) ∨
      ∃ re, Backtracking.Regex.compile pattern.toList = .ok re
  linear : ∀ re, Linear.Regex.compile pattern.toList = .ok re →
    ∃ c, ofPattern none pattern = .ok c ∧ c.engine = .linear

variable {pattern : String}

theorem select_eq_linear_iff {pattern : List Char} :
    Engine.select pattern = .linear ↔ (Features.ofPattern pattern).needsBacktracking = false := by
  rw [Engine.select, Bool.eq_false_iff]
  split
  · rename_i hneeds
    exact iff_of_false (by simp) (not_not.2 hneeds)
  · rename_i hneeds
    exact ⟨fun _ => hneeds, fun _ => rfl⟩

theorem ofPattern_of_select_linear (hselect : Engine.select pattern.toList = .linear) :
    PrefersLinear pattern := by
  have haccepts {re : Linear.Regex} (hre : Linear.Regex.compile pattern.toList = .ok re) :
      ofPattern none pattern = .ok (.linear re) := by
    simp only [ofPattern, automatic, hselect, withEngine, hre]
  refine ⟨⟨?_, ?_⟩, fun re hre => ⟨_, haccepts hre, rfl⟩⟩
  · rintro ⟨c, hc⟩
    have hre := ofPattern_eq_ok hc
    cases c with
    | linear re => exact .inl ⟨re, hre⟩
    | backtracking re => exact .inr ⟨re, hre⟩
  · rintro (⟨re, hre⟩ | ⟨re, hre⟩)
    · exact ⟨_, haccepts hre⟩
    · cases hlinear : Linear.Regex.compile pattern.toList with
      | ok re' => exact ⟨_, haccepts hlinear⟩
      | error r =>
        refine ⟨.backtracking re, ?_⟩
        simp only [ofPattern, automatic, hselect, withEngine, hlinear, hre]

theorem ofPattern_of_select_backtracking (hselect : Engine.select pattern.toList = .backtracking)
    (c : Compiled) : ofPattern none pattern = .ok c ↔
      ∃ re, Backtracking.Regex.compile pattern.toList = .ok re ∧ c = .backtracking re := by
  simp only [ofPattern, automatic, hselect, withEngine]
  cases hre : Backtracking.Regex.compile pattern.toList with
  | ok re =>
    constructor
    · intro h
      cases h
      exact ⟨re, rfl, rfl⟩
    · rintro ⟨re', ⟨⟩, rfl⟩
      rfl
  | error r => simp

/-- The choice is as it should be unless the linear engine takes a pattern that shows a feature. In
a pattern without comments a feature shows where it begins inside of a leaf, and only there, if the
pattern is well formed for the linear engine. -/
theorem ofPattern_prefers_linear (pattern : String) :
    (PrefersLinear pattern ↔
      ((∃ re, Linear.Regex.compile pattern.toList = .ok re) →
        Engine.select pattern.toList = .linear)) ∧
    ((∃ c, ofPattern none pattern = .ok c) ↔
      (∃ re, Backtracking.Regex.compile pattern.toList = .ok re) ∨
        Engine.select pattern.toList = .linear ∧
          ∃ re, Linear.Regex.compile pattern.toList = .ok re) ∧
    ∀ ast, Pattern.parse pattern.toList = .ok ast →
      (ast.KeepsSpace ∨ '#' ∉ pattern.toList) →
        (Engine.select pattern.toList = .linear ↔ ¬ast.HidesFeature pattern.toList) := by
  refine ⟨⟨?_, fun h => ?_⟩, ?_, fun ast hparse hcomments => ?_⟩
  · rintro hprefers ⟨re, hre⟩
    obtain ⟨c, hc, hlinear⟩ := hprefers.linear re hre
    cases hselect : Engine.select pattern.toList with
    | linear => rfl
    | backtracking =>
      obtain ⟨re', -, rfl⟩ := (ofPattern_of_select_backtracking hselect c).1 hc
      cases hlinear
  · cases hselect : Engine.select pattern.toList with
    | linear => exact ofPattern_of_select_linear hselect
    | backtracking =>
      have hrefuses : ¬∃ re, Linear.Regex.compile pattern.toList = .ok re := by
        intro hre
        rw [h hre] at hselect
        cases hselect
      refine ⟨?_, fun re hre => absurd ⟨re, hre⟩ hrefuses⟩
      rw [or_iff_right hrefuses]
      simp only [ofPattern_of_select_backtracking hselect]
      exact ⟨fun ⟨_, re, hre, _⟩ => ⟨re, hre⟩, fun ⟨re, hre⟩ => ⟨_, re, hre, rfl⟩⟩
  · cases hselect : Engine.select pattern.toList with
    | linear =>
      rw [(ofPattern_of_select_linear hselect).accepts, or_comm]
      exact or_congr_right (and_iff_right rfl).symm
    | backtracking =>
      simp only [ofPattern_of_select_backtracking hselect, reduceCtorEq, false_and, or_false]
      exact ⟨fun ⟨_, re, hre, _⟩ => ⟨re, hre⟩, fun ⟨re, hre⟩ => ⟨_, re, hre, rfl⟩⟩
  · rw [select_eq_linear_iff, Bool.eq_false_iff, Ne,
      Pattern.needsBacktracking_iff_hidesFeature hparse hcomments]

theorem ofPattern_prefers_linear_class :
    (∃ ast, Pattern.parse "[(?]".toList = .ok ast ∧ '#' ∉ "[(?]".toList ∧
      ¬ast.HidesFeature "[(?]".toList ∧ PrefersLinear "[(?]") ∧
    (∃ ast, Pattern.parse "[(?=]".toList = .ok ast ∧ '#' ∉ "[(?=]".toList ∧
      ast.HidesFeature "[(?=]".toList ∧ ¬PrefersLinear "[(?=]") := by
  have hselect : Engine.select "[(?]".toList = .linear := by decide
  have hmisled : Engine.select "[(?=]".toList ≠ .linear := by decide
  have hcomments : '#' ∉ "[(?]".toList := by decide
  have hcomments' : '#' ∉ "[(?=]".toList := by decide
  have hok : (Pattern.parse "[(?]".toList).isOk = true := by cbv
  have hok' : (Pattern.parse "[(?=]".toList).isOk = true := by cbv
  have hlinear : (Linear.Regex.compile "[(?=]".toList).isOk = true := by cbv
  obtain ⟨ast, hparse⟩ := isOk_iff.1 hok
  obtain ⟨ast', hparse'⟩ := isOk_iff.1 hok'
  obtain ⟨hprefers, -, hhides⟩ := ofPattern_prefers_linear "[(?]"
  obtain ⟨hprefers', -, hhides'⟩ := ofPattern_prefers_linear "[(?=]"
  refine ⟨⟨ast, hparse, hcomments, ?_, hprefers.2 fun _ => hselect⟩,
    ⟨ast', hparse', hcomments', ?_, fun h => hmisled (hprefers'.1 h (isOk_iff.1 hlinear))⟩⟩
  · exact (hhides ast hparse (.inr hcomments)).1 hselect
  · exact not_not.1 fun hno => hmisled ((hhides' ast' hparse' (.inr hcomments')).2 hno)

end Compiled

end RegexStudio
