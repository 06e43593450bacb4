import RegexStudio.Proofs.PatternNames

/-! What the readers of a pattern take from it: each one goes on in the text that it was given, by
as many bytes as it takes characters, and the part that it reads has the span of what it took.
Escapes and classes take any characters; the other readers take none that opens a group or escapes
what follows, except in comments. -/

namespace RegexStudio.Pattern

namespace Cursor

structure Passes (c : Cursor) (text : List Char) (c' : Cursor) : Prop where
  rest : c.rest = text ++ c'.rest
  offset : c'.pos.offset = c.pos.offset + Text.byteLength text

def Reaches (c c' : Cursor) : Prop := ∃ text, c.Passes text c'

variable {c c' c'' : Cursor} {x : Char} {text text' xs : List Char}

theorem Passes.trans (h : c.Passes text c') (h' : c'.Passes text' c'') :
    c.Passes (text ++ text') c'' := by
  refine ⟨?_, ?_⟩
  · rw [h.rest, h'.rest, List.append_assoc]
  · rw [h'.offset, h.offset, Text.byteLength_append, Nat.add_assoc]

theorem Reaches.refl (c : Cursor) : c.Reaches c := ⟨[], rfl, rfl⟩

theorem Reaches.trans (h : c.Reaches c') (h' : c'.Reaches c'') : c.Reaches c'' := by
  obtain ⟨text, h⟩ := h
  obtain ⟨text', h'⟩ := h'
  exact ⟨text ++ text', h.trans h'⟩

theorem offset_advance (p : Position) (x : Char) :
    (p.advance x).offset = p.offset + x.utf8Size := by
  unfold Position.advance
  split <;> rfl

theorem passes_cons (x : Char) (xs : List Char) (p : Position) :
    Passes ⟨x :: xs, p⟩ [x] ⟨xs, p.advance x⟩ := ⟨rfl, offset_advance p x⟩

theorem passes_bump (h : c.char? = some x) : c.Passes [x] c.bump := by
  obtain ⟨rest, pos⟩ := c
  cases rest with
  | nil => cases h
  | cons y ys =>
    obtain rfl : y = x := Option.some.inj h
    exact passes_cons y ys pos

theorem Reaches.passes_char (h : c.bump.Reaches c') (hx : c.char? = some x) :
    ∃ text, c.Passes (x :: text) c' := by
  obtain ⟨text, h⟩ := h
  exact ⟨text, (passes_bump hx).trans h⟩

theorem reaches_bump (c : Cursor) : c.Reaches c.bump := by
  obtain ⟨rest, pos⟩ := c
  cases rest with
  | nil => exact .refl _
  | cons x xs => exact ⟨[x], passes_cons x xs pos⟩

theorem reaches_bumpMany (n : Nat) (c : Cursor) : c.Reaches (bumpMany n c) := by
  induction n generalizing c with
  | zero => exact .refl c
  | succ n ih => exact (reaches_bump c).trans (ih c.bump)

theorem reaches_skipFrom (inComment : Bool) (xs : List Char) (p : Position) :
    Reaches ⟨xs, p⟩ (skipFrom inComment xs p) := by
  induction xs generalizing inComment p with
  | nil => exact .refl _
  | cons x xs ih =>
    have hstep (inComment : Bool) : Reaches ⟨x :: xs, p⟩ (skipFrom inComment xs (p.advance x)) :=
      Reaches.trans ⟨[x], passes_cons x xs p⟩ (ih inComment (p.advance x))
    unfold skipFrom
    split
    · exact hstep _
    · split
      · exact hstep _
      · split
        · exact hstep _
        · exact .refl _

theorem reaches_skipSpace (verbose : Bool) (c : Cursor) : c.Reaches (c.skipSpace verbose) := by
  cases verbose with
  | false => exact .refl c
  | true => exact reaches_skipFrom false c.rest c.pos

theorem bump_reaches_bumpSpace (verbose : Bool) (c : Cursor) :
    c.bump.Reaches (c.bumpSpace verbose) := reaches_skipSpace verbose c.bump

theorem reaches_bumpSpace (verbose : Bool) (c : Cursor) : c.Reaches (c.bumpSpace verbose) :=
  (reaches_bump c).trans (bump_reaches_bumpSpace verbose c)

def Quiet (verbose : Bool) (text : List Char) : Prop :=
  (∀ x ∈ text, x ≠ '(' ∧ x ≠ '\\') ∨ verbose = true ∧ '#' ∈ text

theorem not_opener {p : Char → Bool} (h : p x = true) (hp : p '(' = false ∧ p '\\' = false) :
    x ≠ '(' ∧ x ≠ '\\' := by
  constructor
  · rintro rfl
    exact absurd h (Bool.eq_false_iff.1 hp.1)
  · rintro rfl
    exact absurd h (Bool.eq_false_iff.1 hp.2)

def Skims (verbose : Bool) (c c' : Cursor) : Prop :=
  ∃ text, c.Passes text c' ∧ Quiet verbose text

variable {verbose : Bool}

theorem Quiet.append (h : Quiet verbose text) (h' : Quiet verbose text') :
    Quiet verbose (text ++ text') := by
  rcases h with h | ⟨hverbose, hhash⟩
  · rcases h' with h' | ⟨hverbose, hhash⟩
    · exact .inl fun x hx => (List.mem_append.1 hx).elim (h x) (h' x)
    · exact .inr ⟨hverbose, List.mem_append_right _ hhash⟩
  · exact .inr ⟨hverbose, List.mem_append_left _ hhash⟩

theorem Skims.reaches (h : c.Skims verbose c') : c.Reaches c' := by
  obtain ⟨text, hc, -⟩ := h
  exact ⟨text, hc⟩

theorem Skims.refl (verbose : Bool) (c : Cursor) : c.Skims verbose c :=
  ⟨[], ⟨rfl, rfl⟩, .inl fun _ h => nomatch h⟩

theorem Skims.trans (h : c.Skims verbose c') (h' : c'.Skims verbose c'') :
    c.Skims verbose c'' := by
  obtain ⟨text, hc, hquiet⟩ := h
  obtain ⟨text', hc', hquiet'⟩ := h'
  exact ⟨text ++ text', hc.trans hc', hquiet.append hquiet'⟩

theorem Skims.of_false (h : c.Skims false c') (verbose : Bool) : c.Skims verbose c' := by
  obtain ⟨text, hc, hquiet⟩ := h
  exact ⟨text, hc, .inl (hquiet.resolve_right fun h => nomatch h.1)⟩

theorem skims_cons {p : Position} (hx : x ≠ '(' ∧ x ≠ '\\') :
    Skims verbose ⟨x :: xs, p⟩ ⟨xs, p.advance x⟩ :=
  ⟨[x], passes_cons x xs p, .inl (List.forall_mem_singleton.2 hx)⟩

theorem skims_bump (h : ∀ x ∈ c.char?, x ≠ '(' ∧ x ≠ '\\') : c.Skims verbose c.bump := by
  obtain ⟨rest, pos⟩ := c
  cases rest with
  | nil => exact .refl _ _
  | cons x xs => exact skims_cons (h x rfl)

theorem skims_bumpMany {mark : List Char} (h : c.startsWith mark = true)
    (hmark : ∀ x ∈ mark, x ≠ '(' ∧ x ≠ '\\') : c.Skims verbose (c.bumpMany mark.length) := by
  induction mark generalizing c with
  | nil => exact .refl _ _
  | cons x mark ih =>
    obtain ⟨rest, pos⟩ := c
    obtain ⟨hx, hmark⟩ := List.forall_mem_cons.1 hmark
    cases rest with
    | nil => cases h
    | cons y ys =>
      obtain ⟨hxy, hmore⟩ := Bool.and_eq_true_iff.1 h
      obtain rfl := beq_iff_eq.1 hxy
      exact (skims_cons hx).trans (ih hmore hmark)

theorem skims_skipFrom (xs : List Char) (p : Position) :
    Skims true ⟨xs, p⟩ (skipFrom false xs p) := by
  induction xs generalizing p with
  | nil => exact .refl _ _
  | cons x xs ih =>
    rw [skipFrom, if_neg Bool.false_ne_true]
    split
    · rename_i hblank
      exact (skims_cons (not_opener hblank (by decide))).trans (ih _)
    split
    · rename_i hhash
      obtain rfl := beq_iff_eq.1 hhash
      obtain ⟨text, hc⟩ := reaches_skipFrom true xs (p.advance '#')
      exact ⟨'#' :: text, (passes_cons '#' xs p).trans hc, .inr ⟨rfl, List.mem_cons_self⟩⟩
    · exact .refl _ _

theorem skims_skipSpace (verbose : Bool) (c : Cursor) :
    c.Skims verbose (c.skipSpace verbose) := by
  cases verbose with
  | false => exact .refl _ c
  | true => exact skims_skipFrom c.rest c.pos

theorem bump_skims_bumpSpace (verbose : Bool) (c : Cursor) :
    c.bump.Skims verbose (c.bumpSpace verbose) := skims_skipSpace verbose c.bump

theorem skims_bumpSpace (h : ∀ x ∈ c.char?, x ≠ '(' ∧ x ≠ '\\') :
    c.Skims verbose (c.bumpSpace verbose) :=
  (skims_bump h).trans (bump_skims_bumpSpace verbose c)

theorem char?_of_cons (h : c.rest = x :: xs) {p : Char → Prop} (hx : p x) :
    ∀ y ∈ c.char?, p y := by
  rw [char?, h]
  rintro y ⟨⟩
  exact hx

end Cursor

open Cursor (Skims not_opener reaches_bump reaches_bumpMany reaches_bumpSpace reaches_skipSpace
  bump_reaches_bumpSpace skims_bump skims_bumpMany skims_bumpSpace bump_skims_bumpSpace
  char?_of_cons)

namespace Escape

variable {verbose : Bool} {c c' : Cursor}

theorem bracedDigits_reaches {digits digits' : List Char}
    (h : bracedDigits verbose c digits = .ok (digits', c')) : c.bump.Reaches c' := by
  fun_induction bracedDigits verbose c digits with
  | case1 c digits hrest =>
    cases h
    exact bump_reaches_bumpSpace verbose c
  | case2 c digits x xs hrest _ hx =>
    cases h
    exact bump_reaches_bumpSpace verbose c
  | case3 c digits x xs hrest _ hx hhex => cases h
  | case4 c digits x xs hrest _ hx hhex ih =>
    exact ((bump_reaches_bumpSpace verbose c).trans (reaches_bump _)).trans (ih h)

theorem braced_reaches {lit : Literal} (h : braced verbose c = .ok (lit, c')) :
    c.bump.Reaches c' ∧ lit.span.stop = c'.pos := by
  simp only [braced, bind_eq_ok, refuse_or_eq_ok] at h
  obtain ⟨⟨digits, c₁⟩, hdigits, -, -, h⟩ := h
  split at h
  · cases h
  · cases h
    exact ⟨(bracedDigits_reaches hdigits).trans (reaches_bumpSpace verbose c₁), rfl⟩

theorem fixedDigits_reaches {n : Nat} {digits digits' : List Char}
    (h : fixedDigits verbose n c digits = .ok (digits', c')) : c.Reaches c' := by
  induction n generalizing c digits with
  | zero =>
    cases h
    exact .refl _
  | succ n ih =>
    have hstep : c.Reaches (if digits.isEmpty then c else c.bumpSpace verbose) := by
      split
      · exact .refl c
      · exact reaches_bumpSpace verbose c
    simp only [fixedDigits] at h
    split at h
    · cases h
    · exact hstep.trans (ih (refuse_or_eq_ok.1 h).2)

theorem fixed_reaches {count : Nat} {lit : Literal} (h : fixed verbose count c = .ok (lit, c')) :
    c.Reaches c' ∧ lit.span.stop = c'.pos := by
  obtain ⟨⟨digits, c₁⟩, hdigits, h⟩ := bind_eq_ok.1 h
  dsimp only at h
  split at h
  · cases h
  · cases h
    exact ⟨(fixedDigits_reaches hdigits).trans (reaches_bumpSpace verbose c₁), rfl⟩

theorem hexadecimal_reaches {letter : Char} {lit : Literal}
    (h : hexadecimal verbose letter c = .ok (lit, c')) :
    c.bump.Reaches c' ∧ lit.span.stop = c'.pos := by
  have hstart := bump_reaches_bumpSpace verbose c
  unfold hexadecimal at h
  dsimp only at h
  split at h
  · cases h
  · obtain ⟨hreach, hstop⟩ := braced_reaches h
    exact ⟨(hstart.trans (reaches_bump _)).trans hreach, hstop⟩
  · obtain ⟨hreach, hstop⟩ := fixed_reaches h
    exact ⟨hstart.trans hreach, hstop⟩

theorem bracedName_reaches (verbose : Bool) (c : Cursor) (name : List Char) :
    c.bump.Reaches (bracedName verbose c name).2 := by
  fun_induction bracedName verbose c name with
  | case1 c name hrest => exact bump_reaches_bumpSpace verbose c
  | case2 c name x xs hrest _ hx => exact bump_reaches_bumpSpace verbose c
  | case3 c name x xs hrest _ hx ih =>
    exact ((bump_reaches_bumpSpace verbose c).trans (reaches_bump _)).trans ih

theorem property_reaches {start : Position} {letter : Char} {p : Primitive}
    (h : property verbose start letter c = .ok (p, c')) :
    c.bump.Reaches c' ∧ p.span = ⟨start, c'.pos⟩ := by
  have hstart := bump_reaches_bumpSpace verbose c
  unfold property at h
  dsimp only at h
  split at h
  · cases h
  · obtain ⟨-, h⟩ := refuse_or_eq_ok.1 h
    cases h
    have hname := bracedName_reaches verbose (c.bumpSpace verbose) []
    exact ⟨((hstart.trans (reaches_bump _)).trans hname).trans (reaches_bump _), rfl⟩
  · cases h
  · cases h
    exact ⟨hstart.trans (reaches_bumpSpace verbose _), rfl⟩

theorem boundaryName_reaches (verbose : Bool) (c : Cursor) (name : List Char) :
    c.Reaches (boundaryName verbose c name).2 := by
  fun_induction boundaryName verbose c name with
  | case1 c name hrest => exact .refl c
  | case2 c name x xs hrest _ hx ih => exact (reaches_bumpSpace verbose c).trans ih
  | case3 c name x xs hrest _ hx => exact .refl c

theorem specialBoundary_reaches {start : Position} {kind : AssertionKind}
    (h : specialBoundary verbose start c = .ok (some (kind, c'))) : c.Reaches c' := by
  unfold specialBoundary at h
  dsimp only at h
  split at h
  · cases h
  · split at h
    · cases h
    · obtain ⟨-, h⟩ := refuse_or_eq_ok.1 h
      split at h
      · cases h
      · cases h
        have hname := boundaryName_reaches verbose (c.bumpSpace verbose) []
        exact ((reaches_bumpSpace verbose c).trans hname).trans (reaches_bump _)

theorem read_reaches {p : Primitive} (h : read verbose c = .ok (p, c')) :
    c.bump.Reaches c' ∧ p.span = ⟨c.pos, c'.pos⟩ := by
  unfold read at h
  dsimp only at h
  split at h
  · cases h
  split at h
  · cases h
  split at h
  · obtain ⟨⟨lit, c₁⟩, hlit, h⟩ := bind_eq_ok.1 h
    cases h
    obtain ⟨hreach, hstop⟩ := hexadecimal_reaches hlit
    exact ⟨(reaches_bump _).trans hreach, congrArg (Span.mk c.pos) hstop⟩
  split at h
  · obtain ⟨hreach, hspan⟩ := property_reaches h
    exact ⟨(reaches_bump _).trans hreach, hspan⟩
  have htwo := reaches_bump c.bump
  split at h
  · cases h
    exact ⟨htwo, rfl⟩
  split at h
  · cases h
    exact ⟨htwo, rfl⟩
  split at h
  · cases h
    exact ⟨htwo, rfl⟩
  · cases h
    exact ⟨htwo, rfl⟩
  split at h
  · cases h
  split at h
  · cases h
    exact ⟨htwo, rfl⟩
  -- braces after a word boundary name a special one, or hold a count that is read later
  obtain ⟨found, hfound, h⟩ := bind_eq_ok.1 h
  cases found with
  | none =>
    cases h
    exact ⟨htwo, rfl⟩
  | some found =>
    cases h
    exact ⟨htwo.trans (specialBoundary_reaches hfound), rfl⟩

end Escape

namespace Bracket

variable {verbose : Bool} {c c' : Cursor} {s s' : ClassState} {start : Position}

theorem leadingHyphens_reaches {u u' : ClassUnion}
    (h : leadingHyphens verbose start c u = .ok (c', u')) : c.Reaches c' := by
  fun_induction leadingHyphens verbose start c u with
  | case1 c u hrest =>
    cases h
    exact .refl _
  | case2 c u x xs hrest _ hx next hend => cases h
  | case3 c u x xs hrest _ hx next hend ih => exact (reaches_bumpSpace verbose c).trans (ih h)
  | case4 c u x xs hrest _ hx =>
    cases h
    exact .refl _

theorem asciiClass?_reaches {node : ClassNode} (h : asciiClass? c = some (node, c')) :
    c.Reaches c' := by
  simp only [asciiClass?, Option.bind_eq_bind, Option.bind_eq_some_iff, Option.some.injEq,
    Prod.mk.injEq] at h
  obtain ⟨-, -, -, -, kind, -, -, rfl⟩ := h
  have hcaret : c.Reaches (if ((Cursor.bumpMany 2 c).char? == some '^') = true
      then (Cursor.bumpMany 2 c).bump else Cursor.bumpMany 2 c) := by
    split
    · exact (reaches_bumpMany 2 c).trans (reaches_bump _)
    · exact reaches_bumpMany 2 c
  exact (hcaret.trans (reaches_bumpMany _ _)).trans (reaches_bumpMany 2 _)

theorem item_reaches {p : Primitive} (h : item verbose c = .ok (p, c')) : c.Reaches c' := by
  unfold item at h
  split at h
  · exact (reaches_bump c).trans (Escape.read_reaches h).1
  · cases h
    exact reaches_bump c
  · cases h
    exact .refl _

theorem range_reaches {node : ClassNode} (h : range verbose s = .ok (node, c')) :
    s.cursor.Reaches c' := by
  obtain ⟨⟨first, c₁⟩, hfirst, h⟩ := bind_eq_ok.1 h
  have hskip := (item_reaches hfirst).trans (reaches_skipSpace verbose c₁)
  dsimp only at h
  split at h
  · cases h
  split at h
  · obtain ⟨node', -, h⟩ := bind_eq_ok.1 h
    cases h
    exact hskip
  split at h
  · cases h
  obtain ⟨⟨last, c₂⟩, hlast, h⟩ := bind_eq_ok.1 h
  simp only [bind_eq_ok, refuse_or_eq_ok] at h
  obtain ⟨lo, -, hi, -, -, h⟩ := h
  cases h
  exact (hskip.trans (reaches_bumpSpace verbose _)).trans (item_reaches hlast)

def Opened (start : Position) (stack : List ClassFrame) : Prop :=
  ∃ outer span negated, [.bracket outer span negated] <:+ stack ∧ span.start = start

theorem Opened.cons {stack : List ClassFrame} (h : Opened start stack) (frame : ClassFrame) :
    Opened start (frame :: stack) := by
  obtain ⟨outer, span, negated, hsuffix, hspan⟩ := h
  exact ⟨outer, span, negated, hsuffix.trans (List.suffix_cons frame stack), hspan⟩

theorem openBracket_reaches (h : openBracket verbose s = .ok s') :
    s.cursor.bump.Reaches s'.cursor ∧
      ∃ outer span negated, s'.stack = .bracket outer span negated :: s.stack ∧
        span.start = s.cursor.pos := by
  simp only [openBracket, bind_eq_ok, refuse_or_eq_ok] at h
  obtain ⟨-, -, ⟨c₁, inner⟩, hhyphens, h⟩ := h
  have hcaret : s.cursor.bump.Reaches
      (if ((s.cursor.bumpSpace verbose).char? == some '^') = true
        then (s.cursor.bumpSpace verbose).bumpSpace verbose else s.cursor.bumpSpace verbose) := by
    split
    · exact (bump_reaches_bumpSpace verbose _).trans (reaches_bumpSpace verbose _)
    · exact bump_reaches_bumpSpace verbose _
  have hinner := hcaret.trans (leadingHyphens_reaches hhyphens)
  split at h
  · obtain ⟨-, h⟩ := refuse_or_eq_ok.1 h
    cases h
    exact ⟨hinner.trans (reaches_bumpSpace verbose _), _, _, _, rfl, rfl⟩
  · cases h
    exact ⟨hinner, _, _, _, rfl, rfl⟩

theorem Opened.applyPending {stack : List ClassFrame} (h : Opened start stack)
    (rhs : ClassNode) : Opened start (Bracket.applyPending rhs stack).2 := by
  unfold Bracket.applyPending
  split
  · -- an operation waits inside of a bracket
    obtain ⟨outer, span, negated, hsuffix, hspan⟩ := h
    refine ⟨outer, span, negated, (List.suffix_cons_iff.1 hsuffix).resolve_left ?_, hspan⟩
    exact fun heq => nomatch heq
  · exact h

/-- What a step leaves is further on; if it is the finished class, that has the span from where its
bracket was opened. -/
def Leaves (start : Position) (c : Cursor) : Progress → Prop
  | .more s => c.Reaches s.cursor ∧ Opened start s.stack
  | .done _ span _ c' => c.Reaches c' ∧ span = ⟨start, c'.pos⟩

theorem closeBracket_leaves (hs : Opened start s.stack) {progress : Progress}
    (h : closeBracket s = .ok progress) : Leaves start s.cursor progress := by
  obtain ⟨outer, span, negated, hsuffix, hspan⟩ := hs.applyPending s.union.toNode
  simp only [closeBracket] at h
  split at h
  · rename_i rest heq
    rw [heq] at hsuffix
    split at h
    · -- the bracket that was opened first is closed last
      rename_i hempty
      cases h
      obtain rfl := List.isEmpty_iff.1 hempty
      rcases List.suffix_cons_iff.1 hsuffix with heq | hnil
      · cases heq
        exact ⟨reaches_bump _, congrArg (Span.mk · _) hspan⟩
      · cases List.suffix_nil.1 hnil
    · rename_i hfull
      cases h
      rcases List.suffix_cons_iff.1 hsuffix with heq | hrest
      · cases heq
        exact absurd rfl hfull
      · exact ⟨reaches_bump _, outer, span, negated, hrest, hspan⟩
  · cases h

theorem pushOperation_leaves (hs : Opened start s.stack) (op : SetOperation) :
    Leaves start s.cursor (.more (pushOperation op s)) :=
  ⟨reaches_bumpMany 2 _, (hs.applyPending s.union.toNode).cons _⟩

theorem step_leaves (hs : Opened start s.stack) {progress : Progress}
    (h : step verbose s = .ok progress) : Leaves start s.cursor progress := by
  let skipped : ClassState := { s with cursor := s.cursor.skipSpace verbose }
  have hskip : s.cursor.Reaches skipped.cursor := reaches_skipSpace verbose s.cursor
  have hs' : Opened start skipped.stack := hs
  have hleaves {c : Cursor} {progress : Progress} (hc : s.cursor.Reaches c)
      (h : Leaves start c progress) : Leaves start s.cursor progress := by
    cases progress with
    | more s => exact ⟨hc.trans h.1, h.2⟩
    | done => exact ⟨hc.trans h.1, h.2⟩
  unfold step at h
  dsimp only at h
  split at h
  · cases h
  · split at h
    · rename_i node c' hascii
      cases h
      split at hascii
      · cases hascii
      · exact ⟨hskip.trans (asciiClass?_reaches hascii), hs⟩
    · obtain ⟨s', hopen, h⟩ := map_eq_ok.1 h
      cases h
      obtain ⟨hreach, outer, span, negated, hstack, -⟩ := openBracket_reaches hopen
      exact ⟨hskip.trans ((reaches_bump _).trans hreach), hstack ▸ hs.cons _⟩
  · exact hleaves hskip (closeBracket_leaves hs' h)
  · split at h
    · cases h
      exact hleaves hskip (pushOperation_leaves hs' _)
    · obtain ⟨⟨node, c'⟩, hrange, h⟩ := bind_eq_ok.1 h
      cases h
      exact ⟨hskip.trans (range_reaches hrange), hs⟩

theorem run_reaches (hs : Opened start s.stack) {fuel : Nat} {ast : Ast}
    (h : run verbose fuel s = .ok (ast, c')) :
    s.cursor.Reaches c' ∧ ast.span = ⟨start, c'.pos⟩ := by
  induction fuel generalizing s with
  | zero => cases h
  | succ fuel ih =>
    obtain ⟨progress, hstep, h⟩ := bind_eq_ok.1 h
    have hleaves := step_leaves hs hstep
    cases progress with
    | more s' =>
      obtain ⟨hreach, hspan⟩ := ih hleaves.2 h
      exact ⟨hleaves.1.trans hreach, hspan⟩
    | done body span negated c =>
      cases h
      exact hleaves

theorem read_reaches {ast : Ast} (hc : c.char? = some '[') (h : read verbose c = .ok (ast, c')) :
    c.bump.Reaches c' ∧ ast.span = ⟨c.pos, c'.pos⟩ := by
  -- the first step opens the bracket; from there on it is on the stack
  have hskip : c.skipSpace verbose = c := by
    obtain ⟨rest, pos⟩ := c
    obtain ⟨xs, rfl⟩ := List.head?_eq_some_iff.1 hc
    cases verbose <;> rfl
  obtain ⟨progress, hstep, h⟩ := bind_eq_ok.1 h
  unfold step at hstep
  simp only [hskip, hc, List.isEmpty_nil, if_true] at hstep
  obtain ⟨s', hopen, hstep⟩ := map_eq_ok.1 hstep
  cases hstep
  obtain ⟨hreach, outer, span, negated, hstack, hspan⟩ := openBracket_reaches hopen
  have hopened : Opened c.pos s'.stack := by
    rw [hstack]
    exact ⟨outer, span, negated, List.suffix_refl _, hspan⟩
  obtain ⟨hrest, hast⟩ := run_reaches hopened h
  exact ⟨hreach.trans hrest, hast⟩

end Bracket

namespace Group

variable {verbose : Bool} {captures : Nat} {names names' : GroupNames} {c c' : Cursor}

theorem flags_skims {entries entries' : List FlagEntry}
    (h : flags c entries = .ok (entries', c')) :
    c.Skims verbose c' ∧ ∀ x ∈ c'.char?, x ≠ '(' ∧ x ≠ '\\' := by
  fun_induction flags c entries with
  | case1 entries p =>
    cases h
    exact ⟨.refl _ _, fun _ hx => nomatch hx⟩
  | case2 => cases h
  | case3 entries x xs p hx hdangling =>
    cases h
    refine ⟨.refl _ _, ?_⟩
    rintro y ⟨⟩
    exact @not_opener x (fun x => x == ':' || x == ')') hx (by decide)
  | case4 => cases h
  | case5 => cases h
  | case6 => cases h
  | case7 entries x xs p here hx read item hread hnone hfull ih =>
    obtain ⟨hskims, hstop⟩ := ih h
    have hflag : x ≠ '(' ∧ x ≠ '\\' := by
      constructor <;> rintro rfl <;> exact nomatch hread
    exact ⟨(Cursor.skims_cons hflag).trans hskims, hstop⟩

theorem nameChars_skims {start p : Position} {xs name name' : List Char}
    (h : nameChars start xs p name = .ok (name', c')) :
    Skims verbose ⟨xs, p⟩ c' ∧ ∀ x ∈ c'.char?, x ≠ '(' ∧ x ≠ '\\' := by
  induction xs generalizing p name with
  | nil =>
    cases h
    exact ⟨.refl _ _, fun _ hx => nomatch hx⟩
  | cons x xs ih =>
    rw [nameChars] at h
    split at h
    · rename_i hx
      cases h
      obtain rfl := beq_iff_eq.1 hx
      refine ⟨.refl _ _, ?_⟩
      rintro y ⟨⟩
      decide
    generalize hvalid : (if p == start then isNameStart x else isNameChar x) = valid at h
    split at h
    · rename_i htrue
      obtain ⟨hskims, hstop⟩ := ih h
      rw [htrue] at hvalid
      have hx : x ≠ '(' ∧ x ≠ '\\' := by
        split at hvalid
        · exact not_opener hvalid (by decide)
        · exact not_opener hvalid (by decide)
      exact ⟨(Cursor.skims_cons hx).trans hskims, hstop⟩
    · cases h

theorem name_skims {text : String} {span : Span} (h : name names c = .ok (text, span, c')) :
    c.Skims verbose c' := by
  simp only [name, bind_eq_ok, refuse_or_eq_ok] at h
  obtain ⟨-, ⟨chars, c₁⟩, hchars, -, -, h⟩ := h
  split at h
  · cases h
  · cases h
    obtain ⟨hskims, hstop⟩ := nameChars_skims hchars
    exact hskims.trans (skims_bump hstop)

def Opening.Begins (start : Position) (c' : Cursor) : Opening → Prop
  | .flags span _ => span = ⟨start, c'.pos⟩
  | .group span _ => span.start = start

theorem read_skims {opening : Opening}
    (h : read verbose captures names c = .ok (opening, names', c')) :
    c.bump.Skims verbose c' ∧ Opening.Begins c.pos c' opening := by
  have hstart := bump_skims_bumpSpace verbose c
  have hquestion {c : Cursor} (hc : c.char? = some '?') : c.Skims verbose c.bump := by
    refine skims_bump ?_
    rw [hc]
    rintro x ⟨⟩
    decide
  cases read_opens h with
  | named mark text span c' hmark hahead hlimit hname =>
    have hquiet : ∀ x ∈ mark, x ≠ '(' ∧ x ≠ '\\' := by
      rcases hmark with rfl | rfl <;> simp
    exact ⟨(hstart.trans (skims_bumpMany hahead hquiet)).trans (name_skims hname), rfl⟩
  | flags entries c' hmark hflags | plain entries c' hmark hflags =>
    obtain ⟨hskims, hstop⟩ := flags_skims hflags
    exact ⟨((hstart.trans (hquestion hmark)).trans hskims).trans (skims_bump hstop), rfl⟩
  | capture hlimit => exact ⟨hstart, rfl⟩

end Group

namespace Parser

theorem skipBlanks_skims (verbose : Bool) (c : Cursor) :
    c.Skims verbose (skipBlanks verbose c) := by
  fun_induction skipBlanks verbose c with
  | case1 c hrest => exact .refl _ c
  | case2 c x xs hrest _ hx ih =>
    exact (skims_bumpSpace (char?_of_cons hrest (not_opener hx (by decide)))).trans ih
  | case3 c x xs hrest _ hx => exact .refl _ c

theorem digitRun_skims (verbose : Bool) (c : Cursor) (digits : List Char) :
    c.Skims verbose (digitRun verbose c digits).2 := by
  fun_induction digitRun verbose c digits with
  | case1 c digits hrest => exact .refl _ c
  | case2 c digits x xs hrest _ hx ih =>
    exact (skims_bumpSpace (char?_of_cons hrest (not_opener hx (by decide)))).trans ih
  | case3 c digits x xs hrest _ hx => exact .refl _ c

theorem decimal_skims (verbose : Bool) (c : Cursor) : c.Skims verbose (decimal verbose c).2 := by
  have hskims := (((skipBlanks_skims false c).of_false verbose).trans
    (digitRun_skims verbose _ [])).trans (skipBlanks_skims verbose _)
  simp only [decimal]
  split
  · exact hskims
  split
  · exact hskims
  · exact hskims

theorem bumpSpace_of_char {verbose : Bool} {c : Cursor} {x : Char} (hc : c.char? = some x)
    (hx : x ≠ '(' ∧ x ≠ '\\') : c.Skims verbose (c.bumpSpace verbose) := by
  refine skims_bumpSpace ?_
  rw [hc]
  rintro y ⟨⟩
  exact hx

theorem laziness_skims (verbose : Bool) (c : Cursor) : c.Skims verbose (laziness c).2 := by
  unfold laziness
  split
  · rename_i hc
    refine skims_bump ?_
    rw [beq_iff_eq.1 hc]
    rintro x ⟨⟩
    decide
  · exact .refl _ c

structure Repeats (s s' : ParseState) (item : Ast) (rest : List Ast) : Prop where
  operand : operand s = .ok (item, rest)
  skims : s.cursor.bump.Skims s.verbose s'.cursor
  state : ∃ count greedy, s' = pushRepetition s item rest count greedy s'.cursor

theorem Repeats.items {s s' : ParseState} {item : Ast} {rest : List Ast}
    (h : Repeats s s' item rest) : s.sequence.items = item :: rest := operand_items h.operand

theorem simpleRepetition_repeats {s s' : ParseState} {count : Count}
    (h : simpleRepetition s count = .ok s') : ∃ item rest, Repeats s s' item rest := by
  obtain ⟨⟨item, rest⟩, hoperand, h⟩ := bind_eq_ok.1 h
  cases h
  exact ⟨item, rest, hoperand, laziness_skims _ _, count, _, rfl⟩

theorem countedRepetition_repeats {s s' : ParseState} (h : countedRepetition s = .ok s') :
    ∃ item rest, Repeats s s' item rest := by
  obtain ⟨⟨item, rest⟩, hoperand, h⟩ := bind_eq_ok.1 h
  simp only [bind_eq_ok, refuse_or_eq_ok] at h
  obtain ⟨-, -, ⟨count, c⟩, hcount, hbrace, -, h⟩ := h
  cases h
  refine ⟨item, rest, hoperand, ?_, count, _, rfl⟩
  have hlo := (bump_skims_bumpSpace s.verbose s.cursor).trans (decimal_skims s.verbose _)
  have hc : s.cursor.bump.Skims s.verbose c := by
    split at hcount
    · rename_i hcomma
      obtain ⟨-, hcount⟩ := refuse_or_eq_ok.1 hcount
      obtain ⟨lo, -, hcount⟩ := bind_eq_ok.1 hcount
      have hskims := hlo.trans (bumpSpace_of_char (beq_iff_eq.1 hcomma) (by decide))
      split at hcount
      · cases hcount
        exact hskims
      · obtain ⟨hi, -, hcount⟩ := bind_eq_ok.1 hcount
        cases hcount
        exact hskims.trans (decimal_skims s.verbose _)
    · obtain ⟨n, -, hcount⟩ := bind_eq_ok.1 hcount
      cases hcount
      exact hlo
  have hclose : c.char? = some '\x7d' := by simpa using hbrace
  exact (hc.trans (bumpSpace_of_char hclose (by decide))).trans (laziness_skims _ _)

theorem primitive_reaches {verbose : Bool} {x : Char} {c c' : Cursor} {p : Primitive}
    (h : primitive verbose x c = .ok (p, c')) : c.bump.Reaches c' ∧ p.span = ⟨c.pos, c'.pos⟩ := by
  unfold primitive at h
  split at h
  · exact Escape.read_reaches h
  all_goals
    cases h
    exact ⟨.refl _, rfl⟩

end Parser

end RegexStudio.Pattern
