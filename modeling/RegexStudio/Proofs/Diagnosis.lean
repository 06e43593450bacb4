import RegexStudio.Compiled
import RegexStudio.Proofs.FaultPlaces
import RegexStudio.Proofs.OutlineSpans

/-! What is said of a pattern that no engine was made of. The words are those of the forced engine,
or of the one that the pattern seems to call for; with those of the linear engine comes the place
of the fault if the pattern is not well formed, and that is a place in the pattern. -/

namespace RegexStudio

open Text (byteLength)

namespace Pattern

variable {plain : Prop} {pattern before text : List Char} {s s' : ParseState} {ast : Ast}

theorem ParseState.Reads.within (h : s.Reads plain pattern before text) :
    s.cursor.Within pattern := ⟨before ++ text, h.pattern, h.offset⟩

theorem framed_within {frames : List Frame} (h : Framed plain frames before)
    (hbefore : before <+: pattern) {outer : Sequence} {span : Span} {kind : GroupKind}
    {verbose : Bool} (hmem : .group outer span kind verbose ∈ frames) :
    span.start.Within pattern := by
  induction frames generalizing before with
  | nil => cases hmem
  | cons frame rest ih =>
    cases frame with
    | alternation start branches =>
      obtain ⟨-, first, row, rfl, -, -, hrest⟩ := h
      have hrest' := (List.mem_cons.1 hmem).resolve_left fun heq => nomatch heq
      exact ih hrest ((List.prefix_append first row).trans hbefore) hrest'
    | group outer' span' kind' verbose' =>
      obtain ⟨first, row, lead, rfl, -, hspan, -, hrest⟩ := h
      rw [List.append_assoc] at hbefore
      rcases List.mem_cons.1 hmem with heq | hrest'
      · cases heq
        obtain ⟨after, rfl⟩ := hbefore
        exact ⟨first ++ row, '(' :: lead ++ after, by simp, hspan⟩
      · exact ih hrest ((List.prefix_append first _).trans hbefore) hrest'

namespace Parser

theorem finish_settles (h : s.Reads plain pattern before text) :
    Settles pattern (fun _ => True) (finish s) := by
  have hbefore : before <+: pattern :=
    ⟨text ++ s.cursor.rest, by rw [h.pattern, List.append_assoc]⟩
  simp only [finish]
  split
  · rename_i hframes
    split
    · exact framed_within (hframes ▸ h.frames) hbefore (List.mem_cons_of_mem _ List.mem_cons_self)
    · trivial
  · split
    · rename_i hframes
      exact framed_within (hframes ▸ h.frames) hbefore List.mem_cons_self
    · trivial

theorem run_settles (h : ∃ before text, s.Reads False pattern before text) (fuel : Nat) :
    Settles pattern (fun _ => True) (run fuel s) := by
  induction fuel generalizing s with
  | zero =>
    obtain ⟨before, text, h⟩ := h
    exact finish_settles h
  | succ fuel ih =>
    obtain ⟨before, text, h⟩ := h
    obtain ⟨text', hskip⟩ := h.skip
    simp only [run]
    split
    · exact finish_settles hskip
    · rename_i x hx
      have hstep : Settles pattern (fun s' => ∃ before text, s'.Reads False pattern before text)
          (step { s with cursor := s.cursor.skipSpace s.verbose } x) :=
        (step_settles hskip.within).mono fun s' hs _ =>
          step_reads hskip hx (step_cases hx hs) False.elim
      exact hstep.bind fun s' hs' => ih hs'

end Parser

def ClassesWithin (pattern : List Char) (marks : List Mark) : Prop :=
  ∀ leaf, .leaf leaf ∈ marks → leaf.ClassWithin pattern

theorem ClassesWithin.concat {marks : List Mark} (h : ClassesWithin pattern marks) {mark : Mark}
    (hmark : ∀ leaf, mark = .leaf leaf → leaf.ClassWithin pattern) :
    ClassesWithin pattern (marks ++ [mark]) := by
  intro leaf hleaf
  rcases List.mem_append.1 hleaf with hleaf | hleaf
  · exact h leaf hleaf
  · exact hmark leaf (List.mem_singleton.1 hleaf).symm

namespace Parser

theorem pushGroup_opens (hs : pushGroup s = .ok s') :
    ∃ mark, s'.marks = s.marks ++ [mark] ∧
      ∀ leaf, mark = .leaf leaf → ∃ span entries, leaf = .flags span entries := by
  obtain ⟨⟨opening, names, c⟩, -, hs⟩ := bind_eq_ok.1 hs
  cases opening with
  | flags span entries =>
    cases hs
    refine ⟨_, s.marks_push (.flags span entries) c, ?_⟩
    rintro leaf ⟨⟩
    exact ⟨span, entries, rfl⟩
  | group span kind =>
    cases hs
    exact ⟨_, s.marks_open span kind c.pos, fun leaf hleaf => nomatch hleaf⟩

theorem Stepped.classes (hc : s.cursor.Within pattern) (h : ClassesWithin pattern s.marks)
    (hs : Stepped s s') : ClassesWithin pattern s'.marks := by
  cases hs with
  | opens hx hs =>
    obtain ⟨mark, hmarks, hmark⟩ := pushGroup_opens hs
    rw [hmarks]
    refine h.concat fun leaf hleaf => ?_
    obtain ⟨span, entries, rfl⟩ := hmark leaf hleaf
    trivial
  | closes hx hs => exact (popGroup_marks hs).1 ▸ h
  | bar hx hs => exact hs ▸ (pushAlternate_marks s).symm ▸ h
  | leaf item c hs hreach hspan hitem hread =>
    rw [hs, ParseState.marks_push, hitem.marks]
    refine h.concat ?_
    rintro leaf ⟨⟩
    rcases hread with hread | ⟨p, rfl⟩
    · exact (Bracket.read_settles hc).result hread
    · cases p <;> trivial
  | repeats item rest hs => exact repeats_marks hs ▸ h

theorem run_classes (h : ∃ before text, s.Reads False pattern before text)
    (hclasses : ClassesWithin pattern s.marks) {fuel : Nat} (hast : run fuel s = .ok ast) :
    ClassesWithin pattern ast.marks := by
  induction fuel generalizing s with
  | zero => exact finish_marks h hast ▸ hclasses
  | succ fuel ih =>
    obtain ⟨before, text, h⟩ := h
    obtain ⟨text', hskip⟩ := h.skip
    simp only [run] at hast
    split at hast
    · exact finish_marks ⟨_, _, hskip⟩ hast ▸ hclasses
    · rename_i x hx
      obtain ⟨s', hs, hast⟩ := bind_eq_ok.1 hast
      have hstep := step_cases hx hs
      exact ih (step_reads hskip hx hstep False.elim) (hstep.classes hskip.within hclasses) hast

end Parser

mutual

theorem Ast.tooDeep?_within (ast : Ast) (h : ast.StandsIn plain pattern)
    (hclasses : ClassesWithin pattern ast.marks) {depth : Nat} {span : Span}
    (hdeep : ast.tooDeep? depth = some span) : span.start.Within pattern := by
  have hstart : ast.span.start.Within pattern := by
    obtain ⟨before, text, after, hpattern, hstart, -⟩ := h
    exact ⟨before, text ++ after, by rw [hpattern, List.append_assoc], hstart⟩
  have hparts := h.parts
  match ast with
  | .bracket _ _ body =>
    rcases tooDeep_cases hdeep with rfl | hdeep
    · exact hstart
    · have hbody : body.Within pattern := hclasses _ (List.mem_singleton_self _)
      exact ClassNode.tooDeep?_within body hbody hdeep
  | .repetition _ _ _ sub =>
    rcases tooDeep_cases hdeep with rfl | hdeep
    · exact hstart
    · exact Ast.tooDeep?_within sub (hparts sub (List.mem_singleton_self sub)) hclasses hdeep
  | .group _ _ sub =>
    rcases tooDeep_cases hdeep with rfl | hdeep
    · exact hstart
    · exact Ast.tooDeep?_within sub (hparts sub (List.mem_singleton_self sub))
        (fun leaf hleaf => hclasses leaf (List.mem_cons_of_mem _ hleaf)) hdeep
  | .alternation _ items | .concat _ items =>
    rcases tooDeep_cases hdeep with rfl | hdeep
    · exact hstart
    · exact Ast.anyTooDeep?_within items hparts hclasses hdeep
  | .empty _ | .flags .. | .literal _ | .dot _ | .assertion .. | .property .. | .perl .. =>
    cases hdeep

theorem Ast.anyTooDeep?_within (items : List Ast) (h : ∀ item ∈ items, item.StandsIn plain pattern)
    (hclasses : ClassesWithin pattern (Ast.allMarks items)) {depth : Nat} {span : Span}
    (hdeep : Ast.anyTooDeep? depth items = some span) : span.start.Within pattern := by
  match items with
  | [] => cases hdeep
  | item :: rest =>
    obtain ⟨hitem, hrest⟩ := List.forall_mem_cons.1 h
    rcases Option.or_eq_some_iff.1 hdeep with hdeep | ⟨-, hdeep⟩
    · exact Ast.tooDeep?_within item hitem
        (fun leaf hleaf => hclasses leaf (List.mem_append_left _ hleaf)) hdeep
    · exact Ast.anyTooDeep?_within rest hrest
        (fun leaf hleaf => hclasses leaf (List.mem_append_right _ hleaf)) hdeep

end

/-- A pattern that is not well formed is at fault at a place in it. -/
theorem parse_settles (pattern : List Char) : Settles pattern (fun _ => True) (parse pattern) := by
  have hinitial : ∃ before text, (ParseState.initial pattern).Reads False pattern before text :=
    ⟨_, _, ParseState.reads_initial _ pattern⟩
  have hrun : Settles pattern
      (fun ast => ast.StandsIn False pattern ∧ ClassesWithin pattern ast.marks)
      (Parser.run (pattern.length + 1) (.initial pattern)) := by
    refine (Parser.run_settles hinitial (pattern.length + 1)).mono fun ast hast _ => ?_
    have hholds : Holds False ast.span (ast.Covers False) (byteLength []) pattern :=
      Parser.run_covers hinitial hinitial (Nat.lt_succ_self _) hast False.elim
    exact ⟨hholds.standsIn (List.append_nil _).symm,
      Parser.run_classes hinitial (fun _ h => nomatch h) hast⟩
  refine hrun.bind fun ast ⟨hstands, hclasses⟩ => ?_
  split
  · rename_i span hdeep
    exact Ast.tooDeep?_within ast hstands hclasses hdeep
  · trivial

end Pattern

namespace PatternError

structure Splits (e : PatternError) : Prop where
  header : '\n' ∉ e.header.toList
  several : '\n' ∈ e.message.toList → e.message = e.header ++ "\n" ++ e.detail
  single : '\n' ∉ e.message.toList → e.message = e.header ∧ e.detail = ""

theorem toList_header (e : PatternError) :
    e.header.toList = e.message.toList.takeWhile (· != '\n') := String.toList_ofList

theorem toList_detail (e : PatternError) :
    e.detail.toList = (e.message.toList.dropWhile (· != '\n')).drop 1 := String.toList_ofList

theorem splits (e : PatternError) : e.Splits := by
  have hjoined : e.header.toList ++ e.message.toList.dropWhile (· != '\n') = e.message.toList := by
    rw [toList_header]
    exact List.takeWhile_append_dropWhile
  refine ⟨fun hmem => ?_, fun hmem => ?_, fun hmem => ?_⟩
  · rw [toList_header] at hmem
    exact absurd (List.mem_takeWhile_imp hmem) (by decide)
  · -- what comes behind the header begins with the line feed
    cases hdrop : e.message.toList.dropWhile (· != '\n') with
    | nil => exact absurd (List.dropWhile_eq_nil_iff.1 hdrop _ hmem) (by decide)
    | cons x rest =>
      have hne : e.message.toList.dropWhile (· != '\n') ≠ [] := hdrop ▸ List.cons_ne_nil x rest
      have hhead := List.head_dropWhile_not (· != '\n') hne
      simp only [hdrop, List.head_cons, bne_eq_false_iff_eq] at hhead
      subst hhead
      rw [hdrop] at hjoined
      rw [← String.toList_inj, String.toList_append, String.toList_append, toList_detail, hdrop,
        ← hjoined]
      exact (List.append_assoc _ ['\n'] rest).symm
  · have hdrop : e.message.toList.dropWhile (· != '\n') = [] :=
      List.dropWhile_eq_nil_iff.2 fun x hx => bne_iff_ne.2 fun heq => hmem (heq ▸ hx)
    rw [hdrop, List.append_nil] at hjoined
    refine ⟨String.toList_inj.1 hjoined.symm, String.toList_inj.1 ?_⟩
    rw [toList_detail, hdrop]
    rfl

structure FromLinear (e : PatternError) (pattern : List Char) : Prop where
  message : ∃ r, Linear.Regex.compile pattern = .error r ∧ e.message = r.message pattern
  position : ∀ n, e.position = some n ↔
    ∃ fault, Pattern.parse pattern = .error fault ∧ fault.span.start.offset = n
  place : ∀ n ∈ e.position, n ≤ byteLength pattern ∧
    ∃ before after, pattern = before ++ after ∧ n = byteLength before

structure FromBacktracking (e : PatternError) (pattern : List Char) : Prop where
  message : ∃ r, Backtracking.Regex.compile pattern = .error r ∧ e.message = r.message
  position : e.position = none

/-- Whose words an error has: those of the forced engine, else those of the linear engine unless a
feature of the other one shows. -/
inductive Explains (e : PatternError) (pattern : List Char) : Option Engine → Prop
  | linear (h : e.FromLinear pattern) : Explains e pattern (some .linear)
  | backtracking (h : e.FromBacktracking pattern) : Explains e pattern (some .backtracking)
  | plain (hfeatures : (Features.ofPattern pattern).needsBacktracking = false)
    (h : e.FromLinear pattern) (hboth : ∃ r, Backtracking.Regex.compile pattern = .error r) :
    Explains e pattern none
  | featured (hfeatures : (Features.ofPattern pattern).needsBacktracking = true)
    (h : e.FromBacktracking pattern) : Explains e pattern none

end PatternError

theorem Linear.Regex.malformed_iff {pattern : List Char} {r : Refusal}
    (h : compile pattern = .error r) (fault : Pattern.Fault) :
    r = .malformed fault ↔ Pattern.parse pattern = .error fault := by
  simp only [compile, read, bind_eq_error, mapError_eq_error, mapError_eq_ok, reduceCtorEq,
    and_false, exists_false, or_false] at h
  rcases h with ⟨fault', hparse, rfl⟩ | ⟨ast, hparse, h⟩
  · rw [hparse, Refusal.malformed.injEq, Except.error.injEq]
  · rw [hparse]
    refine iff_of_false ?_ fun heq => nomatch heq
    rintro rfl
    rcases h with ⟨fault', -, h⟩ | ⟨e, -, h⟩
    · cases h
    · split at h
      · cases h
      · cases h

namespace Compiled

variable {pattern : List Char} {e : PatternError}

theorem withEngine_linear (h : withEngine .linear pattern = .error e) :
    e.FromLinear pattern := by
  simp only [withEngine] at h
  split at h
  · cases h
  · rename_i r hr
    obtain rfl := Except.error.inj h
    have hposition (n : Nat) : r.position? = some n ↔
        ∃ fault, Pattern.parse pattern = .error fault ∧ fault.span.start.offset = n := by
      simp only [← Linear.Regex.malformed_iff hr]
      cases r <;> simp [Linear.Refusal.position?]
    refine ⟨⟨r, hr, rfl⟩, hposition, fun n hn => ?_⟩
    obtain ⟨fault, hfault, rfl⟩ := (hposition n).1 hn
    have hwithin := (Pattern.parse_settles pattern).fault hfault
    exact ⟨hwithin.le, hwithin⟩

theorem withEngine_backtracking (h : withEngine .backtracking pattern = .error e) :
    e.FromBacktracking pattern := by
  simp only [withEngine] at h
  split at h
  · cases h
  · rename_i r hr
    obtain rfl := Except.error.inj h
    exact ⟨⟨r, hr, rfl⟩, rfl⟩

theorem automatic_explains (h : automatic pattern = .error e) : e.Explains pattern none := by
  simp only [automatic, Engine.select] at h
  cases hfeatures : (Features.ofPattern pattern).needsBacktracking with
  | true =>
    rw [hfeatures] at h
    exact .featured hfeatures (withEngine_backtracking h)
  | false =>
    simp only [hfeatures, Bool.false_eq_true, if_false] at h
    split at h
    · cases h
    · rename_i hlinear
      split at h
      · cases h
      · rename_i hboth
        cases h
        obtain ⟨r, hr, -⟩ := (withEngine_backtracking hboth).message
        exact .plain hfeatures (withEngine_linear hlinear) ⟨r, hr⟩

/-- A pattern that is refused comes with the words of the engine that it was meant for. -/
theorem ofPattern_explains {forced : Option Engine} {pattern : String} {e : PatternError}
    (h : ofPattern forced pattern = .error e) : e.Explains pattern.toList forced ∧ e.Splits := by
  refine ⟨?_, e.splits⟩
  cases forced with
  | none => exact automatic_explains h
  | some engine =>
    cases engine with
    | linear => exact .linear (withEngine_linear h)
    | backtracking => exact .backtracking (withEngine_backtracking h)

theorem ofPattern_explains_unclosed :
    ∃ e, ofPattern none "é\n(" = .error e ∧ e.position = some 3 ∧ e.Explains "é\n(".toList none ∧
      e.Splits := by
  have hparse : Pattern.parse "é\n(".toList =
      .error ⟨.groupUnclosed, ⟨⟨3, 2, 1⟩, ⟨4, 2, 2⟩⟩, none⟩ := by cbv
  have hselect : Engine.select "é\n(".toList = .linear := by decide
  have hlinear : (Linear.Regex.compile "é\n(".toList).isOk = false := by cbv
  have hbacktracking : (Backtracking.Regex.compile "é\n(".toList).isOk = false := by cbv
  obtain ⟨r, hr⟩ := isOk_eq_false_iff.1 hlinear
  obtain ⟨r', hr'⟩ := isOk_eq_false_iff.1 hbacktracking
  have hresult : ofPattern none "é\n(" = .error (.ofLinear "é\n(".toList r) := by
    simp only [ofPattern, automatic, hselect, withEngine, hr, hr']
  obtain ⟨hexplains, hsplits⟩ := ofPattern_explains hresult
  refine ⟨_, hresult, ?_, hexplains, hsplits⟩
  obtain rfl := (Linear.Regex.malformed_iff hr _).2 hparse
  rfl

end Compiled

end RegexStudio
