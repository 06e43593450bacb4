import RegexStudio.Proofs.ListingOrder

/-! Which of several things shows in a result: that the engine is missing, before that the pattern
is broken, before that the mode is unknown, before what the mode has to say. What comes later, and
what a mode does not use, never shows through. -/

namespace RegexStudio

open Text (InOrder)

def Compiled.Orderly (c : Compiled) (subject : String) : Prop :=
  InOrder 0 ((c.listing (.ofString subject)).hits.map Hit.span) ∧
    (c.listing (.ofString subject)).ending ≠ .endless

namespace Compiled

variable {forced : Option Engine} {pattern subject template : String} {c : Compiled} {t : Template}

theorem orderly_of_linear (hengine : c.engine = .linear) (subject : String) :
    c.Orderly subject := by
  cases c with
  | linear re => exact ⟨Linear.Regex.hitsFrom_inOrder, nofun⟩
  | backtracking re => cases hengine

theorem orderly_of_keepsFront {re : Backtracking.Regex} {parsed : Backtracking.Parsed}
    (hc : ofPattern forced pattern = .ok (.backtracking re))
    (hparsed : Backtracking.parse pattern.toList = .ok parsed)
    (hfront : parsed.node.keepsFront true = true) (hown : parsed.leavesMatch = false)
    (subject : String) : (backtracking re).Orderly subject := by
  have hre := ofPattern_eq_ok hc
  have hforward := Backtracking.Regex.find_forward hre hparsed hfront hown (.ofString subject)
  obtain ⟨hending, hhits⟩ : (re.listing (.ofString subject)).ending ≠ .endless ∧
      Backtracking.Regex.Progressive 0 none (re.listing (.ofString subject)).hits :=
    Backtracking.Regex.listingFrom_progressive hre hforward (Nat.succ_pos _) (by omega) nofun
  exact ⟨hhits.inOrder, hending⟩

theorem replaced_of_orderly (hc : ofPattern forced pattern = .ok c)
    (ht : Template.compile template c.groupNames = .ok t) (h : c.Orderly subject) :
    (∃ text, Backend.replaced c subject template = .ok (.ok text)) ∨
      ∃ message, Backend.replaced c subject template = .ok (.error (.runtime message)) := by
  obtain ⟨horder, hending⟩ := h
  obtain ⟨text, -, hreplaced⟩ := Backend.replaced_of_inOrder (groupNames_apart hc)
    (listing_inside hc subject.toList) horder ht
  rw [hreplaced]
  cases hfound : (c.listing (.ofString subject)).ending with
  | complete => exact .inl ⟨text, rfl⟩
  | failed message => exact .inr ⟨message, rfl⟩
  | endless => exact absurd hfound hending

theorem replaced_of_not_orderly (hc : ofPattern forced pattern = .ok c)
    (ht : Template.compile template c.groupNames = .ok t) (h : ¬c.Orderly subject) :
    ∃ breakdown, Backend.replaced c subject template = .error breakdown := by
  have hinside := listing_inside hc subject.toList
  by_cases horder : InOrder 0 ((c.listing (.ofString subject)).hits.map Hit.span)
  · have hending : (c.listing (.ofString subject)).ending = .endless :=
      not_not.1 fun hending => h ⟨horder, hending⟩
    obtain ⟨text, -, hreplaced⟩ :=
      Backend.replaced_of_inOrder (groupNames_apart hc) hinside horder ht
    exact ⟨.endless, by rw [hreplaced, hending]⟩
  · refine ⟨.outOfRange, ?_⟩
    rw [Backend.replaced, ht]
    exact replaceFrom_of_not_inOrder (Nat.zero_le _) hinside horder _

end Compiled

def Evaluation.ofReplacement : Except ReplacementError String → Evaluation
  | .ok text => .replace text
  | .error e => .replacementError e

section

variable {b : Backend} {c : b.Compiled} {s : Inputs}

theorem evaluate_unavailable (h : s.engineAvailable = false) : evaluate b s = .ok .empty := by
  simp [evaluate, Pass.run, h, Except.map]

theorem evaluate_refused (havailable : s.engineAvailable = true) {e : PatternError}
    (h : b.compile s.pattern = .error e) : evaluate b s = .ok (.patternError e) := by
  simp [evaluate, Pass.run, havailable, h, Except.map]

theorem evaluate_compiled (havailable : s.engineAvailable = true)
    (h : b.compile s.pattern = .ok c) :
    evaluate b s =
      match s.mode with
      | none => .ok .empty
      | some .tree => .ok (.tree (b.outline c))
      | some .find => (b.findAll c s.subject).map fun found => .find found.ms
      | some .replace =>
        if s.replacement = "" then .ok (.replace s.subject)
        else (b.replaceAll c s.subject s.replacement).map .ofReplacement := by
  simp only [evaluate, Pass.run, havailable, h, Bool.not_true, Bool.false_eq_true, if_false]
  cases s.mode with
  | none => rfl
  | some mode =>
    cases mode with
    | tree => rfl
    | find =>
      simp only [Pass.ofMode]
      cases b.findAll c s.subject <;> rfl
    | replace =>
      simp only [Pass.ofMode, String.isEmpty_iff]
      by_cases hempty : s.replacement = ""
      · simp only [hempty, if_true]
        rfl
      · simp only [hempty, if_false]
        cases b.replaceAll c s.subject s.replacement with
        | error breakdown => rfl
        | ok result => cases result <;> rfl

end

namespace Backend

theorem compile_ofEngine (forced : Option Engine) (pattern : String) :
    (ofEngine forced).compile pattern = (Compiled.ofPattern forced pattern).map (⟨pattern, ·⟩) :=
  rfl

theorem compile_nothing (names : List (Option String)) : Template.compile "" names = .ok ⟨[]⟩ := by
  have hparse : Template.parse "" = .ok ⟨[]⟩ := by cbv
  rw [Template.compile, hparse]
  rfl

structure Settles (forced : Option Engine) (c : RegexStudio.Compiled) (s : Inputs) : Prop where
  noPatternError : ∀ e, evaluate (ofEngine forced) s ≠ .ok (.patternError e)
  unknownMode : s.mode = none → evaluate (ofEngine forced) s = .ok .empty
  untouched : s.mode = some .replace → s.replacement = "" →
    evaluate (ofEngine forced) s = .ok (.replace s.subject)
  accepted : s.mode = some .replace → ∀ t, Template.compile s.replacement c.groupNames = .ok t →
    c.Orderly s.subject → (∃ text, evaluate (ofEngine forced) s = .ok (.replace text)) ∨
      ∃ message, evaluate (ofEngine forced) s = .ok (.replacementError (.runtime message))
  broken : s.mode = some .replace → s.replacement ≠ "" →
    ∀ t, Template.compile s.replacement c.groupNames = .ok t → ¬c.Orderly s.subject →
      ∃ breakdown, evaluate (ofEngine forced) s = .error breakdown
  replacementError : ∀ e, evaluate (ofEngine forced) s = .ok (.replacementError e) →
    s.mode = some .replace ∧ s.replacement ≠ "" ∧
      (Template.compile s.replacement c.groupNames = .error e ∨ ∃ message, e = .runtime message)

variable {forced : Option Engine} {c : RegexStudio.Compiled} {s s' : Inputs}

theorem evaluate_ofEngine (havailable : s.engineAvailable = true)
    (hc : Compiled.ofPattern forced s.pattern = .ok c) :
    evaluate (ofEngine forced) s =
      match s.mode with
      | none => .ok .empty
      | some .tree => .ok (.tree (.ofPattern s.pattern c.engine))
      | some .find => (matchList c s.subject).map fun found => .find found.ms
      | some .replace =>
        if s.replacement = "" then .ok (.replace s.subject)
        else (replaced c s.subject s.replacement).map .ofReplacement :=
  evaluate_compiled (b := ofEngine forced) (c := ⟨s.pattern, c⟩) havailable
    (by rw [compile_ofEngine, hc]; rfl)

theorem evaluate_pattern_refused (havailable : s.engineAvailable = true) {e : PatternError}
    (he : Compiled.ofPattern forced s.pattern = .error e) :
    evaluate (ofEngine forced) s = .ok (.patternError e) :=
  evaluate_refused havailable (by rw [compile_ofEngine, he]; rfl)

theorem evaluate_replace (havailable : s.engineAvailable = true)
    (hc : Compiled.ofPattern forced s.pattern = .ok c) (hmode : s.mode = some .replace) :
    evaluate (ofEngine forced) s =
      if s.replacement = "" then .ok (.replace s.subject)
      else (replaced c s.subject s.replacement).map .ofReplacement := by
  rw [evaluate_ofEngine havailable hc, hmode]

theorem evaluate_template_refused (havailable : s.engineAvailable = true)
    (hc : Compiled.ofPattern forced s.pattern = .ok c) (hmode : s.mode = some .replace)
    {e : ReplacementError} (he : Template.compile s.replacement c.groupNames = .error e) :
    evaluate (ofEngine forced) s = .ok (.replacementError e) := by
  have hne : s.replacement ≠ "" := by
    intro hempty
    rw [hempty, compile_nothing] at he
    cases he
  rw [evaluate_replace havailable hc hmode, if_neg hne, replaced, he]
  rfl

theorem settles (havailable : s.engineAvailable = true)
    (hc : Compiled.ofPattern forced s.pattern = .ok c) : Settles forced c s where
  noPatternError e h := by
    rw [evaluate_ofEngine havailable hc] at h
    split at h
    · cases h
    · cases h
    · obtain ⟨_, -, h⟩ := map_eq_ok.1 h
      cases h
    · split at h
      · cases h
      · obtain ⟨result, -, h⟩ := map_eq_ok.1 h
        cases result <;> cases h
  unknownMode hmode := by rw [evaluate_ofEngine havailable hc, hmode]
  untouched hmode hempty := by rw [evaluate_replace havailable hc hmode, if_pos hempty]
  accepted hmode t ht horderly := by
    rw [evaluate_replace havailable hc hmode]
    split
    · exact .inl ⟨s.subject, rfl⟩
    · rcases Compiled.replaced_of_orderly hc ht horderly with ⟨text, h⟩ | ⟨message, h⟩
      · exact .inl ⟨text, by rw [h]; rfl⟩
      · exact .inr ⟨message, by rw [h]; rfl⟩
  broken hmode hne t ht horderly := by
    obtain ⟨breakdown, h⟩ := Compiled.replaced_of_not_orderly hc ht horderly
    exact ⟨breakdown, by rw [evaluate_replace havailable hc hmode, if_neg hne, h]; rfl⟩
  replacementError e h := by
    have hmode : s.mode = some .replace := by
      rw [evaluate_ofEngine havailable hc] at h
      split at h
      · cases h
      · cases h
      · obtain ⟨_, -, h⟩ := map_eq_ok.1 h
        cases h
      · assumption
    rw [evaluate_replace havailable hc hmode] at h
    split at h
    · cases h
    rename_i hne
    refine ⟨hmode, hne, ?_⟩
    obtain ⟨result, hresult, h⟩ := map_eq_ok.1 h
    cases ht : Template.compile s.replacement c.groupNames with
    | error e' =>
      rw [replaced, ht] at hresult
      cases hresult
      cases h
      exact .inl rfl
    | ok t =>
      -- with an accepted template it is the engine that gives up
      refine .inr ?_
      by_cases horderly : c.Orderly s.subject
      · rcases Compiled.replaced_of_orderly hc ht horderly with ⟨text, hok⟩ | ⟨message, hok⟩
        · rw [hok] at hresult
          cases hresult
          cases h
        · rw [hok] at hresult
          cases hresult
          cases h
          exact ⟨message, rfl⟩
      · obtain ⟨breakdown, herror⟩ := Compiled.replaced_of_not_orderly hc ht horderly
        rw [herror] at hresult
        cases hresult

/-- What the evaluation of a compiled pattern does not get past: matches without end, and where they
are to be replaced also matches that do not stand one behind another. -/
inductive Breaks (c : RegexStudio.Compiled) (s : Inputs) : Prop
  | find : s.mode = some .find → (c.listing (.ofString s.subject)).ending = .endless → Breaks c s
  | replace {t : Template} : s.mode = some .replace → s.replacement ≠ "" →
      Template.compile s.replacement c.groupNames = .ok t → ¬c.Orderly s.subject → Breaks c s

theorem Breaks.not_orderly (h : Breaks c s) : ¬c.Orderly s.subject := by
  cases h with
  | find _ hending => exact fun horderly => horderly.2 hending
  | replace _ _ _ hnot => exact hnot

theorem Breaks.pattern (h : Breaks c s) (hc : Compiled.ofPattern forced s.pattern = .ok c) :
    c.engine = .backtracking ∧ ∀ parsed, Backtracking.parse s.pattern.toList = .ok parsed →
      parsed.node.keepsFront true = true → parsed.leavesMatch = true := by
  have hnot := h.not_orderly
  cases c with
  | linear re => exact absurd (Compiled.orderly_of_linear rfl s.subject) hnot
  | backtracking re =>
    refine ⟨rfl, fun parsed hparsed hfront => ?_⟩
    by_contra hleaves
    have hown : parsed.leavesMatch = false := Bool.eq_false_iff.2 hleaves
    exact hnot (Compiled.orderly_of_keepsFront hc hparsed hfront hown s.subject)

theorem matchList_eq_error_iff {subject : String} : (∃ e, matchList c subject = .error e) ↔
    (c.listing (.ofString subject)).ending = .endless := by
  unfold matchList
  dsimp only
  constructor
  · rintro ⟨e, he⟩
    split at he
    · cases he
    · cases he
    · assumption
  · intro hending
    rw [hending]
    exact ⟨_, rfl⟩

theorem replaced_eq_error_iff {pattern subject template : String}
    (hc : Compiled.ofPattern forced pattern = .ok c) :
    (∃ e, replaced c subject template = .error e) ↔
      (∃ t, Template.compile template c.groupNames = .ok t) ∧ ¬c.Orderly subject := by
  cases ht : Template.compile template c.groupNames with
  | error refusal =>
    rw [replaced, ht]
    refine iff_of_false ?_ ?_
    · rintro ⟨e, he⟩
      cases he
    · rintro ⟨⟨t, ht'⟩, -⟩
      cases ht'
  | ok t =>
    rw [and_iff_right ⟨t, rfl⟩]
    constructor
    · rintro ⟨e, he⟩ horderly
      rcases Compiled.replaced_of_orderly hc ht horderly with ⟨text, h⟩ | ⟨message, h⟩
      · cases he.symm.trans h
      · cases he.symm.trans h
    · exact Compiled.replaced_of_not_orderly hc ht

/-- With a compiled pattern these are the only reasons. -/
theorem evaluate_eq_error_iff (havailable : s.engineAvailable = true)
    (hc : Compiled.ofPattern forced s.pattern = .ok c) :
    (∃ e, evaluate (ofEngine forced) s = .error e) ↔ Breaks c s := by
  rw [evaluate_ofEngine havailable hc]
  constructor
  · rintro ⟨e, he⟩
    split at he
    · cases he
    · cases he
    · exact .find ‹_› (matchList_eq_error_iff.1 ⟨e, map_eq_error.1 he⟩)
    · split at he
      · cases he
      · obtain ⟨⟨t, ht⟩, hnot⟩ := (replaced_eq_error_iff hc).1 ⟨e, map_eq_error.1 he⟩
        exact .replace ‹_› ‹_› ht hnot
  · rintro (⟨hmode, hending⟩ | ⟨hmode, hne, ht, hnot⟩)
    · obtain ⟨e, he⟩ := matchList_eq_error_iff.2 hending
      exact ⟨e, by rw [hmode, he]; rfl⟩
    · obtain ⟨e, he⟩ := (replaced_eq_error_iff hc).2 ⟨⟨_, ht⟩, hnot⟩
      exact ⟨e, by rw [hmode, if_neg hne, he]; rfl⟩

/-- Of two snapshots with the same pattern both come to nothing if the engine is missing, and to
the same fault if the pattern is broken. Otherwise the tree does not depend on the subject and the
replacement, the matches not on the replacement, and a template is refused whatever the subject.
An accepted one is filled in unless the engine gives up, as long as the matches stand one behind
another and come to an end: always so with the linear engine, and with the other one for patterns
that do not use `\K` in a lookbehind and whose match the machine does not leave to the linear
engine. -/
theorem evaluate_precedence (havailable : s.engineAvailable = s'.engineAvailable)
    (hpattern : s.pattern = s'.pattern) :
    (s.engineAvailable = false →
      evaluate (ofEngine forced) s = .ok .empty ∧ evaluate (ofEngine forced) s' = .ok .empty) ∧
    (s.engineAvailable = true →
      (∀ e, Compiled.ofPattern forced s.pattern = .error e →
        evaluate (ofEngine forced) s = .ok (.patternError e) ∧
          evaluate (ofEngine forced) s' = .ok (.patternError e)) ∧
      ∀ c, Compiled.ofPattern forced s.pattern = .ok c →
        Settles forced c s ∧ Settles forced c s' ∧
        (s.mode = some .tree → s'.mode = some .tree →
          evaluate (ofEngine forced) s = evaluate (ofEngine forced) s') ∧
        (s.mode = some .find → s'.mode = some .find → s.subject = s'.subject →
          evaluate (ofEngine forced) s = evaluate (ofEngine forced) s') ∧
        (s.mode = some .replace → s'.mode = some .replace → s.replacement = s'.replacement →
          ∀ e, Template.compile s.replacement c.groupNames = .error e →
            evaluate (ofEngine forced) s = .ok (.replacementError e) ∧
              evaluate (ofEngine forced) s' = .ok (.replacementError e)) ∧
        (c.engine = .linear → ∀ subject, c.Orderly subject) ∧
        ∀ re parsed, c = .backtracking re → Backtracking.parse s.pattern.toList = .ok parsed →
          parsed.node.keepsFront true = true → parsed.leavesMatch = false →
          ∀ subject, c.Orderly subject) := by
  refine ⟨fun hmissing => ?_, fun hpresent => ⟨fun e he => ?_, fun c hc => ?_⟩⟩
  · exact ⟨evaluate_unavailable hmissing, evaluate_unavailable (havailable ▸ hmissing)⟩
  · have hrefused : ∀ t : Inputs, t.pattern = s.pattern →
        (ofEngine forced).compile t.pattern = .error e := fun t ht => by
      rw [compile_ofEngine, ht, he]
      rfl
    exact ⟨evaluate_refused hpresent (hrefused s rfl),
      evaluate_refused (havailable ▸ hpresent) (hrefused s' hpattern.symm)⟩
  · have hpresent' := havailable ▸ hpresent
    have hc' := hpattern ▸ hc
    refine ⟨settles hpresent hc, settles hpresent' hc', fun hmode hmode' => ?_,
      fun hmode hmode' hsubject => ?_, fun hmode hmode' hreplacement e he => ?_,
      Compiled.orderly_of_linear, fun re parsed hre => ?_⟩
    · simp only [evaluate_ofEngine hpresent hc, evaluate_ofEngine hpresent' hc', hmode, hmode',
        hpattern]
    · simp only [evaluate_ofEngine hpresent hc, evaluate_ofEngine hpresent' hc', hmode, hmode',
        hsubject]
    · exact ⟨evaluate_template_refused hpresent hc hmode he,
        evaluate_template_refused hpresent' hc' hmode' (hreplacement ▸ he)⟩
    · subst hre
      exact Compiled.orderly_of_keepsFront hc

theorem evaluate_precedence_refused :
    let s : Inputs :=
      { pattern := "(a)", replacement := "<$2>", subject := "banana", mode := some .replace }
    let s' : Inputs := { s with subject := "", engineLoadError := some "late" }
    s.engineAvailable = s'.engineAvailable ∧ s.pattern = s'.pattern ∧
      evaluate (ofEngine none) s = .ok (.replacementError (.groupOutOfRange 2 1)) ∧
      evaluate (ofEngine none) s' = .ok (.replacementError (.groupOutOfRange 2 1)) := by
  intro s s'
  have hcompiled : (Compiled.ofPattern none "(a)").map (·.groupNames) =
      .ok [none, none] := by cbv
  obtain ⟨c, hc, hnames⟩ := map_eq_ok.1 hcompiled
  have he : Template.compile "<$2>" c.groupNames = .error (.groupOutOfRange 2 1) := by
    rw [hnames]
    cbv
  obtain ⟨-, h⟩ := @evaluate_precedence none s s' rfl rfl
  exact ⟨rfl, rfl, ((h rfl).2 c hc).2.2.2.2.1 rfl rfl rfl _ he⟩

end Backend

end RegexStudio
