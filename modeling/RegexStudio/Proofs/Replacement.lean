import Mathlib
import RegexStudio.Evaluation
import RegexStudio.Proofs.GroupNames
import RegexStudio.Proofs.MachineBounds

/-! Replacing against listing: the text after a replacement, made from the listed matches alone. A
reference is looked up among the captures that are shown, by number or by name, and the text between
two matches is cut by their byte offsets. -/

namespace RegexStudio

open Text (Haystack InOrder)

def Match.refText (m : Match) : GroupRef → Option String
  | .index 0 => some m.text
  | .index (n + 1) => (m.captures.find? (·.group == n + 1)).map (·.text)
  | .name s => (m.captures.find? (·.name == some s)).map (·.text)

def Match.span (m : Match) : Nat × Nat := (m.start, m.stop)

/-- The subject from a byte on, with each match of a list replaced; nothing where a match begins
before the one before it has ended. -/
def Template.spliced (t : Template) (subject : List Char) : Nat → List Match → Option String
  | last, [] => (Text.slice subject last (Text.byteLength subject)).map String.ofList
  | last, m :: ms => do
    let before ← Text.slice subject last m.start
    let after ← t.spliced subject m.stop ms
    some (String.ofList before ++ t.expand m.refText ++ after)

namespace Hit

variable {h : Haystack} {names : List (Option String)} {groups : List (Option (Nat × Nat))}
  {index : Nat}

theorem mem_capturesFrom {capture : Capture} (hc : capture ∈ capturesFrom h names index groups) :
    index ≤ capture.group ∧ capture.name = (names[capture.group]?).join := by
  induction groups generalizing index with
  | nil => cases hc
  | cons group rest ih =>
    cases group with
    | none =>
      obtain ⟨hle, hname⟩ := ih hc
      exact ⟨Nat.le_of_succ_le hle, hname⟩
    | some span =>
      rcases List.mem_cons.1 hc with rfl | hc
      · exact ⟨Nat.le_refl _, rfl⟩
      · obtain ⟨hle, hname⟩ := ih hc
        exact ⟨Nat.le_of_succ_le hle, hname⟩

theorem find?_capturesFrom (k : Nat) :
    ((capturesFrom h names index groups).find? (·.group == index + k)).map (·.text) =
      ((groups[k]?).join).map fun span => h.slice span.1 span.2 := by
  induction groups generalizing index k with
  | nil => rfl
  | cons group rest ih =>
    cases k with
    | zero =>
      cases group with
      | none =>
        have hnone : (capturesFrom h names (index + 1) rest).find? (·.group == index) = none := by
          refine List.find?_eq_none.2 fun capture hc heq => ?_
          have hle := (mem_capturesFrom hc).1
          rw [beq_iff_eq] at heq
          omega
        exact congrArg (Option.map _) hnone
      | some span => simp [capturesFrom]
    | succ k =>
      have hrest := @ih (index + 1) k
      rw [Nat.add_right_comm, Nat.add_assoc] at hrest
      cases group with
      | none => exact hrest
      | some span =>
        have hne : (index == index + (k + 1)) = false := beq_false_of_ne (by omega)
        rw [capturesFrom, List.find?_cons, hne]
        exact hrest

theorem refText_index (hit : Hit) (n : Nat) :
    (hit.toMatch h names).refText (.index n) =
      (hit.group? n).map fun span => h.slice span.1 span.2 := by
  cases n with
  | zero => rfl
  | succ n =>
    have hfind := @find?_capturesFrom h names hit.groups 1 n
    rw [Nat.add_comm 1 n] at hfind
    exact hfind

theorem refText_name (hnames : NamesApart names) (hit : Hit) {s : String} {n : Nat}
    (hn : names[n]? = some (some s)) :
    (hit.toMatch h names).refText (.name s) = (hit.toMatch h names).refText (.index n) := by
  cases n with
  | zero => exact absurd hn (hnames.whole s)
  | succ n =>
    -- the name and the number pick the same captures, so also the same first one
    have hsame : ∀ capture ∈ (hit.toMatch h names).captures,
        (capture.name == some s) = (capture.group == n + 1) := by
      intro capture hc
      have hname := (mem_capturesFrom hc).2
      rw [Bool.eq_iff_iff, beq_iff_eq, beq_iff_eq, hname, Option.join_eq_some_iff]
      exact ⟨fun hs => hnames.apart _ _ s hs hn, fun hgroup => hgroup ▸ hn⟩
    simp only [Match.refText]
    rw [← List.head?_filter, List.filter_congr hsame, List.head?_filter]

theorem groupText_eq (c : Compiled) (hit : Hit) (r : GroupRef) :
    c.groupText h hit r =
      (c.groupOf? r).bind fun n => (hit.group? n).map fun span => h.slice span.1 span.2 := by
  unfold Compiled.groupText
  cases c.groupOf? r with
  | none => rfl
  | some n => cases hspan : hit.group? n <;> simp [hspan]

theorem refText_toMatch {c : Compiled} (hnames : NamesApart c.groupNames) (hit : Hit)
    (r : GroupRef) : (hit.toMatch h c.groupNames).refText r = c.groupText h hit r := by
  rw [groupText_eq]
  cases r with
  | index n => exact refText_index hit n
  | name s =>
    change _ = (c.groupNames.findIdx? (· == some s)).bind _
    cases hindex : c.groupNames.findIdx? (· == some s) with
    | none =>
      have hnone := List.findIdx?_eq_none_iff.1 hindex
      refine congrArg (Option.map _) (List.find?_eq_none.2 fun capture hc heq => ?_)
      have hname := (mem_capturesFrom hc).2
      rw [beq_iff_eq.1 heq, eq_comm, Option.join_eq_some_iff] at hname
      have hs := hnone _ (List.mem_of_getElem? hname)
      rw [beq_self_eq_true] at hs
      cases hs
    | some n =>
      obtain ⟨hlt, hget, -⟩ := List.findIdx?_eq_some_iff_getElem.1 hindex
      have hn : c.groupNames[n]? = some (some s) := by
        rw [List.getElem?_eq_getElem hlt, beq_iff_eq.1 hget]
      rw [refText_name hnames hit hn]
      exact refText_index hit n

theorem inOrder_toMatch {cs : List Char} (names : List (Option String)) {last : Nat}
    {hits : List Hit} (hlast : last ≤ cs.length)
    (hhits : ∀ hit ∈ hits, hit.start ≤ cs.length ∧ hit.stop ≤ cs.length) :
    InOrder ((Haystack.ofChars cs).offset last)
        ((hits.map (·.toMatch (.ofChars cs) names)).map Match.span) ↔
      InOrder last (hits.map span) := by
  have hspans : ∀ s ∈ hits.map span, s.1 ≤ cs.length ∧ s.2 ≤ cs.length := by
    intro s hs
    obtain ⟨hit, hhit, rfl⟩ := List.mem_map.1 hs
    exact hhits hit hhit
  have hiff := Text.inOrder_offset hlast hspans
  rwa [List.map_map] at hiff ⊢

end Hit

namespace Compiled

variable {c : Compiled} {cs : List Char} {last : Nat} {hits : List Hit}

theorem cut_of_le {i j : Nat} (hij : i ≤ j) (hj : j ≤ cs.length) :
    cut (.ofChars cs) i j = .ok ((Haystack.ofChars cs).slice i j) := by
  have hlegal : (decide (i ≤ j) && decide (j ≤ (Haystack.ofChars cs).size)) = true := by
    rw [Haystack.size_ofChars, Bool.and_eq_true, decide_eq_true_eq, decide_eq_true_eq]
    exact ⟨hij, hj⟩
  rw [cut, Haystack.slice?, if_pos hlegal]

theorem cut_of_not_le {i j : Nat} (hij : ¬i ≤ j) :
    cut (.ofChars cs) i j = .error .outOfRange := by
  have hillegal : (decide (i ≤ j) && decide (j ≤ (Haystack.ofChars cs).size)) = false := by
    rw [decide_eq_false hij, Bool.false_and]
  rw [cut, Haystack.slice?, hillegal]
  rfl

theorem replaceFrom_of_inOrder (c : Compiled) (t : Template) (hnames : NamesApart c.groupNames)
    (hlast : last ≤ cs.length)
    (hhits : ∀ hit ∈ hits, hit.start ≤ cs.length ∧ hit.stop ≤ cs.length)
    (horder : InOrder last (hits.map Hit.span)) :
    ∃ text,
      t.spliced cs ((Haystack.ofChars cs).offset last)
          (hits.map (·.toMatch (.ofChars cs) c.groupNames)) = some text ∧
      ∀ ending, c.replaceFrom (.ofChars cs) t ending last hits =
        match ending with
        | .complete => .ok (.ok text)
        | .failed message => .ok (.error (.runtime message))
        | .endless => .error .endless := by
  induction hits generalizing last with
  | nil =>
    have hslice := Haystack.slice_offset hlast (Nat.le_refl _)
    rw [Haystack.offset_size] at hslice
    refine ⟨(Haystack.ofChars cs).slice last cs.length, ?_, fun ending => ?_⟩
    · simp only [List.map_nil, Template.spliced, hslice, Option.map_some, String.ofList_toList]
    · cases ending with
      | complete =>
        have hcut := cut_of_le hlast (Nat.le_refl _)
        simp only [replaceFrom, Haystack.size_ofChars, hcut]
        rfl
      | failed message | endless => rfl
  | cons hit rest ih =>
    -- up to the first match, whose own text is what the expansion makes of it, and from its end on
    have hle : last ≤ hit.start := horder.1
    obtain ⟨hhit, hrest⟩ := List.forall_mem_cons.1 hhits
    obtain ⟨after, hafter, hreplaced⟩ := ih hhit.2 hrest horder.2
    have hslice := Haystack.slice_offset hle hhit.1
    have hlookup : (hit.toMatch (.ofChars cs) c.groupNames).refText =
        c.groupText (.ofChars cs) hit := funext (Hit.refText_toMatch hnames hit)
    refine ⟨(Haystack.ofChars cs).slice last hit.start ++
      t.expand (c.groupText (.ofChars cs) hit) ++ after, ?_, fun ending => ?_⟩
    · simp only [List.map_cons, Template.spliced, hlookup]
      change (do
        let before ← Text.slice cs ((Haystack.ofChars cs).offset last)
          ((Haystack.ofChars cs).offset hit.start)
        let after ← t.spliced cs ((Haystack.ofChars cs).offset hit.stop) _
        some (String.ofList before ++ _ ++ after)) = _
      rw [hslice, hafter]
      simp only [Option.bind_eq_bind, Option.bind_some, String.ofList_toList]
    · rw [replaceFrom, cut_of_le hle hhit.1, hreplaced]
      cases ending <;> rfl

theorem replaceFrom_of_not_inOrder {t : Template} (hlast : last ≤ cs.length)
    (hhits : ∀ hit ∈ hits, hit.start ≤ cs.length ∧ hit.stop ≤ cs.length)
    (horder : ¬InOrder last (hits.map Hit.span)) (ending : Ending) :
    c.replaceFrom (.ofChars cs) t ending last hits = .error .outOfRange := by
  induction hits generalizing last with
  | nil => exact absurd trivial horder
  | cons hit rest ih =>
    obtain ⟨hhit, hrest⟩ := List.forall_mem_cons.1 hhits
    rw [replaceFrom]
    by_cases hle : last ≤ hit.start
    · have hafter := ih hhit.2 hrest fun h => horder ⟨hle, h⟩
      rw [cut_of_le hle hhit.1, hafter]
      rfl
    · rw [cut_of_not_le hle]
      rfl

theorem ofPattern_eq_ok {forced : Option Engine} {pattern : String}
    (h : ofPattern forced pattern = .ok c) :
    match c with
    | .linear re => Linear.Regex.compile pattern.toList = .ok re
    | .backtracking re => Backtracking.Regex.compile pattern.toList = .ok re := by
  have hengine : ∀ {engine cs}, withEngine engine cs = .ok c →
      match c with
      | .linear re => Linear.Regex.compile cs = .ok re
      | .backtracking re => Backtracking.Regex.compile cs = .ok re := by
    intro engine cs hc
    unfold withEngine at hc
    split at hc
    · split at hc
      · cases hc
        assumption
      · cases hc
    · split at hc
      · cases hc
        assumption
      · cases hc
  cases forced with
  | some engine => exact hengine h
  | none =>
    simp only [ofPattern, automatic] at h
    cases hselect : Engine.select pattern.toList with
    | backtracking =>
      rw [hselect] at h
      exact hengine h
    | linear =>
      rw [hselect] at h
      cases hlinear : withEngine .linear pattern.toList with
      | ok c' =>
        rw [hlinear] at h
        cases h
        exact hengine hlinear
      | error e =>
        cases hbacktracking : withEngine .backtracking pattern.toList with
        | ok c' =>
          rw [hlinear, hbacktracking] at h
          cases h
          exact hengine hbacktracking
        | error e' =>
          rw [hlinear, hbacktracking] at h
          cases h

theorem groupNames_apart {forced : Option Engine} {pattern : String}
    (h : ofPattern forced pattern = .ok c) : NamesApart c.groupNames := by
  have hre := ofPattern_eq_ok h
  cases c with
  | linear re => exact Linear.Regex.compile_apart hre
  | backtracking re => exact Backtracking.Regex.compile_apart hre

theorem listing_inside {forced : Option Engine} {pattern : String}
    (h : ofPattern forced pattern = .ok c) (cs : List Char) :
    ∀ hit ∈ (c.listing (.ofChars cs)).hits, hit.start ≤ cs.length ∧ hit.stop ≤ cs.length := by
  have hre := ofPattern_eq_ok h
  cases c with
  | linear re =>
    intro hit hhit
    obtain ⟨-, hle, hstop, -⟩ := Linear.Regex.hitsFrom_found hit hhit
    rw [Haystack.size_ofChars] at hstop
    exact ⟨Nat.le_trans hle hstop, hstop⟩
  | backtracking re =>
    intro hit hhit
    have hinside := Backtracking.Regex.listingFrom_inside hre hit hhit
    rwa [Haystack.size_ofChars] at hinside

end Compiled

namespace Backend

/-- Replacing agrees with listing as long as no match begins before the one before it has ended:
the text is then the one made from the list alone, and where the listing is given up after some
matches the replacement says why. A match that begins too early breaks the replacement, whatever
the listing comes to. The linear engine always lists its matches in order, and all of them. -/
theorem replaced_spliced {forced : Option Engine} {pattern : String} {c : RegexStudio.Compiled}
    (hc : Compiled.ofPattern forced pattern = .ok c) (subject : String) {template : String}
    {t : Template} (ht : Template.compile template c.groupNames = .ok t) :
    let found := c.listing (.ofString subject)
    let ms := found.hits.map (·.toMatch (.ofString subject) c.groupNames)
    let ordered := InOrder 0 (ms.map Match.span)
    (c.engine = .linear → found.ending = .complete ∧ ordered) ∧
    (¬ordered → replaced c subject template = .error .outOfRange) ∧
    match found.ending with
    | .complete => matchList c subject = .ok ⟨ms, none⟩ ∧
        (ordered → ∃ text, t.spliced subject.toList 0 ms = some text ∧
          replaced c subject template = .ok (.ok text))
    | .failed message => matchList c subject = .ok ⟨ms, some message⟩ ∧
        (ordered → replaced c subject template = .ok (.error (.runtime message)))
    | .endless => matchList c subject = .error .endless ∧
        (ordered → replaced c subject template = .error .endless) := by
  intro found ms ordered
  have hnames := Compiled.groupNames_apart hc
  have hinside := Compiled.listing_inside hc subject.toList
  have hordered : ordered ↔ InOrder 0 (found.hits.map Hit.span) := by
    have hiff := Hit.inOrder_toMatch c.groupNames (Nat.zero_le _) hinside
    rwa [Haystack.offset_zero] at hiff
  have hreplaced : replaced c subject template =
      c.replaceFrom (.ofString subject) t found.ending 0 found.hits := by
    rw [replaced, ht]
    rfl
  have hlist : matchList c subject =
      match found.ending with
      | .complete => .ok ⟨ms, none⟩
      | .failed message => .ok ⟨ms, some message⟩
      | .endless => .error .endless := rfl
  have hsplice : ordered → ∃ text, t.spliced subject.toList 0 ms = some text ∧
      ∀ ending, c.replaceFrom (.ofString subject) t ending 0 found.hits =
        match ending with
        | .complete => .ok (.ok text)
        | .failed message => .ok (.error (.runtime message))
        | .endless => .error .endless := by
    intro h
    have hsplice := c.replaceFrom_of_inOrder t hnames (Nat.zero_le _) hinside (hordered.1 h)
    rwa [Haystack.offset_zero] at hsplice
  -- the linear engine first, then the matches out of order, then each way in which a listing ends
  refine ⟨fun hengine => ?_, fun hnot => ?_, ?_⟩
  · cases c with
    | linear re => exact ⟨rfl, hordered.2 Linear.Regex.hitsFrom_inOrder⟩
    | backtracking re => cases hengine
  · rw [hreplaced]
    exact Compiled.replaceFrom_of_not_inOrder (Nat.zero_le _) hinside (mt hordered.2 hnot) _
  · rw [hreplaced, hlist]
    cases found.ending with
    | complete =>
      refine ⟨rfl, fun h => ?_⟩
      obtain ⟨text, htext, hall⟩ := hsplice h
      exact ⟨text, htext, hall .complete⟩
    | failed message =>
      refine ⟨rfl, fun h => ?_⟩
      obtain ⟨text, -, hall⟩ := hsplice h
      exact hall (.failed message)
    | endless =>
      refine ⟨rfl, fun h => ?_⟩
      obtain ⟨text, -, hall⟩ := hsplice h
      exact hall .endless

theorem replaced_spliced_overlapping :
    ∃ c t, Compiled.ofPattern none "(?<=\\K[ab])b" = .ok c ∧
      Template.compile "<$0>" c.groupNames = .ok t ∧
      matchList c "abb" = .ok ⟨[⟨"ab", 0, 2, []⟩, ⟨"bb", 1, 3, []⟩], none⟩ ∧
      replaced c "abb" "<$0>" = .error .outOfRange := by
  have hcompiled : (Compiled.ofPattern none "(?<=\\K[ab])b").map
      (fun c => (c.groupNames, c.listing (.ofString "abb"))) =
        .ok ([none], ⟨[⟨0, 2, []⟩, ⟨1, 3, []⟩], .complete⟩) := by cbv
  obtain ⟨c, hc, hfound⟩ := map_eq_ok.1 hcompiled
  obtain ⟨hnames, hlisting⟩ := Prod.mk.inj hfound
  have ht : Template.compile "<$0>" c.groupNames =
      .ok ⟨[.literal ['<'], .group (.index 0), .literal ['>']]⟩ := by
    rw [hnames]
    cbv
  have h := replaced_spliced hc "abb" ht
  rw [hlisting, hnames] at h
  refine ⟨c, _, hc, ht, ?_, ?_⟩
  · have hms := h.2.2.1
    rw [hms]
    cbv
  · exact h.2.1 (by decide)

end Backend

end RegexStudio
