import Mathlib
import RegexStudio.Proofs.LinearMatches
import RegexStudio.Proofs.MatchStart

/-! The listing of the backtracking engine. As long as no match begins before the place where the
search for it began, the listing comes to an end, its matches stand in order, and replacing them by
themselves gives the subject back. -/

namespace RegexStudio

open Text (Haystack InOrder)

namespace Backtracking

namespace Machine

variable {p : Program} {s : Search} {slots : Array (Option Nat)}

def Sorted (slots : Array (Option Nat)) : Prop :=
  ∀ start stop, (slots[0]?).join = some start → (slots[1]?).join = some stop → start ≤ stop

theorem sorted_finish (now : Moment) : Sorted (finish now) := by
  intro start stop hstart hstop
  unfold finish at hstart hstop
  cases hstart' : slot? now 0 with
  | none =>
    rw [hstart'] at hstart
    cases hstart'.symm.trans hstart
  | some start' =>
    cases hstop' : slot? now 1 with
    | none =>
      rw [hstart', hstop'] at hstop
      cases hstop'.symm.trans hstop
    | some stop' =>
      rw [hstart', hstop'] at hstart hstop
      dsimp only at hstart hstop
      by_cases hlt : stop' < start'
      · -- the start was moved to the end
        rw [if_pos hlt] at hstart hstop
        have hsecond : slot? now 1 = some stop := by
          simpa [slot?, setSlot, Array.getElem?_setIfInBounds] using hstop
        obtain rfl := Option.some.inj (hstop'.symm.trans hsecond)
        have hfirst : slot? (setSlot now 0 (some stop')) 0 = some start := hstart
        rcases slot?_setSlot hfirst with ⟨-, heq⟩ | hold
        · exact Nat.le_of_eq (Option.some.inj heq).symm
        · simp only [setSlot, Array.getElem?_setIfInBounds, if_true] at hstart
          split at hstart
          · exact Nat.le_of_eq (Option.some.inj hstart).symm
          · cases hstart
      · rw [if_neg hlt] at hstart hstop
        obtain rfl := Option.some.inj (hstart'.symm.trans hstart)
        obtain rfl := Option.some.inj (hstop'.symm.trans hstop)
        exact Nat.le_of_not_lt hlt

theorem search_sorted (h : search p s = .ok (some slots)) : Sorted slots := by
  have hany : ∀ now later : Moment, True → p.Moves s now later → True := fun _ _ _ _ => trivial
  obtain ⟨last, -, -, rfl⟩ := search_keeps hany trivial h
  exact sorted_finish last

end Machine

namespace Regex

variable {re : Regex} {h : Haystack} {start : Nat} {last : Option Nat} {skipped : Bool} {hit : Hit}
  {pattern : List Char}

theorem compile_linear {linear : Linear.Regex} {ownMatch : Bool} (hre : compile pattern = .ok re)
    (hlinear : re.matcher = .linear linear ownMatch) : ∃ e, linear.program = .ofExpr e := by
  obtain ⟨parsed, a, -, -, ⟨linear', -, hcompiled, hmatcher, -⟩ | ⟨plan, -, -, hmachine, -⟩⟩ :=
    compile_cases hre
  · cases hmatcher.symm.trans hlinear
    unfold compileLinear at hcompiled
    split at hcompiled
    · rename_i hread
      cases hcompiled
      obtain ⟨e, -, hread⟩ := bind_eq_ok.1 hread
      cases hread
      exact ⟨e, rfl⟩
    · cases hcompiled
    · cases hcompiled
  · cases hmachine.symm.trans hlinear

theorem find_start_le_stop (hre : compile pattern = .ok re)
    (hhit : re.find h start skipped = .ok (some hit)) : hit.start ≤ hit.stop := by
  unfold find at hhit
  split at hhit
  · rename_i linear ownMatch hlinear
    obtain ⟨e, he⟩ := compile_linear hre hlinear
    obtain ⟨found, hfound, hhit⟩ := Option.map_eq_some_iff.1 (Except.ok.inj hhit)
    have hmakes := (Linear.Regex.find_makes he hfound).1
    cases ownMatch with
    | false =>
      obtain rfl : found = hit := hhit
      exact hmakes.start_le
    | true =>
      obtain rfl : ownHit found = hit := hhit
      unfold ownHit
      split
      · rename_i hspan
        exact (hmakes.group (hspan ▸ List.mem_cons_self)).2.1
      · exact hmakes.start_le
      · exact hmakes.start_le
  · obtain ⟨slots, hslots, hhit⟩ := bind_eq_ok.1 hhit
    obtain ⟨slots, rfl, rfl⟩ := Option.map_eq_some_iff.1 (Except.ok.inj hhit)
    have hsorted := Machine.search_sorted hslots
    unfold slotsHit
    dsimp only
    cases hfirst : (slots[2 * 0]?).join with
    | none => exact Nat.le_refl _
    | some first =>
      cases hsecond : (slots[2 * 0 + 1]?).join with
      | none => exact Nat.le_refl _
      | some second => exact hsorted first second hfirst hsecond

structure Progressive (start : Nat) (last : Option Nat) (hits : List Hit) : Prop where
  spans : ∀ hit ∈ hits, hit.start ≤ hit.stop
  inOrder : InOrder start (hits.map Hit.span)
  stops : (hits.map Hit.stop).Pairwise (· < ·)
  further : ∀ stop ∈ last, ∀ hit ∈ hits, stop < hit.stop

theorem Progressive.nil : Progressive start last [] where
  spans _ hm := nomatch hm
  inOrder := trivial
  stops := List.Pairwise.nil
  further _ _ _ hm := nomatch hm

theorem Progressive.cons {rest : List Hit} {next : Nat} (hstart : start ≤ hit.start)
    (hstop : hit.start ≤ hit.stop) (hnext : hit.stop ≤ next)
    (hlast : ∀ stop ∈ last, stop < hit.stop) (hrest : Progressive next (some hit.stop) rest) :
    Progressive start last (hit :: rest) := by
  refine ⟨List.forall_mem_cons.2 ⟨hstop, hrest.spans⟩, ⟨hstart, ?_⟩,
    List.pairwise_cons.2 ⟨fun stop hstop => ?_, hrest.stops⟩, ?_⟩
  · exact hrest.inOrder.weaken hnext
  · obtain ⟨m, hm, rfl⟩ := List.mem_map.1 hstop
    exact hrest.further hit.stop rfl m hm
  · intro stop hstop
    have hfirst := hlast stop hstop
    exact List.forall_mem_cons.2 ⟨hfirst, fun m hm =>
      Nat.lt_trans hfirst (hrest.further hit.stop rfl m hm)⟩

/-- Each search begins further on than the one before it, so that the listing ends. -/
theorem listingFrom_progressive (hre : compile pattern = .ok re) (hforward : re.Forward h)
    {fuel : Nat} (hpos : 0 < fuel) (hfuel : h.size + 2 ≤ start + fuel)
    (hlast : ∀ stop ∈ last, stop ≤ start) :
    (re.listingFrom h fuel start last).ending ≠ .endless ∧
      Progressive start last (re.listingFrom h fuel start last).hits := by
  induction fuel generalizing start last with
  | zero => exact absurd hpos (Nat.lt_irrefl 0)
  | succ fuel ih =>
    unfold listingFrom
    split
    · exact ⟨by simp, .nil⟩
    rename_i hsize
    split
    · exact ⟨by simp, .nil⟩
    · exact ⟨by simp, .nil⟩
    rename_i m hfind
    have hstart := hforward start _ m (Nat.le_of_not_lt hsize) hfind
    have hstop := find_start_le_stop hre hfind
    have hsome : ∀ stop ∈ some m.stop, stop = m.stop := fun stop h => (Option.some.inj h).symm
    split
    · rename_i hempty
      have heq : m.start = m.stop := by simpa using hempty
      split
      · -- an empty match where the last one ended is passed over
        rename_i hsame
        have hlast' : last = some m.stop := by simpa using hsame
        obtain ⟨hending, hrest⟩ := @ih (m.stop + 1) last (by omega) (by omega)
          fun stop hstop => by rw [hsome stop (hlast' ▸ hstop)]; exact Nat.le_succ _
        exact ⟨hending, hrest.spans, hrest.inOrder.weaken (by omega), hrest.stops, hrest.further⟩
      · rename_i hother
        have hne : last ≠ some m.stop := by simpa using hother
        obtain ⟨hending, hrest⟩ := @ih (m.stop + 1) (some m.stop) (by omega) (by omega)
          fun stop hstop => by rw [hsome stop hstop]; exact Nat.le_succ _
        refine ⟨hending, .cons hstart hstop (Nat.le_succ _) (fun stop hstop => ?_) hrest⟩
        have hle := hlast stop hstop
        have hne' : stop ≠ m.stop := fun heq => hne (heq ▸ Option.mem_def.1 hstop)
        omega
    · rename_i hfull
      have hne : m.start ≠ m.stop := by simpa using hfull
      obtain ⟨hending, hrest⟩ := @ih m.stop (some m.stop) (by omega) (by omega)
        fun stop hstop => Nat.le_of_eq (hsome stop hstop)
      refine ⟨hending, .cons hstart hstop (Nat.le_refl _) (fun stop hstop => ?_) hrest⟩
      have hle := hlast stop hstop
      omega

end Regex

end Backtracking

theorem Template.compile_whole {names : List (Option String)} (hnames : 0 < names.length) :
    Template.compile "$0" names = .ok ⟨[.group (.index 0)]⟩ := by
  have hparse : Template.parse "$0" = .ok ⟨[.group (.index 0)]⟩ := by cbv
  have hvalid : (⟨[.group (.index 0)]⟩ : Template).validate names = .ok () := by
    simp [validate, refs, unresolved, hnames]
  rw [compile, hparse]
  exact congrArg (· >>= fun _ => _) hvalid

theorem Template.spliced_whole (subject : List Char) (last : Nat) (ms : List Match) :
    (⟨[.group (.index 0)]⟩ : Template).spliced subject last ms =
      (Match.joined subject last ms).map String.ofList := by
  induction ms generalizing last with
  | nil => rfl
  | cons m rest ih =>
    have hexpand : (⟨[.group (.index 0)]⟩ : Template).expand m.refText = m.text := by
      simp [expand, Match.refText]
    simp only [spliced, Match.joined, ih, hexpand]
    cases Text.slice subject last m.start with
    | none => rfl
    | some before =>
      cases Match.joined subject m.stop rest with
      | none => rfl
      | some after =>
        simp [String.ofList_append, String.append_assoc]

theorem Backtracking.Regex.groupNames_pos {pattern : List Char} {re : Backtracking.Regex}
    (hre : compile pattern = .ok re) : 0 < re.groupNames.length := by
  obtain ⟨parsed, a, -, -, ⟨linear, -, -, -, hnames⟩ | ⟨plan, -, -, -, hnames⟩⟩ :=
    compile_cases hre <;>
  · rw [hnames]
    exact Nat.succ_pos _

theorem Ending.of_ne_endless {ending : Ending} (h : ending ≠ .endless) :
    ∃ failure : Option String, ending = failure.elim .complete .failed := by
  cases ending with
  | complete => exact ⟨none, rfl⟩
  | failed message => exact ⟨some message, rfl⟩
  | endless => exact absurd rfl h

namespace Backend

theorem replaced_of_inOrder {c : RegexStudio.Compiled} {subject template : String} {t : Template}
    (hnames : NamesApart c.groupNames)
    (hinside : ∀ hit ∈ (c.listing (.ofString subject)).hits,
      hit.start ≤ subject.toList.length ∧ hit.stop ≤ subject.toList.length)
    (horder : InOrder 0 ((c.listing (.ofString subject)).hits.map Hit.span))
    (ht : Template.compile template c.groupNames = .ok t) :
    ∃ text, t.spliced subject.toList 0 ((c.listing (.ofString subject)).hits.map
        (·.toMatch (.ofString subject) c.groupNames)) = some text ∧
      replaced c subject template =
        match (c.listing (.ofString subject)).ending with
        | .complete => .ok (.ok text)
        | .failed message => .ok (.error (.runtime message))
        | .endless => .error .endless := by
  obtain ⟨text, htext, hall⟩ :=
    c.replaceFrom_of_inOrder t hnames (Nat.zero_le _) hinside horder
  rw [Haystack.offset_zero] at htext
  refine ⟨text, htext, ?_⟩
  rw [replaced, ht]
  exact hall _

/-- Where `\K` stands in no lookbehind, and the machine does not leave the whole match to the linear
engine, the listing of the backtracking engine comes to an end, with its matches one behind another.
No replacement breaks down, and replacing the matches by themselves gives the subject back unless
the engine gave up. -/
theorem matchList_ordered {forced : Option Engine} {pattern : String} {re : Backtracking.Regex}
    {parsed : Backtracking.Parsed}
    (hc : Compiled.ofPattern forced pattern = .ok (.backtracking re))
    (hparsed : Backtracking.parse pattern.toList = .ok parsed)
    (hfront : parsed.node.keepsFront true = true) (hown : parsed.leavesMatch = false)
    (subject : String) :
    ∃ ms failure, matchList (.backtracking re) subject = .ok ⟨ms, failure⟩ ∧
      Match.Listed subject.toList ms ∧
      (∀ template, ∃ result, replaced (.backtracking re) subject template = .ok result) ∧
      replaced (.backtracking re) subject "$0" =
        match failure with
        | none => .ok (.ok subject)
        | some message => .ok (.error (.runtime message)) := by
  have hre := Compiled.ofPattern_eq_ok hc
  have hsize : (Haystack.ofString subject).size = subject.toList.length := Haystack.size_ofChars _
  have hforward := Backtracking.Regex.find_forward hre hparsed hfront hown (.ofString subject)
  obtain ⟨hending, hhits⟩ : (re.listing (.ofString subject)).ending ≠ .endless ∧
      Backtracking.Regex.Progressive 0 none (re.listing (.ofString subject)).hits :=
    Backtracking.Regex.listingFrom_progressive hre hforward (Nat.succ_pos _) (by omega) nofun
  have hinside := Compiled.listing_inside hc subject.toList
  have hlisted := @Hit.listed_toMatch _ re.groupNames _
    (fun hit hhit => ⟨hhits.spans hit hhit, (hinside hit hhit).2⟩) hhits.inOrder hhits.stops
  have hreplaced {template : String} {t : Template}
      (ht : Template.compile template re.groupNames = .ok t) :=
    @replaced_of_inOrder (.backtracking re) subject template t (Compiled.groupNames_apart hc)
      hinside hhits.inOrder ht
  obtain ⟨failure, hfailure⟩ := Ending.of_ne_endless hending
  have hlist : (RegexStudio.Compiled.backtracking re).listing (.ofString subject) =
    re.listing (.ofString subject) := rfl
  simp only [hlist, hfailure] at hreplaced
  refine ⟨_, failure, ?_, hlisted, fun template => ?_, ?_⟩
  · simp only [matchList, hlist, hfailure]
    cases failure <;> rfl
  · cases ht : Template.compile template re.groupNames with
    | error e => exact ⟨.error e, by simp only [replaced, RegexStudio.Compiled.groupNames, ht]⟩
    | ok t =>
      obtain ⟨text, -, hresult⟩ := hreplaced ht
      rw [hresult]
      cases failure with
      | none | some message => exact ⟨_, rfl⟩
  · obtain ⟨text, htext, hresult⟩ :=
      hreplaced (Template.compile_whole (Backtracking.Regex.groupNames_pos hre))
    rw [Template.spliced_whole] at htext
    have hwhole := (congrArg (Option.map String.ofList) hlisted.joined).symm.trans htext
    rw [Option.map_some, String.ofList_toList] at hwhole
    rw [hresult, ← Option.some.inj hwhole]
    cases failure <;> rfl

theorem matchList_ordered_behind :
    ∃ re parsed, Compiled.ofPattern none "(?<!b)a\\K(?=a|$)" = .ok (.backtracking re) ∧
      Backtracking.parse "(?<!b)a\\K(?=a|$)".toList = .ok parsed ∧
      parsed.node.keepsFront true = true ∧ parsed.leavesMatch = false ∧
      matchList (.backtracking re) "aaa" =
        .ok ⟨[⟨"", 1, 1, []⟩, ⟨"", 3, 3, []⟩], none⟩ ∧
      replaced (.backtracking re) "aaa" "$0" = .ok (.ok "aaa") := by
  have hcompiled : (Compiled.ofPattern none "(?<!b)a\\K(?=a|$)").map
      (fun c => (c.engine, matchList c "aaa")) =
        .ok (.backtracking, .ok ⟨[⟨"", 1, 1, []⟩, ⟨"", 3, 3, []⟩], none⟩) := by cbv
  have hread : (Backtracking.parse "(?<!b)a\\K(?=a|$)".toList).map
      (fun parsed => (parsed.node.keepsFront true, parsed.leavesMatch)) = .ok (true, false) := by
    cbv
  obtain ⟨parsed, hparsed, hnode⟩ := map_eq_ok.1 hread
  obtain ⟨hfront, hown⟩ := Prod.mk.inj hnode
  obtain ⟨c, hc, hfound⟩ := map_eq_ok.1 hcompiled
  obtain ⟨hengine, hlist⟩ := Prod.mk.inj hfound
  cases c with
  | linear re => cases hengine
  | backtracking re =>
    obtain ⟨ms, failure, hms, -, -, hreplaced⟩ := matchList_ordered hc hparsed hfront hown "aaa"
    obtain ⟨-, rfl⟩ := MatchList.mk.inj (Except.ok.inj (hlist.symm.trans hms))
    exact ⟨re, parsed, hc, hparsed, hfront, hown, hlist, hreplaced⟩

end Backend

end RegexStudio
