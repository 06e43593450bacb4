import Mathlib
import RegexStudio.Proofs.LinearMeaning
import RegexStudio.Proofs.LinearPreference
import RegexStudio.Proofs.ShownMatches

/-! The matches that the linear engine lists: each is a match of what the pattern means, they stand
in order with ends that strictly increase, and where the list has a gap the pattern matches nowhere
inside of it. -/

namespace RegexStudio

open Text (Haystack InOrder)

namespace Linear

namespace Mark

variable {s m s' : Mark} {g : Nat}

structure After (s s' : Mark) : Prop where
  pos : s.pos ≤ s'.pos
  trail : ∃ fresh, s'.trail = fresh ++ s.trail ∧
    ∀ entry ∈ fresh, s.pos ≤ entry.2 ∧ entry.2 ≤ s'.pos

theorem After.refl (s : Mark) : s.After s := ⟨Nat.le_refl _, [], rfl, fun _ h => nomatch h⟩

theorem After.trans (hm : s.After m) (hs : m.After s') : s.After s' := by
  obtain ⟨first, hfirst, hfirstIn⟩ := hm.trail
  obtain ⟨second, hsecond, hsecondIn⟩ := hs.trail
  refine ⟨Nat.le_trans hm.pos hs.pos, second ++ first, ?_, fun entry hentry => ?_⟩
  · rw [hsecond, hfirst, List.append_assoc]
  · rcases List.mem_append.1 hentry with hentry | hentry
    · exact ⟨Nat.le_trans hm.pos (hsecondIn entry hentry).1, (hsecondIn entry hentry).2⟩
    · exact ⟨(hfirstIn entry hentry).1, Nat.le_trans (hfirstIn entry hentry).2 hs.pos⟩

theorem after_save (s : Mark) (slot : Nat) : s.After (s.save slot) :=
  ⟨Nat.le_refl _, [(slot, s.pos)], rfl,
    List.forall_mem_singleton.2 ⟨Nat.le_refl _, Nat.le_refl _⟩⟩

def Past (s : Mark) : Prop := ∀ entry ∈ s.trail, entry.2 ≤ s.pos

theorem Past.after (hs : s.Past) (h : s.After s') : s'.Past := by
  obtain ⟨fresh, htrail, hfresh⟩ := h.trail
  intro entry hentry
  rw [htrail] at hentry
  rcases List.mem_append.1 hentry with hentry | hentry
  · exact (hfresh entry hentry).2
  · exact Nat.le_trans (hs entry hentry) h.pos

def Closed (g : Nat) (s : Mark) : Prop :=
  ∀ stop, s.trail.lookup (2 * g + 1) = some stop →
    ∃ start ≤ stop, s.trail.lookup (2 * g) = some start

theorem lookup_append_ne_none {l l' : List (Nat × Nat)} {slot : Nat}
    (h : l'.lookup slot ≠ none) : (l ++ l').lookup slot ≠ none := by
  rw [List.lookup_append]
  cases l.lookup slot with
  | none => exact h
  | some place => simp

end Mark

theorem rounds_induction {round P : Mark → Mark → Prop} (hrefl : ∀ s, P s s)
    (hstep : ∀ {s m s'}, round s m → P m s' → P s s') {n : Nat} {s s' : Mark}
    (h : Rounds round n s s') : P s s' := by
  induction n generalizing s with
  | zero => exact (show s' = s from h) ▸ hrefl s
  | succ n ih =>
    obtain ⟨m, hm, hs⟩ := h
    exact hstep hm (ih hs)

namespace Expr

variable {h : Haystack} {e : Expr} {s s' : Mark}

theorem Matches.after (hs : e.Matches h s s') : s.After s' := by
  induction e generalizing s s' with
  | empty => exact (show s' = s from hs) ▸ .refl s
  | set cs =>
    obtain ⟨c, -, -, rfl⟩ := hs
    exact ⟨Nat.le_succ _, [], rfl, fun _ h => nomatch h⟩
  | look l => exact hs.2 ▸ .refl s
  | cat a b iha ihb =>
    obtain ⟨m, ha, hb⟩ := hs
    exact (iha ha).trans (ihb hb)
  | alt a b iha ihb => exact hs.elim iha ihb
  | rep lo hi greedy sub ih =>
    obtain ⟨n, -, -, hs⟩ := hs
    exact rounds_induction (P := Mark.After) .refl (fun hm hs => (ih hm).trans hs) hs
  | cap index name sub ih =>
    obtain ⟨m, hm, rfl⟩ := hs
    exact ((s.after_save _).trans (ih hm)).trans (m.after_save _)

/-- A group gets an end only after a start, and at a place no further back. -/
theorem Matches.closed {g : Nat} (hs : e.Matches h s s') (hpast : s.Past) (hclosed : s.Closed g) :
    s'.Closed g := by
  induction e generalizing s s' with
  | empty => exact (show s' = s from hs) ▸ hclosed
  | set cs =>
    obtain ⟨c, -, -, rfl⟩ := hs
    exact hclosed
  | look l => exact hs.2 ▸ hclosed
  | cat a b iha ihb =>
    obtain ⟨m, ha, hb⟩ := hs
    exact ihb hb (hpast.after ha.after) (iha ha hpast hclosed)
  | alt a b iha ihb => exact hs.elim (iha · hpast hclosed) (ihb · hpast hclosed)
  | rep lo hi greedy sub ih =>
    obtain ⟨n, -, -, hs⟩ := hs
    refine rounds_induction (P := fun s s' => s.Past → s.Closed g → s'.Closed g)
      (fun _ _ h => h) (fun hm hs hpast hclosed => ?_) hs hpast hclosed
    exact hs (hpast.after hm.after) (ih hm hpast hclosed)
  | cap index name sub ih =>
    obtain ⟨m, hm, rfl⟩ := hs
    have hpast' : (s.save (2 * index)).Past := hpast.after (s.after_save _)
    by_cases hg : g = index
    · -- the group itself: its start was written before what is inside of it matched
      subst hg
      intro stop hstop
      obtain rfl : m.pos = stop := by simpa [Mark.save] using hstop
      obtain ⟨fresh, htrail, -⟩ := hm.after.trail
      have hsome : m.trail.lookup (2 * g) ≠ none := by
        rw [htrail]
        exact Mark.lookup_append_ne_none (by simp [Mark.save])
      obtain ⟨start, hstart⟩ := Option.ne_none_iff_exists'.1 hsome
      obtain ⟨before, after, hm', -⟩ := List.lookup_eq_some_iff.1 hstart
      have hne : (2 * g == 2 * g + 1) = false := by simp
      refine ⟨start, (hpast'.after hm.after) (2 * g, start) (hm' ▸ by simp), ?_⟩
      simpa only [Mark.save, List.lookup_cons, hne] using hstart
    · have hsaved : (s.save (2 * index)).Closed g := by
        intro stop hstop
        have hne : (2 * g + 1 == 2 * index) = false := by simp; omega
        have hne' : (2 * g == 2 * index) = false := by simp; omega
        simp only [Mark.save, List.lookup_cons, hne, hne'] at hstop ⊢
        exact hclosed stop hstop
      intro stop hstop
      have hne : (2 * g + 1 == 2 * index + 1) = false := by simp; omega
      have hne' : (2 * g == 2 * index + 1) = false := by simp; omega
      simp only [Mark.save, List.lookup_cons, hne, hne'] at hstop ⊢
      exact ih hm hpast' hsaved stop hstop

def MatchesAt (h : Haystack) (e : Expr) (place : Nat) : Prop := ∃ s', e.Matches h ⟨place, []⟩ s'

/-- Whether a hit shows a match of the pattern, the preferred one of those that begin at its place:
its ends, and the last thing that each of some groups has matched. -/
def Makes (h : Haystack) (e : Expr) (groups : Nat) (hit : Hit) : Prop :=
  ∃ trail, e.Matches h ⟨hit.start, []⟩ ⟨hit.stop, trail⟩ ∧
    (Program.ofExpr e).Preferred h ⟨(Program.ofExpr e).entry, hit.start, []⟩
      ⟨0, hit.stop, trail⟩ ∧
    hit.groups = (List.range (groups - 1)).map fun i =>
      Thread.group? ⟨0, hit.stop, trail⟩ (i + 1)

theorem Makes.start_le {groups : Nat} {hit : Hit} (hhit : e.Makes h groups hit) :
    hit.start ≤ hit.stop := by
  obtain ⟨trail, hs, -⟩ := hhit
  exact hs.after.pos

theorem Makes.length {groups : Nat} {hit : Hit} (hhit : e.Makes h groups hit) :
    hit.groups.length = groups - 1 := by
  obtain ⟨trail, -, -, hgroups⟩ := hhit
  rw [hgroups, List.length_map, List.length_range]

theorem Makes.group {groups : Nat} {hit : Hit} (hhit : e.Makes h groups hit) {span : Nat × Nat}
    (hspan : some span ∈ hit.groups) :
    hit.start ≤ span.1 ∧ span.1 ≤ span.2 ∧ span.2 ≤ hit.stop := by
  obtain ⟨trail, hs, -, hgroups⟩ := hhit
  rw [hgroups] at hspan
  obtain ⟨i, -, hgroup⟩ := List.mem_map.1 hspan
  simp only [Thread.group?, Thread.slot?, Option.bind_eq_bind, Option.bind_eq_some_iff,
    Option.some.injEq] at hgroup
  obtain ⟨start, hstart, stop, hstop, rfl⟩ := hgroup
  have hwritten : ∀ {slot place}, trail.lookup slot = some place →
      hit.start ≤ place ∧ place ≤ hit.stop := by
    intro slot place hplace
    obtain ⟨fresh, htrail, hfresh⟩ := hs.after.trail
    obtain rfl : trail = fresh := by simpa using htrail
    obtain ⟨before, after, heq, -⟩ := List.lookup_eq_some_iff.1 hplace
    exact hfresh (slot, place) (heq ▸ by simp)
  have hclosed := hs.closed (g := i + 1) (by simp [Mark.Past]) (by simp [Mark.Closed])
  obtain ⟨start', hle, hstart'⟩ := hclosed stop hstop
  obtain rfl := Option.some.inj (hstart.symm.trans hstart')
  exact ⟨(hwritten hstart).1, hle, (hwritten hstop).2⟩

end Expr

namespace Regex

variable {re : Regex} {e : Expr} {h : Haystack} {start : Nat} {last : Option Nat} {m : Hit}

theorem find_makes (hre : re.program = .ofExpr e) (hm : re.find h start = some m) :
    e.Makes h re.groupNames.length m ∧ ∀ j, start ≤ j → j < m.start → ¬e.MatchesAt h j := by
  obtain ⟨⟨i, t⟩, hsearch, rfl⟩ := Option.map_eq_some_iff.1 hm
  have hfirst := re.program.search_first h start
  have hpreferred := Program.search_preferred hsearch
  rw [hsearch, hre] at hfirst
  rw [hre] at hpreferred
  obtain ⟨haccepts, hbefore⟩ := hfirst
  obtain ⟨s', hs, rfl⟩ := (Program.ofExpr_accepts h e ⟨i, []⟩ t).1 haccepts
  exact ⟨⟨s'.trail, hs, hpreferred, rfl⟩, fun j hj hlt hmatch =>
    hbefore j hj hlt ((Program.ofExpr_succeeds h e j).2 hmatch)⟩

theorem find_none (hre : re.program = .ofExpr e) (hm : re.find h start = none) :
    ∀ j, start ≤ j → j ≤ h.size → ¬e.MatchesAt h j := by
  have hfirst := re.program.search_first h start
  rw [Option.map_eq_none_iff.1 hm, hre] at hfirst
  exact fun j hj hsize hmatch => hfirst j hj hsize ((Program.ofExpr_succeeds h e j).2 hmatch)

def Due (start : Nat) (last : Option Nat) (j : Nat) : Prop := start ≤ j ∧ last ≠ some j

/-- What the next match from a place on is: a match of the pattern that ends further on than the
last one, or none; none of the places before it is the beginning of a match. -/
def IsNext (h : Haystack) (e : Expr) (groups start : Nat) (last : Option Nat) : Option Hit → Prop
  | none => ∀ j, Due start last j → j ≤ h.size → ¬e.MatchesAt h j
  | some m => e.Makes h groups m ∧ (last = some start → start < m.stop) ∧
      ∀ j, Due start last j → j < m.start → ¬e.MatchesAt h j

theorem findNext_isNext (hre : re.program = .ofExpr e) :
    IsNext h e re.groupNames.length start last (re.findNext h start last) := by
  unfold findNext
  cases hfind : re.find h start with
  | none => exact fun j hj => find_none hre hfind j hj.1
  | some m =>
    obtain ⟨hmakes, hbefore⟩ := find_makes hre hfind
    have hle := (find_found hfind).start_le
    change IsNext h e _ start last (if _ then _ else _)
    split
    · -- an empty match where the last one ended: the search goes on behind it
      rename_i hempty
      obtain ⟨hstop, hlast⟩ : m.start = m.stop ∧ last = some m.stop := by simpa using hempty
      have hsplit : ∀ j, Due start last j → j < m.start ∨ start + 1 ≤ j := by
        intro j hj
        have hne : j ≠ m.stop := fun heq => hj.2 (heq ▸ hlast)
        have hstart := hj.1
        omega
      cases hnext : re.find h (start + 1) with
      | none =>
        intro j hj hsize
        rcases hsplit j hj with hlt | hgt
        · exact hbefore j hj.1 hlt
        · exact find_none hre hnext j hgt hsize
      | some m' =>
        obtain ⟨hmakes', hbefore'⟩ := find_makes hre hnext
        have hfound := find_found hnext
        refine ⟨hmakes', fun _ => Nat.lt_of_lt_of_le hfound.start_le hfound.start_le_stop, ?_⟩
        intro j hj hlt
        rcases hsplit j hj with hlt' | hgt
        · exact hbefore j hj.1 hlt'
        · exact hbefore' j hgt hlt
    · rename_i hfull
      refine ⟨hmakes, fun hlast => ?_, fun j hj => hbefore j hj.1⟩
      have hne : ¬(m.start = m.stop ∧ last = some m.stop) := by simpa using hfull
      have hstop := hmakes.start_le
      by_contra hge
      have heq : m.stop = start := by omega
      exact hne ⟨by omega, heq ▸ hlast⟩

def Lists (h : Haystack) (e : Expr) (groups : Nat) : Nat → Option Nat → List Hit → Prop
  | start, last, [] => IsNext h e groups start last none
  | start, last, m :: rest =>
    IsNext h e groups start last (some m) ∧ Lists h e groups m.stop (some m.stop) rest

/-- A search for each place that is left is enough, and one more where no match has ended yet. -/
theorem hitsFrom_lists (hre : re.program = .ofExpr e) {fuel : Nat}
    (hfuel : h.size + 2 ≤ start + fuel ∨ last = some start ∧ h.size + 1 ≤ start + fuel) :
    Lists h e re.groupNames.length start last (re.hitsFrom h fuel start last) := by
  induction fuel generalizing start last with
  | zero =>
    intro j hj hsize
    have hstart := hj.1
    omega
  | succ fuel ih =>
    have hnext : IsNext h e re.groupNames.length start last (re.findNext h start last) :=
      findNext_isNext hre
    rw [hitsFrom]
    cases hfind : re.findNext h start last with
    | none => rwa [hfind] at hnext
    | some m =>
      rw [hfind] at hnext
      refine ⟨hnext, ih (.inr ⟨rfl, ?_⟩)⟩
      have hfound := findNext_found hfind
      have hle := Nat.le_trans hfound.start_le hfound.start_le_stop
      rcases hfuel with hfuel | ⟨hlast, hfuel⟩
      · omega
      · have hlt := hnext.2.1 hlast
        omega

namespace Lists

variable {groups : Nat} {hits : List Hit}

theorem makes (hl : Lists h e groups start last hits) : ∀ m ∈ hits, e.Makes h groups m := by
  induction hits generalizing start last with
  | nil => exact fun _ hm => nomatch hm
  | cons m rest ih => exact List.forall_mem_cons.2 ⟨hl.1.1, ih hl.2⟩

theorem stops (hl : Lists h e groups start last hits) :
    (hits.map Hit.stop).Pairwise (· < ·) ∧
      (last = some start → ∀ m ∈ hits, start < m.stop) := by
  induction hits generalizing start last with
  | nil => exact ⟨.nil, fun _ _ hm => nomatch hm⟩
  | cons m rest ih =>
    obtain ⟨hsorted, hlater⟩ := ih hl.2
    refine ⟨List.pairwise_cons.2 ⟨fun stop hstop => ?_, hsorted⟩, fun hlast => ?_⟩
    · obtain ⟨m', hm', rfl⟩ := List.mem_map.1 hstop
      exact hlater rfl m' hm'
    · have hfirst := hl.1.2.1 hlast
      exact List.forall_mem_cons.2 ⟨hfirst, fun m' hm' => Nat.lt_trans hfirst (hlater rfl m' hm')⟩

theorem missed (hl : Lists h e groups start last hits) {j : Nat} (hj : Due start last j)
    (hsize : j ≤ h.size) (hout : ∀ m ∈ hits, ¬(m.start ≤ j ∧ j ≤ m.stop)) : ¬e.MatchesAt h j := by
  induction hits generalizing start last with
  | nil => exact hl j hj hsize
  | cons m rest ih =>
    obtain ⟨hm, hrest⟩ := List.forall_mem_cons.1 hout
    rcases Nat.lt_or_ge j m.start with hlt | hge
    · exact hl.1.2.2 j hj hlt
    · have hlt : m.stop < j := Nat.lt_of_not_le fun hle => hm ⟨hge, hle⟩
      exact ih hl.2 ⟨Nat.le_of_lt hlt, fun heq => Nat.ne_of_lt hlt (Option.some.inj heq)⟩ hrest

end Lists

end Regex

structure Enumeration (e : Expr) (names : List (Option String)) (subject : String)
    (ms : List Match) : Prop where
  sound : ∀ m ∈ ms, ∃ hit, e.Makes (.ofString subject) names.length hit ∧
    m = hit.toMatch (.ofString subject) names
  faithful : ∀ m ∈ ms, m.Faithful subject.toList names
  inOrder : InOrder 0 (ms.map Match.span)
  stops : (ms.map Match.stop).Pairwise (· < ·)
  length : ms.length ≤ subject.toList.length + 1
  joined : Match.joined subject.toList 0 ms = some subject.toList
  complete : ∀ before after, subject.toList = before ++ after →
    (∀ m ∈ ms, ¬(m.start ≤ Text.byteLength before ∧ Text.byteLength before ≤ m.stop)) →
    ¬e.MatchesAt (.ofString subject) before.length

theorem Regex.hits_enumerate {re : Regex} {e : Expr} (hre : re.program = .ofExpr e)
    (subject : String) :
    Enumeration e re.groupNames subject
      ((re.hits (.ofString subject)).map (·.toMatch (.ofString subject) re.groupNames)) := by
  have hsize : (Haystack.ofString subject).size = subject.toList.length := Haystack.size_ofChars _
  have hlists : Lists (.ofString subject) e re.groupNames.length 0 none
      (re.hits (.ofString subject)) := hitsFrom_lists hre (.inl (by omega))
  have hmakes := hlists.makes
  have hspans : ∀ hit ∈ re.hits (.ofString subject),
      hit.start ≤ hit.stop ∧ hit.stop ≤ subject.toList.length := fun hit hhit =>
    ⟨(hitsFrom_found hit hhit).start_le_stop, hsize ▸ (hitsFrom_found hit hhit).stop_le⟩
  have hlisted := @Hit.listed_toMatch _ re.groupNames _ hspans hitsFrom_inOrder hlists.stops.1
  refine ⟨fun m hm => ?_, fun m hm => ?_, hlisted.inOrder, ?_, hlisted.length, hlisted.joined, ?_⟩
  · obtain ⟨hit, hhit, rfl⟩ := List.mem_map.1 hm
    exact ⟨hit, hmakes hit hhit, rfl⟩
  · obtain ⟨hit, hhit, rfl⟩ := List.mem_map.1 hm
    have hmade := hmakes hit hhit
    exact Hit.faithful_toMatch hmade.start_le (hspans hit hhit).2 hmade.length
      fun span => hmade.group
  · -- offsets strictly increase with the places
    rw [List.map_map, List.pairwise_map]
    refine (List.pairwise_map.1 hlists.stops.1).imp_of_mem fun _ hb hlt => ?_
    exact Haystack.offset_lt_offset hlt (hspans _ hb).2
  · intro before after hsubject hout
    have hlen : before.length ≤ subject.toList.length := by simp [hsubject]
    have hoffset : (Haystack.ofString subject).offset before.length =
        Text.byteLength before := by
      rw [Haystack.ofString, Haystack.offset_ofChars hlen, hsubject, List.take_left]
    refine hlists.missed ⟨Nat.zero_le _, by simp⟩ (hsize ▸ hlen) fun hit hhit hin => ?_
    refine hout _ (List.mem_map_of_mem hhit) ?_
    rw [← hoffset]
    exact ⟨Haystack.offset_le_offset hin.1 hlen,
      Haystack.offset_le_offset hin.2 (hspans hit hhit).2⟩

end Linear

namespace Backend

/-- The linear engine lists every match from left to right that does not overlap the one before it,
always to the end of the subject. -/
theorem matchList_enumerates {forced : Option Engine} {pattern : String} {re : Linear.Regex}
    (hc : Compiled.ofPattern forced pattern = .ok (.linear re)) (subject : String) :
    ∃ e ms, Linear.Regex.read pattern.toList = .ok e ∧ re.groupNames = e.groupNames ∧
      matchList (.linear re) subject = .ok ⟨ms, none⟩ ∧
      Linear.Enumeration e re.groupNames subject ms := by
  have hre := Compiled.ofPattern_eq_ok hc
  obtain ⟨e, he, hre⟩ := bind_eq_ok.1 hre
  obtain rfl := Except.ok.inj hre
  exact ⟨e, _, he, rfl, rfl, Linear.Regex.hits_enumerate rfl subject⟩

theorem matchList_enumerates_empty :
    ∃ re e, Compiled.ofPattern none "(a)|" = .ok (.linear re) ∧
      matchList (.linear re) "éa" =
        .ok ⟨[⟨"", 0, 0, []⟩, ⟨"a", 2, 3, [⟨1, none, "a", 2, 3⟩]⟩], none⟩ ∧
      Linear.Enumeration e re.groupNames "éa"
        [⟨"", 0, 0, []⟩, ⟨"a", 2, 3, [⟨1, none, "a", 2, 3⟩]⟩] := by
  have hcompiled : (Compiled.ofPattern none "(a)|").map (fun c => (c.engine, matchList c "éa")) =
      .ok (.linear,
        .ok ⟨[⟨"", 0, 0, []⟩, ⟨"a", 2, 3, [⟨1, none, "a", 2, 3⟩]⟩], none⟩) := by cbv
  obtain ⟨c, hc, hfound⟩ := map_eq_ok.1 hcompiled
  obtain ⟨hengine, hlist⟩ := Prod.mk.inj hfound
  cases c with
  | backtracking re => cases hengine
  | linear re =>
    obtain ⟨e, ms, -, -, hms, henumeration⟩ := matchList_enumerates hc "éa"
    obtain rfl := (MatchList.mk.inj (Except.ok.inj (hlist.symm.trans hms))).1
    exact ⟨re, e, hc, hlist, henumeration⟩

end Backend

end RegexStudio
