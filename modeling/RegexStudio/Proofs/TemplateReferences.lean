import RegexStudio.Proofs.Replacement
import RegexStudio.Proofs.TemplateGrammar

/-! References checked against the groups of a pattern. A template is accepted if it can be read and
all its references resolve, and otherwise one error is reported: that of the reading before that of
any reference, and of the references the first. What was accepted for a pattern means a group that
each match of the pattern tells of. -/

namespace RegexStudio

open Text (Haystack)

namespace GroupRef

variable {groups more : List (Option String)} {r : GroupRef} {n : Nat}

def Means (groups : List (Option String)) (n : Nat) : GroupRef → Prop
  | index i => i = n ∧ n < groups.length
  | name s => groups[n]? = some (some s)

def Resolves (groups : List (Option String)) : GroupRef → Prop
  | index n => n < groups.length
  | name s => some s ∈ groups

def fault (groups : List (Option String)) : GroupRef → ReplacementError
  | index n => .groupOutOfRange n (groups.length - 1)
  | name s => .unknownGroup s

theorem Means.lt (h : r.Means groups n) : n < groups.length := by
  cases r with
  | index i => exact h.2
  | name s => exact (List.getElem?_eq_some_iff.1 h).1

theorem resolves_iff : r.Resolves groups ↔ ∃ n, r.Means groups n := by
  cases r with
  | index i =>
    refine ⟨fun h => ⟨i, rfl, h⟩, ?_⟩
    rintro ⟨n, rfl, h⟩
    exact h
  | name s => exact List.mem_iff_getElem?

theorem Resolves.append (h : r.Resolves groups) (more : List (Option String)) :
    r.Resolves (groups ++ more) := by
  cases r with
  | index n =>
    change n < (groups ++ more).length
    rw [List.length_append]
    exact Nat.lt_add_right _ h
  | name s => exact List.mem_append_left _ h

theorem unresolved_of_resolves (h : r.Resolves groups) : Template.unresolved groups r = none := by
  cases r with
  | index n => exact if_pos h
  | name s => exact if_pos (List.contains_iff_mem.2 h)

theorem unresolved_of_not_resolves (h : ¬r.Resolves groups) :
    Template.unresolved groups r = some (r.fault groups) := by
  cases r with
  | index n => exact if_neg h
  | name s => exact if_neg (mt List.contains_iff_mem.1 h)

theorem resolves_of_unresolved (h : Template.unresolved groups r = none) : r.Resolves groups := by
  by_contra hnot
  rw [unresolved_of_not_resolves hnot] at h
  cases h

end GroupRef

namespace Template

variable {template : String} {groups : List (Option String)} {t : Template}

theorem compile_of_parse_error {e : ReplacementError} (h : parse template = .error e) :
    compile template groups = .error e := by
  rw [compile, h]
  rfl

theorem compile_of_parse (h : parse template = .ok t) :
    compile template groups =
      match t.refs.findSome? (unresolved groups) with
      | some e => .error e
      | none => .ok t := by
  rw [compile, h]
  change (t.validate groups >>= fun _ => .ok t) = _
  rw [validate]
  cases t.refs.findSome? (unresolved groups) <;> rfl

theorem compile_eq_ok_iff :
    compile template groups = .ok t ↔
      parse template = .ok t ∧ ∀ r ∈ t.refs, r.Resolves groups := by
  have hiff (t : Template) : t.refs.findSome? (unresolved groups) = none ↔
      ∀ r ∈ t.refs, r.Resolves groups :=
    List.findSome?_eq_none_iff.trans
      (forall₂_congr fun _ _ => ⟨GroupRef.resolves_of_unresolved, GroupRef.unresolved_of_resolves⟩)
  cases hparse : parse template with
  | error e =>
    rw [compile_of_parse_error hparse]
    exact ⟨fun h => (nomatch h), fun h => (nomatch h.1)⟩
  | ok read =>
    rw [compile_of_parse hparse]
    constructor
    · intro h
      split at h
      · cases h
      · rename_i hnone
        obtain rfl := Except.ok.inj h
        exact ⟨rfl, (hiff read).1 hnone⟩
    · rintro ⟨⟨⟩, hall⟩
      rw [(hiff t).2 hall]

theorem compile_of_first_unresolved {before after : List GroupRef} {r : GroupRef}
    (hparse : parse template = .ok t) (hrefs : t.refs = before ++ r :: after)
    (hbefore : ∀ r' ∈ before, r'.Resolves groups) (hr : ¬r.Resolves groups) :
    compile template groups = .error (r.fault groups) := by
  have hfirst : t.refs.findSome? (unresolved groups) = some (r.fault groups) :=
    List.findSome?_eq_some_iff.2 ⟨before, r, after, hrefs, GroupRef.unresolved_of_not_resolves hr,
      fun r' hr' => GroupRef.unresolved_of_resolves (hbefore r' hr')⟩
  rw [compile_of_parse hparse, hfirst]

end Template

namespace Linear.Regex

variable {re : Regex} {h : Haystack} {start : Nat} {last : Option Nat} {hit : Hit}

theorem length_find (hhit : re.find h start = some hit) :
    hit.groups.length = re.groupNames.length - 1 := by
  obtain ⟨⟨i, t⟩, -, rfl⟩ := Option.map_eq_some_iff.1 hhit
  exact (List.length_map _).trans List.length_range

theorem length_findNext (hhit : re.findNext h start last = some hit) :
    hit.groups.length = re.groupNames.length - 1 := by
  unfold findNext at hhit
  split at hhit
  · cases hhit
  · rename_i hfind
    split at hhit
    · exact length_find hhit
    · exact Option.some.inj hhit ▸ length_find hfind

theorem length_hitsFrom {fuel : Nat} :
    ∀ hit ∈ re.hitsFrom h fuel start last, hit.groups.length = re.groupNames.length - 1 := by
  induction fuel generalizing start last with
  | zero => exact List.forall_mem_nil _
  | succ fuel ih =>
    unfold hitsFrom
    split
    · exact List.forall_mem_nil _
    · rename_i hfirst
      exact List.forall_mem_cons.2 ⟨length_findNext hfirst, ih⟩

theorem groupNames_pos {pattern : List Char} (hre : compile pattern = .ok re) :
    0 < re.groupNames.length := by
  obtain ⟨ast, -, hnames⟩ := compile_groups hre
  exact (List.getElem?_eq_some_iff.1 hnames.whole).1

end Linear.Regex

namespace Backtracking.Regex

variable {re : Regex} {h : Haystack} {start : Nat} {skipped : Bool} {hit : Hit}

theorem length_namesByNumber (groups : Nat) (names : List (List Char × Nat)) :
    (namesByNumber groups names).length = groups - 1 + 1 := by
  simp [namesByNumber]

theorem length_ownHit (hit : Hit) : (ownHit hit).groups.length = hit.groups.length - 1 := by
  unfold ownHit
  split
  · rename_i hgroups
    rw [hgroups]
    rfl
  · rename_i hgroups
    rw [hgroups]
    rfl
  · rename_i hgroups
    rw [hgroups]
    rfl

theorem length_find {pattern : List Char} (hre : compile pattern = .ok re)
    (hhit : re.find h start skipped = .ok (some hit)) :
    hit.groups.length + 1 = re.groupNames.length := by
  obtain ⟨parsed, a, -, -, ⟨linear, -, -, hmatcher, hnames⟩ | ⟨plan, -, -, hmatcher, hnames⟩⟩ :=
    compile_cases hre
  · rw [find, hmatcher] at hhit
    obtain ⟨found, hfound, rfl⟩ := Option.map_eq_some_iff.1 (Except.ok.inj hhit)
    have hlen := Linear.Regex.length_find hfound
    rw [hnames, length_namesByNumber]
    split
    · rw [length_ownHit, hlen]
    · rw [hlen]
  · rw [find, hmatcher] at hhit
    obtain ⟨slots, -, hhit⟩ := bind_eq_ok.1 hhit
    obtain ⟨slots', -, rfl⟩ := Option.map_eq_some_iff.1 (Except.ok.inj hhit)
    simp [slotsHit, hnames, length_namesByNumber]

theorem length_listingFrom {pattern : List Char} (hre : compile pattern = .ok re) {fuel : Nat}
    {last : Option Nat} : ∀ hit ∈ (re.listingFrom h fuel start last).hits,
      hit.groups.length + 1 = re.groupNames.length := by
  induction fuel generalizing start last with
  | zero => exact List.forall_mem_nil _
  | succ fuel ih =>
    unfold listingFrom
    split
    · exact List.forall_mem_nil _
    split
    · exact List.forall_mem_nil _
    · exact List.forall_mem_nil _
    rename_i found hfound
    have hfirst := length_find hre hfound
    split
    · split
      · exact ih
      · exact List.forall_mem_cons.2 ⟨hfirst, ih⟩
    · exact List.forall_mem_cons.2 ⟨hfirst, ih⟩

end Backtracking.Regex

namespace Compiled

variable {forced : Option Engine} {pattern : String} {c : Compiled} {h : Haystack} {hit : Hit}
  {r : GroupRef} {n : Nat}

theorem length_listing (hc : ofPattern forced pattern = .ok c) (hhit : hit ∈ (c.listing h).hits) :
    hit.groups.length + 1 = c.groupNames.length := by
  have hre := ofPattern_eq_ok hc
  cases c with
  | linear re =>
    rw [Linear.Regex.length_hitsFrom hit hhit]
    exact Nat.sub_add_cancel (Linear.Regex.groupNames_pos hre)
  | backtracking re => exact Backtracking.Regex.length_listingFrom hre hit hhit

theorem groupOf?_of_means (hnames : NamesApart c.groupNames) (hr : r.Means c.groupNames n) :
    c.groupOf? r = some n := by
  cases r with
  | index i => exact congrArg some hr.1
  | name s =>
    obtain ⟨hlt, hget⟩ := List.getElem?_eq_some_iff.1 hr
    refine List.findIdx?_eq_some_iff_getElem.2 ⟨hlt, beq_iff_eq.2 hget, fun j hj hsame => ?_⟩
    have hjs : c.groupNames[j]? = some (some s) := by
      rw [List.getElem?_eq_getElem (Nat.lt_trans hj hlt), beq_iff_eq.1 hsame]
    exact absurd (hnames.apart j n s hjs hr) (Nat.ne_of_lt hj)

theorem groupText_of_means (hnames : NamesApart c.groupNames) (hr : r.Means c.groupNames n) :
    c.groupText h hit r = (hit.group? n).map fun span => h.slice span.1 span.2 := by
  rw [Hit.groupText_eq, groupOf?_of_means hnames hr]
  rfl

end Compiled

namespace Template

/-- A template is accepted exactly if it can be read and all its references resolve. An error of the
reading goes before all else; otherwise the first reference that does not resolve is reported, with
its number and the highest one, or with its name. Further groups change nothing for a template that
is accepted. If the groups are those of a pattern, each reference means a group that every match
tells of, and it stands for nothing only where that group took no part or matched no text. -/
theorem compile_reports (template : String) (groups : List (Option String)) :
    ((∃ t, compile template groups = .ok t) ↔
      ∃ t, parse template = .ok t ∧ ∀ r ∈ t.refs, r.Resolves groups) ∧
    (∀ e, parse template = .error e → compile template groups = .error e) ∧
    (∀ tokens before r after, Decomposes template tokens →
      tokens.filterMap Token.ref? = before ++ r :: after →
      (∀ r' ∈ before, r'.Resolves groups) → ¬r.Resolves groups →
        compile template groups = .error (match r with
          | .index n => .groupOutOfRange n (groups.length - 1)
          | .name s => .unknownGroup s)) ∧
    ∀ t, compile template groups = .ok t →
      parse template = .ok t ∧
      (∀ more, compile template (groups ++ more) = .ok t) ∧
      ∀ forced pattern c, Compiled.ofPattern forced pattern = .ok c → c.groupNames = groups →
        ∀ subject, ∀ hit ∈ (c.listing (.ofString subject)).hits,
          hit.groups.length + 1 = groups.length ∧
          ∀ r ∈ t.refs, ∃ n < groups.length, r.Means groups n ∧
            ((c.groupText (.ofString subject) hit r).getD "" = "" →
              hit.group? n = none ∨ ∃ start stop, hit.group? n = some (start, stop) ∧
                (Haystack.ofString subject).slice start stop = "") := by
  refine ⟨⟨?_, ?_⟩, fun e h => compile_of_parse_error h, ?_, fun t ht => ?_⟩
  · rintro ⟨t, ht⟩
    exact ⟨t, compile_eq_ok_iff.1 ht⟩
  · rintro ⟨t, ht⟩
    exact ⟨t, compile_eq_ok_iff.2 ht⟩
  · intro tokens before r after htokens hrefs hbefore hr
    have hread := parse_of_decomposes htokens
    have herror := compile_of_first_unresolved hread
      ((Token.refs_foldr tokens).trans hrefs) hbefore hr
    cases r <;> exact herror
  · obtain ⟨hparse, hall⟩ := compile_eq_ok_iff.1 ht
    refine ⟨hparse, fun more => ?_, ?_⟩
    · exact compile_eq_ok_iff.2 ⟨hparse, fun r hr => (hall r hr).append more⟩
    · rintro forced pattern c hc rfl subject hit hhit
      refine ⟨Compiled.length_listing hc hhit, fun r hr => ?_⟩
      obtain ⟨n, hn⟩ := GroupRef.resolves_iff.1 (hall r hr)
      refine ⟨n, hn.lt, hn, fun hempty => ?_⟩
      rw [Compiled.groupText_of_means (Compiled.groupNames_apart hc) hn] at hempty
      cases hspan : hit.group? n with
      | none => exact .inl rfl
      | some span =>
        rw [hspan] at hempty
        exact .inr ⟨span.1, span.2, rfl, hempty⟩

theorem compile_reports_first :
    ∃ c, Compiled.ofPattern (some .linear) "(a)|(?<y>b)" = .ok c ∧
      compile "$\x7b1\x7d$\x7b9\x7d$\x7bz\x7d" c.groupNames = .error (.groupOutOfRange 9 2) ∧
      ∃ t, compile "$1$y" c.groupNames = .ok t ∧
        compile "$1$y" (c.groupNames ++ [some "z"]) = .ok t := by
  have hcompiled : (Compiled.ofPattern (some .linear) "(a)|(?<y>b)").map Compiled.groupNames =
      .ok [none, none, some "y"] := by cbv
  obtain ⟨c, hc, hnames⟩ := map_eq_ok.1 hcompiled
  have htokens : Decomposes "$\x7b1\x7d$\x7b9\x7d$\x7bz\x7d"
      [.braced ['1'], .braced ['9'], .braced ['z']] :=
    ⟨by decide, ⟨by decide, by decide⟩, ⟨by decide, by decide⟩, ⟨by decide, by decide⟩, trivial⟩
  have hrefs : [Token.braced ['1'], .braced ['9'], .braced ['z']].filterMap Token.ref? =
      [.index 1] ++ .index 9 :: [.name "z"] := by
    simp only [Token.ref?, ← Token.ofName_eq_reference, List.filterMap_cons, List.filterMap_nil]
    cbv
  have hfirst : ∀ r ∈ [GroupRef.index 1], r.Resolves [none, none, some "y"] :=
    List.forall_mem_singleton.2 (by decide : 1 < 3)
  have haccepted : compile "$1$y" [none, none, some "y"] =
      .ok ⟨[.group (.index 1), .group (.name "y")]⟩ := by cbv
  have hreported := (compile_reports _ [none, none, some "y"]).2.2.1 _ _ _ _ htokens
    hrefs hfirst (by decide : ¬9 < 3)
  have hmore := (compile_reports "$1$y" [none, none, some "y"]).2.2.2 _ haccepted
  refine ⟨c, hc, ?_⟩
  rw [hnames]
  exact ⟨hreported, _, haccepted, hmore.2.1 [some "z"]⟩

end Template

end RegexStudio
