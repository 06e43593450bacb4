import RegexStudio.Proofs.OutputRoundTrip

/-! Results that leave the program as text and come back. What is written is read as what it was, on
one line and over several; an outline that was read keeps to the bounds of the reader, so it can be
written and read again. -/

namespace RegexStudio

namespace Json

variable {depth : Nat} {j : Json} {members members' : List (String × Json)}

@[simp] theorem fitsMembers_append : FitsMembers depth (members ++ members') ↔
    FitsMembers depth members ∧ FitsMembers depth members' := by
  induction members with
  | nil => exact (true_and _).symm ▸ Iff.rfl
  | cons m members ih => rw [List.cons_append, FitsMembers, FitsMembers, ih, and_assoc]

theorem fitsMembers_optional {key : String} {value : Option Json}
    (h : ∀ j, value = some j → Fits depth j) : FitsMembers depth (optional key value) := by
  cases value with
  | none => trivial
  | some j => exact ⟨h j rfl, trivial⟩

theorem field_eq_null (h : members.lookup key = none) : (object members).field key = .null := by
  rw [field_object, h]
  rfl

theorem field_mem (members : List (String × Json)) (key : String) :
    (object members).field key = .null ∨ (key, (object members).field key) ∈ members := by
  rw [field_object]
  cases hlookup : members.lookup key with
  | none => exact .inl rfl
  | some v =>
    obtain ⟨before, after, rfl, -⟩ := List.lookup_eq_some_iff.1 hlookup
    exact .inr (by simp)

theorem record?_cases {names : List String} {r : Json} (h : j.record? names = some r) :
    (∃ members, j = .object members ∧
      ∀ key, r.field key = .null ∨ (key, r.field key) ∈ members) ∨
    ∃ items, j = .array items ∧ ∀ key, r.field key = .null ∨ r.field key ∈ items := by
  cases j with
  | object members =>
    cases h
    exact .inl ⟨members, rfl, field_mem members⟩
  | array items =>
    simp only [record?, Option.ite_none_right_eq_some, Option.some.injEq] at h
    obtain ⟨-, rfl⟩ := h
    exact .inr ⟨items, rfl, fun key =>
      (field_mem _ key).imp_right fun hmem => (List.of_mem_zip hmem).2⟩
  | _ => cases h

theorem Within.record {names : List String} {r : Json} (hj : Within depth j)
    (hr : j.record? names = some r) :
    0 < depth ∧ ∀ key, Within (depth - 1) (r.field key) := by
  obtain ⟨members, rfl, hfield⟩ | ⟨items, rfl, hfield⟩ := record?_cases hr
  · refine ⟨hj.1, fun key => ?_⟩
    obtain hnull | hmem := hfield key
    · exact hnull ▸ trivial
    · exact withinMembers_iff.1 hj.2 _ hmem
  · refine ⟨hj.1, fun key => ?_⟩
    obtain hnull | hmem := hfield key
    · exact hnull ▸ trivial
    · exact withinItems_iff.1 hj.2 _ hmem

theorem Sorted.record {names : List String} {r : Json} (hj : Sorted j)
    (hr : j.record? names = some r) (key : String) : Sorted (r.field key) := by
  obtain ⟨members, rfl, hfield⟩ | ⟨items, rfl, hfield⟩ := record?_cases hr
  · obtain hnull | hmem := hfield key
    · exact hnull ▸ trivial
    · exact sortedMembers_iff.1 hj.2 _ hmem
  · obtain hnull | hmem := hfield key
    · exact hnull ▸ trivial
    · exact sortedItems_iff.1 hj _ hmem

theorem Within.natural {n : Nat} (hj : Within depth j) (h : j.natural? = some n) :
    IsInteger n := by
  cases j with
  | integer z =>
    simp only [natural?, Option.ite_none_right_eq_some, Option.some.injEq] at h
    obtain ⟨hz, rfl⟩ := h
    rwa [Int.toNat_of_nonneg hz]
  | _ => cases h

theorem maybe?_eq_some {α : Type} {read : Json → Option α} {value : α}
    (h : j.maybe? read = some (some value)) : read j = some value := by
  unfold maybe? at h
  split at h
  · cases h
  · simpa using h

end Json

open Json (normal Fits FitsMembers FitsItems Within)

namespace Outline

variable {depth : Nat} {j : Json}

theorem Range.fits_of_ofJson? {r : Range} (h : Range.ofJson? j = some r) (hj : Within depth j) :
    Fits depth r.toJson := by
  simp only [Range.ofJson?, Option.bind_eq_bind, Option.bind_eq_some_iff] at h
  obtain ⟨r', hr, start, hstart, stop, hstop, h⟩ := h
  obtain ⟨hdepth, hfield⟩ := hj.record hr
  cases h
  exact ⟨hdepth, (hfield _).natural hstart, (hfield _).natural hstop, trivial⟩

theorem Label.fits_of_ofJson? {l : Label} (h : Label.ofJson? j = some l) (hj : Within depth j) :
    0 < depth ∧ FitsMembers (depth - 1) l.members := by
  simp only [Label.ofJson?, Option.bind_eq_bind, Option.bind_eq_some_iff] at h
  obtain ⟨r, hr, kind, -, text, -, span, hspan, detail, -, group, hgroup, h⟩ := h
  obtain ⟨hdepth, hfield⟩ := hj.record hr
  cases h
  refine ⟨hdepth, ?_⟩
  rw [Label.members, Json.fitsMembers_append, Json.fitsMembers_append, Json.fitsMembers_append]
  refine ⟨⟨⟨⟨trivial, trivial, trivial⟩, ?_⟩, ?_⟩, ?_⟩
  · refine Json.fitsMembers_optional fun v hv => ?_
    obtain ⟨range, rfl, rfl⟩ := Option.map_eq_some_iff.1 hv
    exact Range.fits_of_ofJson? (Json.maybe?_eq_some hspan) (hfield _)
  · refine Json.fitsMembers_optional fun v hv => ?_
    obtain ⟨text, -, rfl⟩ := Option.map_eq_some_iff.1 hv
    trivial
  · refine Json.fitsMembers_optional fun v hv => ?_
    obtain ⟨n, rfl, rfl⟩ := Option.map_eq_some_iff.1 hv
    exact (hfield _).natural (Json.maybe?_eq_some hgroup)

theorem nodesOfJson?_cons {item : Json} {items : List Json} {ns : List Node}
    (h : nodesOfJson? (item :: items) = some ns) :
    ∃ n rest, Node.ofJson? item = some n ∧ nodesOfJson? items = some rest ∧ ns = n :: rest := by
  simp only [nodesOfJson?, Option.bind_eq_bind, Option.bind_eq_some_iff] at h
  obtain ⟨n, hn, rest, hrest, h⟩ := h
  exact ⟨n, rest, hn, hrest, (Option.some.inj h).symm⟩

theorem children?_eq_some {value : Option Json} {ns : List Node} (h : children? value = some ns) :
    (value = none ∧ ns = []) ∨
      ∃ items, value = some (.array items) ∧ nodesOfJson? items = some ns := by
  unfold children? at h
  split at h
  · exact .inl ⟨rfl, (Option.some.inj h).symm⟩
  · exact .inr ⟨_, rfl, h⟩
  · cases h

theorem Node.ofJson?_object {members : List (String × Json)} {n : Node}
    (h : ofJson? (.object members) = some n) :
    Label.ofJson? (.object members) = some n.label ∧
      children? (members.lookup "children") = some n.children := by
  simp only [ofJson?, childrenOf?_eq, Option.bind_eq_bind, Option.bind_eq_some_iff] at h
  obtain ⟨label, hlabel, children, hchildren, h⟩ := h
  cases h
  exact ⟨hlabel, hchildren⟩

theorem Node.parts_of_ofJson? {n : Node} (h : Node.ofJson? j = some n) (hj : Within depth j) :
    (0 < depth ∧ FitsMembers (depth - 1) n.label.members) ∧
      ∃ items, nodesOfJson? items = some n.children ∧
        ∀ item ∈ items, 0 < depth - 1 ∧ Within (depth - 1 - 1) item := by
  have harray {items : List Json} (h : Within (depth - 1) (.array items)) :
      ∀ item ∈ items, 0 < depth - 1 ∧ Within (depth - 1 - 1) item :=
    fun item hitem => ⟨h.1, Json.withinItems_iff.1 h.2 item hitem⟩
  unfold Node.ofJson? at h
  split at h
  -- an object, the fields without children in a row, all six fields in a row
  · obtain ⟨hlabel, hchildren⟩ := Node.ofJson?_object h
    refine ⟨Label.fits_of_ofJson? hlabel hj, ?_⟩
    obtain ⟨-, hnil⟩ | ⟨items, hitems, hread⟩ := children?_eq_some hchildren
    · exact ⟨[], congrArg some hnil.symm, nofun⟩
    · obtain ⟨before, after, rfl, -⟩ := List.lookup_eq_some_iff.1 hitems
      exact ⟨items, hread,
        harray (Json.withinMembers_iff.1 hj.2 ("children", .array items) (by simp))⟩
  · simp only [Option.bind_eq_bind, Option.bind_eq_some_iff] at h
    obtain ⟨label, hlabel, h⟩ := h
    cases h
    exact ⟨Label.fits_of_ofJson? hlabel hj, [], rfl, nofun⟩
  · simp only [Option.bind_eq_bind, Option.bind_eq_some_iff] at h
    obtain ⟨label, hlabel, children, hchildren, h⟩ := h
    cases h
    have hitems := Json.withinItems_iff.1 hj.2
    refine ⟨Label.fits_of_ofJson? hlabel ⟨hj.1, Json.withinItems_iff.2 fun v hv => ?_⟩, _,
      hchildren, harray (hitems _ (by simp))⟩
    exact hitems v (List.mem_append_left [_] hv)
  · cases h

theorem fits_of_nodesOfJson? {items : List Json} {ns : List Node} (h : nodesOfJson? items = some ns)
    (hitems : ∀ item ∈ items, ∀ n, Node.ofJson? item = some n → Fits depth n.toJson) :
    FitsItems depth (nodesToJson ns) := by
  induction items generalizing ns with
  | nil =>
    cases h
    trivial
  | cons item items ih =>
    obtain ⟨n, rest, hn, hrest, rfl⟩ := nodesOfJson?_cons h
    exact ⟨hitems item List.mem_cons_self n hn,
      ih hrest fun item hitem => hitems item (List.mem_cons_of_mem _ hitem)⟩

theorem Node.fits_of_ofJson? {n : Node} (h : Node.ofJson? j = some n) (hj : Within depth j) :
    Json.Fits depth n.toJson := by
  -- on the depth: the children stand two levels further down, in whichever form the node came
  induction depth using Nat.strong_induction_on generalizing j n with
  | _ depth ih =>
    obtain ⟨⟨hdepth, hlabel⟩, items, hread, hitems⟩ := Node.parts_of_ofJson? h hj
    have hchildren : Json.FitsItems (depth - 1 - 1) (nodesToJson n.children) :=
      fits_of_nodesOfJson? hread fun item hitem m hm =>
        ih (depth - 1 - 1) (by omega) hm (hitems item hitem).2
    match n with
    | .mk label [] => exact ⟨hdepth, hlabel⟩
    | .mk label (child :: children) =>
      refine ⟨hdepth, Json.fitsMembers_append.2 ⟨hlabel, ⟨?_, hchildren⟩, trivial⟩⟩
      obtain _ | ⟨item, items⟩ := items
      · cases hread
      · exact (hitems item List.mem_cons_self).1

theorem fits_of_ofJson? {o : Outline} (h : ofJson? j = some o) (hj : Within depth j) :
    Fits depth o.toJson := by
  simp only [ofJson?, Option.bind_eq_bind, Option.bind_eq_some_iff] at h
  obtain ⟨r, hr, engine, -, root, hroot, h⟩ := h
  obtain ⟨hdepth, hfield⟩ := hj.record hr
  cases h
  exact ⟨hdepth, trivial, Node.fits_of_ofJson? hroot (hfield _), trivial⟩

end Outline

theorem Workspace.sorted_of_ofJson? {j : Json} {w : Workspace} (h : ofJson? j = some w)
    (hj : Json.Sorted j) : Json.Sorted (.object w.extra) := by
  rw [ofJson?, Option.bind_eq_bind, Option.bind_eq_some_iff] at h
  obtain ⟨r, hr, h⟩ := h
  split at h
  · rename_i members hmembers
    simp only [Option.bind_eq_bind, Option.bind_some, Option.bind_eq_some_iff] at h
    obtain ⟨_, -, _, -, _, -, _, -, _, -, _, -, h⟩ := h
    cases h
    exact hmembers ▸ hj.record hr "extra"
  · cases h

def LeavesOut {α β : Type} (read : Json → Option α) (key : String) (part : α → β) (missing : β) :
    Prop :=
  ∀ members a, members.lookup key = none → read (.object members) = some a → part a = missing

theorem leavesOut_of_maybe? {α β : Type} {read : Json → Option α} {inner : Json → Option β}
    {key : String} {part : α → Option β}
    (h : ∀ members a, read (.object members) = some a →
      ((Json.object members).field key).maybe? inner = some (part a)) :
    LeavesOut read key part none := fun members a hkey hread => by
  have hpart := h members a hread
  rw [Json.field_eq_null hkey] at hpart
  exact (Option.some.inj hpart).symm

theorem Capture.leavesOut_name : LeavesOut ofJson? "name" Capture.name none :=
  leavesOut_of_maybe? fun members c h => by
    simp only [ofJson?, Json.record?, Option.bind_eq_bind, Option.bind_some,
      Option.bind_eq_some_iff] at h
    obtain ⟨_, _, name, hname, _, _, _, _, _, _, h⟩ := h
    cases h
    exact hname

theorem PatternError.leavesOut_position : LeavesOut ofJson? "position" PatternError.position none :=
  leavesOut_of_maybe? fun members e h => by
    simp only [ofJson?, Json.record?, Option.bind_eq_bind, Option.bind_some,
      Option.bind_eq_some_iff] at h
    obtain ⟨_, _, position, hposition, h⟩ := h
    cases h
    exact hposition

theorem EngineFlags.leavesOut_error :
    LeavesOut ofJson? "engine_error" EngineFlags.engineError none :=
  leavesOut_of_maybe? fun members f h => by
    simp only [ofJson?, Json.record?, Option.bind_eq_bind, Option.bind_some,
      Option.bind_eq_some_iff] at h
    obtain ⟨_, _, error, herror, _, _, h⟩ := h
    cases h
    exact herror

theorem Versions.maybe?_fields {members : List (String × Json)} {v : Versions}
    (h : ofJson? (.object members) = some v) :
    ((Json.object members).field "regex").maybe? Json.text? = some v.regex ∧
      ((Json.object members).field "regex_syntax").maybe? Json.text? = some v.regexSyntax := by
  simp only [ofJson?, Json.record?, Option.bind_eq_bind, Option.bind_some,
    Option.bind_eq_some_iff] at h
  obtain ⟨regex, hregex, parser, hparser, h⟩ := h
  cases h
  exact ⟨hregex, hparser⟩

namespace Outline

theorem Label.maybe?_fields {members : List (String × Json)} {l : Label}
    (h : ofJson? (.object members) = some l) :
    ((Json.object members).field "span").maybe? Range.ofJson? = some l.span ∧
      ((Json.object members).field "detail").maybe? Json.text? = some l.detail ∧
      ((Json.object members).field "group").maybe? Json.natural? = some l.group := by
  simp only [ofJson?, Json.record?, Option.bind_eq_bind, Option.bind_some,
    Option.bind_eq_some_iff] at h
  obtain ⟨kind, -, text, -, span, hspan, detail, hdetail, group, hgroup, h⟩ := h
  cases h
  exact ⟨hspan, hdetail, hgroup⟩

theorem Node.leavesOut_children : LeavesOut ofJson? "children" Node.children [] :=
  fun members n hkey h => by
    have hchildren := (Node.ofJson?_object h).2
    rw [hkey] at hchildren
    exact (Option.some.inj hchildren).symm

end Outline

def Json.Encodes (j : Json) (text : String) : Prop := text = j.compact ∨ text = j.pretty

/-- Both texts of a value hold one and the same value, which is read as `a`. -/
def ReadsBack {α : Type} (read : Json → Option α) (j : Json) (a : α) : Prop :=
  ∃ v, (∀ text, j.Encodes text → Json.parse text = .ok v) ∧ read v = some a

theorem Json.Fits.readsBack {α : Type} {read : Json → Option α} {j : Json} {a : α}
    (h : Fits Reader.depthLimit j) (hread : read (normal j) = some a) : ReadsBack read j a := by
  obtain ⟨hcompact, hpretty⟩ := parse_written h
  refine ⟨normal j, fun text htext => ?_, hread⟩
  obtain rfl | rfl := htext
  · exact hcompact
  · exact hpretty

theorem Json.Encodes.isText {j : Json} {text : String} (h : j.Encodes text)
    (hj : exact j = true) : IsText text (written j) := by
  obtain rfl | rfl := h
  · exact isText_compact hj
  · exact isText_pretty hj

theorem Evaluation.eq_of_encodes {e e' : Evaluation} {text : String} (h : e.toJson.Encodes text)
    (h' : e'.toJson.Encodes text) : e = e' :=
  normal_toJson_injective (congrArg Json.normal (Json.eq_of_text e.exact_toJson e'.exact_toJson
    (h.isText e.exact_toJson) (h'.isText e'.exact_toJson)))

/-- What the program writes is read as what it was. Of outlines, matches, errors and workspaces the
text on one line and the one over several hold the same value, from which the same outline, matches,
error or workspace is read; the members of `extra` are sorted, as they are in every workspace that
was read. What an object leaves out is read as nothing. Results of evaluations that differ have no
text in common and no value either, whatever the order of the members. And an outline that was read
from any text at all, with `null`, with nothing or with an empty list in place of what it does not
have, is read again as what it is from the text that is written of it. -/
theorem output_reads_back :
    ((∀ o : Outline, Fits Json.Reader.depthLimit o.toJson →
        ReadsBack Outline.ofJson? o.toJson o) ∧
      (∀ ms : List Match, Fits Json.Reader.depthLimit (.array (ms.map Match.toJson)) →
        ReadsBack Match.listOfJson? (.array (ms.map Match.toJson)) ms) ∧
      (∀ e : PatternError, Fits Json.Reader.depthLimit e.toJson →
        ReadsBack PatternError.ofJson? e.toJson e) ∧
      (∀ e : ReplacementError, Fits Json.Reader.depthLimit e.toJson →
        ReadsBack ReplacementError.ofJson? e.toJson e) ∧
      (∀ w : Workspace, Json.Sorted (.object w.extra) → Fits Json.Reader.depthLimit w.toJson →
        ReadsBack Workspace.ofJson? w.toJson w) ∧
      ∀ (text : String) (j : Json) (w : Workspace), Json.parse text = .ok j →
        Workspace.ofJson? j = some w → Json.Sorted (.object w.extra)) ∧
    (LeavesOut Capture.ofJson? "name" Capture.name none ∧
      LeavesOut PatternError.ofJson? "position" PatternError.position none ∧
      LeavesOut EngineFlags.ofJson? "engine_error" EngineFlags.engineError none ∧
      LeavesOut Versions.ofJson? "regex" Versions.regex none ∧
      LeavesOut Versions.ofJson? "regex_syntax" Versions.regexSyntax none ∧
      LeavesOut Outline.Node.ofJson? "span" (·.label.span) none ∧
      LeavesOut Outline.Node.ofJson? "detail" (·.label.detail) none ∧
      LeavesOut Outline.Node.ofJson? "group" (·.label.group) none ∧
      LeavesOut Outline.Node.ofJson? "children" Outline.Node.children []) ∧
    ((∀ (e e' : Evaluation) (text : String), e.toJson.Encodes text → e'.toJson.Encodes text →
        e = e') ∧
      ∀ e e' : Evaluation, normal e.toJson = normal e'.toJson → e = e') ∧
    ∀ (text : String) (j : Json) (o : Outline), Json.parse text = .ok j →
      Outline.ofJson? j = some o → ReadsBack Outline.ofJson? o.toJson o := by
  refine ⟨?_, ?_, ?_, ?_⟩
  · exact ⟨fun o h => h.readsBack o.ofJson?_normal,
      fun ms h => h.readsBack (Match.listOfJson?_normal ms),
      fun e h => h.readsBack e.ofJson?_normal, fun e h => h.readsBack e.ofJson?_normal,
      fun w hextra h => h.readsBack (w.ofJson?_normal hextra),
      fun text j w hj hw => Workspace.sorted_of_ofJson? hw (Json.sorted_of_parse hj)⟩
  · refine ⟨Capture.leavesOut_name, PatternError.leavesOut_position, EngineFlags.leavesOut_error,
      leavesOut_of_maybe? fun _ _ h => (Versions.maybe?_fields h).1,
      leavesOut_of_maybe? fun _ _ h => (Versions.maybe?_fields h).2, ?_, ?_, ?_,
      Outline.Node.leavesOut_children⟩
    · exact leavesOut_of_maybe? fun _ _ h =>
        (Outline.Label.maybe?_fields (Outline.Node.ofJson?_object h).1).1
    · exact leavesOut_of_maybe? fun _ _ h =>
        (Outline.Label.maybe?_fields (Outline.Node.ofJson?_object h).1).2.1
    · exact leavesOut_of_maybe? fun _ _ h =>
        (Outline.Label.maybe?_fields (Outline.Node.ofJson?_object h).1).2.2
  · exact ⟨fun _ _ _ => Evaluation.eq_of_encodes,
      fun _ _ h => Evaluation.normal_toJson_injective h⟩
  · intro text j o hj ho
    exact (Outline.fits_of_ofJson? ho (Json.within_of_parse hj)).readsBack o.ofJson?_normal

theorem output_reads_back_quoted :
    let o : Outline := ⟨"regex", .mk { kind := "concat", text := "a\"", span := some ⟨0, 2⟩ }
      [.mk { kind := "capturing_group", text := "\\\u0001", group := some 1 } []]⟩
    let ms : List Match := [{ text := "\"", start := 0, stop := 1, captures := [] }]
    let e : PatternError := { message := "no", position := some 3 }
    let r : ReplacementError := .unknownGroup "x"
    let w : Workspace := { extra := [("theme", .string "dark")] }
    let c : Capture := { group := 1, name := none, text := "a", start := 0, stop := 1 }
    let j : Json := .object [("engine", .string "regex"), ("root", .object [("children", .array []),
      ("kind", .string "empty"), ("span", .null), ("text", .string "")])]
    let o' : Outline := ⟨"regex", .mk { kind := "empty", text := "" } []⟩
    ReadsBack Outline.ofJson? o.toJson o ∧
    ReadsBack Match.listOfJson? (.array (ms.map Match.toJson)) ms ∧
    ReadsBack PatternError.ofJson? e.toJson e ∧ ReadsBack ReplacementError.ofJson? r.toJson r ∧
    ReadsBack Workspace.ofJson? w.toJson w ∧ Json.Sorted (.object w.extra) ∧
    (Capture.ofJson? c.toJson = some c → c.name = none) ∧
    (Evaluation.replace "").toJson.compact ≠ Evaluation.empty.toJson.compact ∧
    normal (Evaluation.replace "").toJson ≠ normal Evaluation.empty.toJson ∧
    Json.parse ("\x7b\"engine\":\"regex\",\"root\":\x7b\"kind\":\"empty\",\"text\":\"\"," ++
        "\"span\":null,\"children\":[]\x7d\x7d") = .ok j ∧
      Outline.ofJson? j = some o' ∧ ReadsBack Outline.ofJson? o'.toJson o' := by
  intro o ms e r w c j o'
  obtain ⟨⟨houtline, hmatches, hpattern, hreplacement, hworkspace, hsorted⟩, ⟨hname, -⟩,
    ⟨htext, hvalue⟩, hreread⟩ := output_reads_back
  have hw : ReadsBack Workspace.ofJson? w.toJson w := by
    refine hworkspace w ⟨List.pairwise_singleton _ _, trivial, trivial⟩ ?_
    simp [w, Workspace.toJson, EngineFlags.toJson, Versions.toJson, Json.optional, Fits,
      FitsMembers, Json.Reader.depthLimit]
  obtain ⟨v, hv, hvw⟩ := hw
  have hdiffer : Evaluation.replace "" ≠ .empty := Evaluation.noConfusion
  have htree := Json.isText_compact (j := .object [("engine", .string "regex"), ("root", .object
    [("kind", .string "empty"), ("text", .string ""), ("span", .null), ("children", .array [])])])
    rfl
  have hj := Json.parse_iff.2 ⟨_, htree, rfl⟩
  have ho' : Outline.ofJson? j = some o' := rfl
  refine ⟨houtline o ?_, hmatches ms ?_, hpattern e ?_, hreplacement r ?_, ⟨v, hv, hvw⟩,
    hsorted _ v w (hv _ (.inl rfl)) hvw, hname _ c rfl,
    fun h => hdiffer (htext _ _ _ (.inl rfl) (.inl h)), fun h => hdiffer (hvalue _ _ h), hj, ho',
    hreread _ _ _ hj ho'⟩
  · simp [o, Outline.toJson, Outline.Node.toJson, Outline.nodesToJson, Outline.Label.members,
      Outline.Range.toJson, Json.optional, Fits, FitsMembers, FitsItems, Json.natural,
      Json.IsInteger, Json.Reader.depthLimit, Json.Reader.maxNatural, Json.Double.signBit]
  · simp [ms, Match.toJson, Fits, FitsMembers, FitsItems, Json.natural,
      Json.IsInteger, Json.Reader.depthLimit, Json.Reader.maxNatural, Json.Double.signBit]
  · simp [e, PatternError.toJson, Json.optional, Fits, FitsMembers, Json.natural,
      Json.IsInteger, Json.Reader.depthLimit, Json.Reader.maxNatural, Json.Double.signBit]
  · simp [r, ReplacementError.toJson, Fits, FitsMembers, Json.Reader.depthLimit]

end RegexStudio
