import RegexStudio.Proofs.JsonWriting
import RegexStudio.Proofs.SessionReplies
import RegexStudio.Proofs.UpdateMembers

/-! Where the members of an update go: what is read as an update is one object, and each of its
members goes to one place. An update that is refused leaves no trace, and one that leaves alone what
a result depends on brings no new result. -/

namespace RegexStudio

open Json (Cursor Written Piece Reads Spells IsText afterBlanks)
open UpdateReader hiding members

variable {members : List (String × Written)}

namespace Update

/-- The members of an object each go to one place: to the field that has their name, which may be
one name out of two, or to the other members. -/
structure Routed (members : List (String × Written)) (u : Update) : Prop where
  pattern : Given ["pattern", "regex"] IsString members u.pattern
  replacement : Given ["replacement", "replace"] IsString members u.replacement
  text : Given ["text", "subject"] IsString members u.text
  modeName : Given ["method", "mode"] IsString members u.modeName
  flags : Given ["features"] IsFlags members u.flags
  versions : Given ["versions"] IsVersions members u.versions
  extra : Others members u.extra

theorem routed_iff {u : Update} :
    Routed members u ↔ ∃ f : Fields, f.Holds members ∧ f.update = u := by
  constructor
  · rintro ⟨⟨_, hpattern, hp⟩, ⟨_, hreplacement, hr⟩, ⟨_, htext, ht⟩, ⟨_, hmode, hm⟩,
      ⟨_, hflags, hf⟩, ⟨_, hversions, hv⟩, hextra⟩
    refine ⟨⟨_, _, _, _, _, _, _⟩,
      ⟨hpattern, hreplacement, htext, hmode, hflags, hversions, hextra⟩, ?_⟩
    obtain ⟨_, _, _, _, _, _, _⟩ := u
    dsimp only at hp hr ht hm hf hv
    subst hp hr ht hm hf hv
    rfl
  · rintro ⟨f, h, rfl⟩
    exact ⟨⟨_, h.pattern, rfl⟩, ⟨_, h.replacement, rfl⟩, ⟨_, h.text, rfl⟩, ⟨_, h.modeName, rfl⟩,
      ⟨_, h.flags, rfl⟩, ⟨_, h.versions, rfl⟩, h.extra⟩

/-- What is read as an update is one object whose members can be told apart. -/
theorem parse_iff {text : String} {u : Update} : Update.parse text = .ok u ↔
    ∃ ms named, IsText text (.object ms) ∧ named? ms = some named ∧ Routed named u := by
  have hobject {c : Cursor} {t : List Char} (hc : c.rest = '\x7b' :: t) (f : Fields)
      (r : List Char) :
      Reads (object field {} c) f r ↔ ∃ ms named, Spells ('\x7b' :: t) (.object ms) r ∧
        named? ms = some named ∧ f.Holds named := by
    simp only [object_iff Fields.field_steps hc, folds_iff Fields.holds_nil Fields.holds_append, hc]
  unfold Update.parse
  dsimp only
  rw [Cursor.rest_skipSpace]
  simp only [routed_iff]
  unfold IsText
  split
  · rename_i h
    rw [show (Cursor.ofText text).rest = text.toList from rfl] at h
    rw [h]
    refine iff_of_false nofun ?_
    rintro ⟨_, _, ⟨_, hx, -⟩, -⟩
    exact hx.ne_nil rfl
  · rename_i t h
    have hc : (Cursor.ofText text).skipSpace.rest = '\x7b' :: t := by
      rw [Cursor.rest_skipSpace, h]
    rw [show (Cursor.ofText text).rest = text.toList from rfl] at h
    rw [h]
    constructor
    · intro hdo
      obtain ⟨⟨f, c⟩, hread, hdo⟩ := bind_eq_ok.1 hdo
      obtain ⟨_, hend, hdo⟩ := bind_eq_ok.1 hdo
      cases hdo
      obtain ⟨ms, named, hms, hnamed, hf⟩ := (hobject hc f c.rest).1 (Json.reads_of_eq_ok hread)
      exact ⟨ms, named, ⟨c.rest, hms, Json.finish_iff.1 hend⟩, hnamed, f, hf, rfl⟩
    · rintro ⟨ms, named, ⟨r, hms, hend⟩, hnamed, f, hf, rfl⟩
      obtain ⟨c, hread, rfl⟩ := (hobject hc f r).2 ⟨ms, named, hms, hnamed, hf⟩
      exact bind_eq_ok.2 ⟨_, hread, bind_eq_ok.2 ⟨(), Json.finish_iff.2 hend, rfl⟩⟩
  · rename_i hbrace
    refine iff_of_false ?_ ?_
    · intro hmismatch
      obtain ⟨_, -, hmismatch⟩ := bind_eq_ok.1 hmismatch
      cases hmismatch
    · rintro ⟨ms, _, ⟨_, hx, -⟩, -⟩
      rw [show (Cursor.ofText text).rest = text.toList from rfl] at hbrace
      cases hx' : afterBlanks text.toList with
      | nil => exact hx.ne_nil hx'
      | cons x t =>
        rw [hx'] at hx hbrace
        cases hx
        exact hbrace _ rfl

def fieldNames : List (List String) :=
  [["pattern", "regex"], ["replacement", "replace"], ["text", "subject"], ["method", "mode"],
    ["features"], ["versions"]]

def textNames : List String :=
  ["pattern", "regex", "replacement", "replace", "text", "subject", "method", "mode"]

structure LeavesResult (u : Update) : Prop where
  pattern : u.pattern = none
  replacement : u.replacement = none
  text : u.text = none
  modeName : u.modeName = none
  engine : u.flags.bind (·.engine) = none

theorem LeavesResult.key {u : Update} (h : LeavesResult u) (w : Workspace) :
    (u.apply w).inputs.key = w.inputs.key := by
  obtain ⟨hpattern, hreplacement, htext, hmode, hengine⟩ := h
  have hflags : (u.apply w).flags.engine = w.flags.engine := by
    unfold apply
    cases hf : u.flags with
    | none => rfl
    | some f =>
      rw [hf] at hengine
      dsimp only [EngineFlagsUpdate.apply]
      rw [show f.engine = none from hengine, Option.getD_none]
  unfold Inputs.key Workspace.inputs
  rw [hflags]
  unfold apply
  rw [hpattern, hreplacement, htext, hmode]
  rfl

theorem Routed.length_le {u : Update} (h : Routed members u) {names : List String}
    (hnames : names ∈ fieldNames) : (members.filter (names.contains ·.1)).length ≤ 1 := by
  simp only [fieldNames, List.mem_cons, List.not_mem_nil, or_false] at hnames
  rcases hnames with rfl | rfl | rfl | rfl | rfl | rfl
  · exact h.pattern.length_le
  · exact h.replacement.length_le
  · exact h.text.length_le
  · exact h.modeName.length_le
  · exact h.flags.length_le
  · exact h.versions.length_le

theorem Routed.isString {u : Update} (h : Routed members u) {m : String × Written}
    (hm : m ∈ members) (hname : m.1 ∈ textNames) : m.2 = .null ∨ ∃ ps, m.2 = .string ps := by
  have hkind {a : Option String} (ha : Nullable IsString m.2 a) :
      m.2 = .null ∨ ∃ ps, m.2 = .string ps := by
    cases a with
    | none => exact .inl ha
    | some s =>
      obtain ⟨ps, hps, -⟩ := ha
      exact .inr ⟨ps, hps⟩
  have hsplit : (m.1 ∈ ["pattern", "regex"] ∨ m.1 ∈ ["replacement", "replace"]) ∨
      m.1 ∈ ["text", "subject"] ∨ m.1 ∈ ["method", "mode"] := by
    simpa [textNames, or_assoc] using hname
  rcases hsplit with (h' | h') | h' | h'
  · exact hkind (h.pattern.nullable hm h')
  · exact hkind (h.replacement.nullable hm h')
  · exact hkind (h.text.nullable hm h')
  · exact hkind (h.modeName.nullable hm h')

theorem Routed.drop_null {u : Update} {before after : List (String × Written)} {key : String}
    (h : Routed (before ++ (key, .null) :: after) u) (hkey : key ∈ known) :
    Routed (before ++ after) u := by
  have hstring (s : String) : ¬IsString .null s := fun ⟨_, h, _⟩ => nomatch h
  exact ⟨h.pattern.drop_null hstring, h.replacement.drop_null hstring, h.text.drop_null hstring,
    h.modeName.drop_null hstring, h.flags.drop_null nofun, h.versions.drop_null nofun,
    h.extra.drop hkey⟩

theorem refused_of_not {text : String} (h : ∀ u, Update.parse text ≠ .ok u) :
    ∃ fault, Update.parse text = .error fault := by
  cases hp : Update.parse text with
  | error fault => exact ⟨fault, rfl⟩
  | ok u => exact absurd hp (h u)

theorem parse_unique {text : String} {u : Update} {ms : List (List Piece × Written)}
    {named : List (String × Written)} (hp : Update.parse text = .ok u)
    (hms : IsText text (.object ms)) (hnamed : named? ms = some named) : Routed named u := by
  obtain ⟨ms', named', hms', hnamed', h⟩ := parse_iff.1 hp
  cases hms.unique hms'
  cases hnamed.symm.trans hnamed'
  exact h

theorem not_blank {text : String} {u : Update} (hp : Update.parse text = .ok u) :
    ¬Session.Blank text := by
  intro hblank
  obtain ⟨ms, _, ⟨_, hx, -⟩, -⟩ := parse_iff.1 hp
  cases ht : afterBlanks text.toList with
  | nil => exact hx.ne_nil ht
  | cons c t =>
    rw [ht] at hx
    have hc := hblank c ((List.dropWhile_sublist _).subset
      (show c ∈ afterBlanks text.toList by rw [ht]; exact List.mem_cons_self))
    cases hx
    revert hc
    decide

/-- An update is one object, and each member goes to its field or to the others; a second member
for a field, a text that is none, and any other value are refused, and `null` says nothing. What is
refused changes neither the store nor the cache, and an update that leaves alone what a result
depends on is answered with the result before it. -/
theorem parse_routes (text : String) :
    (∀ u, Update.parse text = .ok u ↔ ∃ ms named,
      IsText text (.object ms) ∧ named? ms = some named ∧ Routed named u) ∧
    ((¬∃ ms, IsText text (.object ms)) → ∃ fault, Update.parse text = .error fault) ∧
    (∀ ms named, IsText text (.object ms) → named? ms = some named →
      (∀ names ∈ fieldNames, 1 < (named.filter (names.contains ·.1)).length →
        ∃ fault, Update.parse text = .error fault) ∧
      (∀ m ∈ named, m.1 ∈ textNames → m.2 ≠ .null → (∀ ps, m.2 ≠ .string ps) →
        ∃ fault, Update.parse text = .error fault) ∧
      (∀ before after key, named = before ++ (key, .null) :: after → key ∈ known →
        ∀ text' ms', IsText text' (.object ms') → named? ms' = some (before ++ after) →
          ∀ u, Update.parse text = .ok u → Update.parse text' = .ok u)) ∧
    (∀ fault, Update.parse text = .error fault → ∀ (b : Backend) (s : Session),
      ∃ answer s', s.feed b text = .ok (answer, s') ∧ s'.store = s.store ∧ s'.cache = s.cache ∧
        ∀ f, .snapshot f ∉ answer.replies) ∧
    (∀ u, Update.parse text = .ok u → LeavesResult u →
      (∀ w : Workspace, (u.apply w).inputs.key = w.inputs.key) ∧
      ∀ (b : Backend) (initial : Workspace) (s : Session) (f : Snapshot),
        Session.Reached b initial s f → ∃ answer s' f', s.feed b text = .ok (answer, s') ∧
          answer.replies = [.snapshot f'] ∧ f'.recomputed = false ∧
          f'.generation = f.generation ∧ f'.result = f.result) := by
  refine ⟨fun u => parse_iff, fun h => refused_of_not fun u hp => ?_, fun ms named hms hnamed =>
    ⟨fun names hnames htwo => refused_of_not fun u hp => ?_,
      fun m hm hname hnull hstring => refused_of_not fun u hp => ?_,
      fun before after key hsplit hkey text' ms' hms' hnamed' u hp => ?_⟩,
    fun fault hp b s => ?_, fun u hp h => ⟨h.key, fun b initial s f hs => ?_⟩⟩
  · obtain ⟨ms, _, hms, -⟩ := parse_iff.1 hp
    exact h ⟨ms, hms⟩
  · exact absurd ((parse_unique hp hms hnamed).length_le hnames) (Nat.not_le_of_lt htwo)
  · obtain hnull' | ⟨ps, hps⟩ := (parse_unique hp hms hnamed).isString hm hname
    · exact hnull hnull'
    · exact hstring ps hps
  · have hrouted := parse_unique hp hms hnamed
    rw [hsplit] at hrouted
    exact parse_iff.2 ⟨ms', _, hms', hnamed', hrouted.drop_null hkey⟩
  · by_cases hblank : Session.Blank text
    · exact ⟨_, s, Session.feed_blank hblank, rfl, rfl, fun f hf => nomatch hf⟩
    · refine ⟨_, _, Session.feed_refused hblank hp, rfl, rfl, fun f hf => ?_⟩
      cases List.mem_singleton.1 hf
  · exact hs.feed_unchanged (not_blank hp) hp h.key

theorem parse_routes_alias :
    (∃ fault, Update.parse "\x7b\"text\":null,\"subject\":\"a\"\x7d" = .error fault) ∧
    (∃ fault, Update.parse "\x7b\"mode\":1\x7d" = .error fault) ∧
    (∃ fault, Update.parse "[]" = .error fault) ∧
    Update.parse "\x7b\"note\":1\x7d" = .ok { extra := [("note", .integer 1)] } ∧
    ∃ (s : Session) (f : Snapshot) (answer : Answer) (s' : Session) (f' : Snapshot),
      Session.Reached (.ofEngine none) { pattern := "a" } s f ∧
      s.feed (.ofEngine none) "\x7b\"regex\":null,\"note\":1\x7d" = .ok (answer, s') ∧
      (answer.replies = [.snapshot f'] ∧ f'.recomputed = false ∧ f'.generation = f.generation ∧
        f'.result = f.result) ∧
      ∃ answer s'', s.feed (.ofEngine none) "[]" = .ok (answer, s'') ∧ s''.store = s.store ∧
        s''.cache = s.cache ∧ ∀ f, .snapshot f ∉ answer.replies := by
  have htree {j : Json} {text : String} (hj : Json.exact j = true) (ht : j.compact = text) :
      IsText text j.written := ht ▸ Json.isText_compact hj
  have htwice := ((parse_routes "\x7b\"text\":null,\"subject\":\"a\"\x7d").2.2.1 _ _
    (htree (j := .object [("text", .null), ("subject", .string "a")]) rfl (by cbv)) rfl).1
    ["text", "subject"] (by decide) (by decide)
  have hnumber := ((parse_routes "\x7b\"mode\":1\x7d").2.2.1 _ _
    (htree (j := .object [("mode", .integer 1)]) rfl (by cbv)) rfl).2.1 _ List.mem_cons_self
    (by decide) (fun h => by cases h) (fun _ h => by cases h)
  have hlist := (parse_routes "[]").2.1 (by
    rintro ⟨ms, hms⟩
    cases hms.unique (htree (j := .array []) rfl (by cbv)))
  have hp : Update.parse "\x7b\"regex\":null,\"note\":1\x7d" =
      .ok { extra := [("note", .integer 1)] } := by cbv
  have hnull := ((parse_routes "\x7b\"regex\":null,\"note\":1\x7d").2.2.1 _ _
    (htree (j := .object [("regex", .null), ("note", .integer 1)]) rfl (by cbv)) rfl).2.2 []
    [("note", .number (Json.numeral 1))] "regex" rfl (by decide) "\x7b\"note\":1\x7d" _
    (htree (j := .object [("note", .integer 1)]) rfl (by cbv)) rfl _ hp
  obtain ⟨_, s, hstart, hreplies, -⟩ := Session.start_ok
    (b := .ofEngine none) (w := { pattern := "a" }) (r := .find []) (by cbv)
  have hs := Session.Reached.start hstart hreplies
  obtain ⟨fault, hfault⟩ := hlist
  obtain ⟨answer, s', f', hfeed, h⟩ :=
    ((parse_routes "\x7b\"regex\":null,\"note\":1\x7d").2.2.2.2 _ hp
      ⟨rfl, rfl, rfl, rfl, rfl⟩).2 _ _ _ _ hs
  exact ⟨htwice, hnumber, ⟨fault, hfault⟩, hnull, s, _, answer, s', f', hs, hfeed, h,
    (parse_routes "[]").2.2.2.1 fault hfault _ s⟩

end Update

end RegexStudio
