import RegexStudio.Proofs.UpdateFields

/-! The members of an update. For each of the three records that are read from objects: what its
fields hold after some members, what one member more does to them, and that the reader takes just
these steps. -/

namespace RegexStudio

namespace UpdateReader

open Json (Cursor Written Piece Reads Spells Items afterBlanks)
open Json.Reader

variable {c : Cursor} {t r : List Char} {members : List (String × Written)}
  {m : String × Written}

attribute [ext] FlagFields VersionFields Fields

namespace FlagFields

structure Holds (members : List (String × Written)) (f : FlagFields) : Prop where
  engine : Slot ["engine"] IsBool members f.engine
  engineError : Slot ["engine_error"] IsString members f.engineError
  completed : Slot ["completed"] IsBool members f.completed

@[mk_iff]
structure Step (key : String) (x : Written) (f f' : FlagFields) : Prop where
  engine : Change ["engine"] IsBool (key, x) f.engine f'.engine
  engineError : Change ["engine_error"] IsString (key, x) f.engineError f'.engineError
  completed : Change ["completed"] IsBool (key, x) f.completed f'.completed

theorem holds_nil (f : FlagFields) : Holds [] f ↔ f = {} := by
  constructor
  · rintro ⟨hengine, herror, hcompleted⟩
    obtain ⟨_, _, _⟩ := f
    cases slot_nil.1 hengine
    cases slot_nil.1 herror
    cases slot_nil.1 hcompleted
    rfl
  · rintro rfl
    exact ⟨slot_nil.2 rfl, slot_nil.2 rfl, slot_nil.2 rfl⟩

theorem holds_append (members : List (String × Written)) (m : String × Written) (f' : FlagFields) :
    Holds (members ++ [m]) f' ↔ ∃ f, Holds members f ∧ Step m.1 m.2 f f' := by
  constructor
  · rintro ⟨hengine, herror, hcompleted⟩
    obtain ⟨engine, hengine, hengine'⟩ := slot_append.1 hengine
    obtain ⟨engineError, herror, herror'⟩ := slot_append.1 herror
    obtain ⟨completed, hcompleted, hcompleted'⟩ := slot_append.1 hcompleted
    exact ⟨⟨engine, engineError, completed⟩, ⟨hengine, herror, hcompleted⟩,
      hengine', herror', hcompleted'⟩
  · rintro ⟨f, h, hs⟩
    exact ⟨slot_append.2 ⟨_, h.engine, hs.engine⟩, slot_append.2 ⟨_, h.engineError, hs.engineError⟩,
      slot_append.2 ⟨_, h.completed, hs.completed⟩⟩

theorem flagField_steps : Steps flagField Step := by
  intro key f c f' r
  unfold flagField
  split
  · refine fill_bind_iff flag?_iff (g := fun engine => { f with engine }) fun x => ?_
    simp [step_iff, Change, FlagFields.ext_iff]
  · refine fill_bind_iff text?_iff (g := fun engineError => { f with engineError }) fun x => ?_
    simp [step_iff, Change, FlagFields.ext_iff, and_left_comm]
  · refine fill_bind_iff flag?_iff (g := fun completed => { f with completed }) fun x => ?_
    simp [step_iff, Change, FlagFields.ext_iff, and_comm, and_assoc]
  · rename_i hengine herror hcompleted
    refine ignore_bind_iff fun x => ?_
    simp only [imp_false] at hengine herror hcompleted
    simp [step_iff, Change, hengine, herror, hcompleted, FlagFields.ext_iff]

end FlagFields

namespace VersionFields

structure Holds (members : List (String × Written)) (f : VersionFields) : Prop where
  regex : Slot ["regex"] IsString members f.regex
  regexSyntax : Slot ["regex_syntax"] IsString members f.regexSyntax

@[mk_iff]
structure Step (key : String) (x : Written) (f f' : VersionFields) : Prop where
  regex : Change ["regex"] IsString (key, x) f.regex f'.regex
  regexSyntax : Change ["regex_syntax"] IsString (key, x) f.regexSyntax f'.regexSyntax

theorem holds_nil (f : VersionFields) : Holds [] f ↔ f = {} := by
  constructor
  · rintro ⟨hregex, hunicode⟩
    obtain ⟨_, _⟩ := f
    cases slot_nil.1 hregex
    cases slot_nil.1 hunicode
    rfl
  · rintro rfl
    exact ⟨slot_nil.2 rfl, slot_nil.2 rfl⟩

theorem holds_append (members : List (String × Written)) (m : String × Written)
    (f' : VersionFields) :
    Holds (members ++ [m]) f' ↔ ∃ f, Holds members f ∧ Step m.1 m.2 f f' := by
  constructor
  · rintro ⟨hregex, hunicode⟩
    obtain ⟨regex, hregex, hregex'⟩ := slot_append.1 hregex
    obtain ⟨regexSyntax, hunicode, hunicode'⟩ := slot_append.1 hunicode
    exact ⟨⟨regex, regexSyntax⟩, ⟨hregex, hunicode⟩, hregex', hunicode'⟩
  · rintro ⟨f, h, hs⟩
    exact ⟨slot_append.2 ⟨_, h.regex, hs.regex⟩, slot_append.2 ⟨_, h.regexSyntax, hs.regexSyntax⟩⟩

theorem versionField_steps : Steps versionField Step := by
  intro key f c f' r
  unfold versionField
  split
  · refine fill_bind_iff text?_iff (g := fun regex => { f with regex }) fun x => ?_
    simp [step_iff, Change, VersionFields.ext_iff]
  · refine fill_bind_iff text?_iff (g := fun regexSyntax => { f with regexSyntax }) fun x => ?_
    simp [step_iff, Change, VersionFields.ext_iff, and_comm]
  · rename_i hregex hunicode
    refine ignore_bind_iff fun x => ?_
    simp only [imp_false] at hregex hunicode
    simp [step_iff, Change, hregex, hunicode, VersionFields.ext_iff]

end VersionFields

inductive IsFlags : Written → EngineFlagsUpdate → Prop
  | object {ms : List (List Piece × Written)} {named : List (String × Written)}
      {engine completed : Option Bool} {engineError : Option String}
      (hnames : named? ms = some named) (hengine : Given ["engine"] IsBool named engine)
      (herror : Given ["engine_error"] IsString named engineError)
      (hcompleted : Given ["completed"] IsBool named completed) :
      IsFlags (.object ms) ⟨engine, engineError, completed⟩
  | array {x y z : Written} {engine completed : Option Bool} {engineError : Option String}
      (hx : Nullable IsBool x engine) (hy : Nullable IsString y engineError)
      (hz : Nullable IsBool z completed) :
      IsFlags (.array [x, y, z]) ⟨engine, engineError, completed⟩

inductive IsVersions : Written → Versions → Prop
  | object {ms : List (List Piece × Written)} {named : List (String × Written)}
      {regex regexSyntax : Option String} (hnames : named? ms = some named)
      (hregex : Given ["regex"] IsString named regex)
      (hunicode : Given ["regex_syntax"] IsString named regexSyntax) :
      IsVersions (.object ms) ⟨regex, regexSyntax⟩
  | array {x y : Written} {regex regexSyntax : Option String} (hx : Nullable IsString x regex)
      (hy : Nullable IsString y regexSyntax) : IsVersions (.array [x, y]) ⟨regex, regexSyntax⟩

theorem container_iff {β σ : Type} {field : String → σ → Cursor → Except Trouble (σ × Cursor)}
    {step : String → Written → σ → σ → Prop} (hfield : Steps field step)
    {holds : List (String × Written) → σ → Prop} {start : σ} {g : σ → β}
    (hholds : ∀ ms s, Folds step ms start s ↔ holds ms s)
    {items : Cursor → Except Trouble (β × Cursor)} {isItems : List Written → β → Prop}
    (hitems : ∀ c b r, (∃ c', items c = .ok (b, c') ∧ afterBlanks c'.rest = ']' :: r) ↔
      ∃ xs, Items true c.rest xs r ∧ isItems xs b)
    {means : Written → β → Prop} {expected : String}
    (hmeans : ∀ x b, means x b ↔
      (∃ ms named s, x = .object ms ∧ named? ms = some named ∧ holds named s ∧ g s = b) ∨
      ∃ xs, x = .array xs ∧ isItems xs b) :
    Decodes (nullable fun x c =>
      if x == '\x7b' then (object field start c).map fun (s, c) => (g s, c)
      else if x == '[' then array items c
      else mismatch expected c) (Nullable means) := by
  refine nullable_iff (fun _ h => ?_) fun {c x t} hrest _ b r => ?_
  · obtain ⟨_, _, _, h, -⟩ | ⟨_, h, -⟩ := (hmeans _ _).1 h <;> cases h
  simp only [hmeans]
  split
  · rename_i hx
    obtain rfl := eq_of_beq hx
    have hobject (s : σ) : Reads (object field start c) s r ↔ ∃ ms named,
        Spells ('\x7b' :: t) (.object ms) r ∧ named? ms = some named ∧ holds named s := by
      simp only [object_iff hfield hrest, hholds, hrest]
    constructor
    · rintro ⟨_, h, rfl⟩
      obtain ⟨⟨s, c'⟩, hread, heq⟩ := map_eq_ok.1 h
      cases heq
      obtain ⟨ms, named, hms, hnamed, hs⟩ := (hobject s).1 (Json.reads_of_eq_ok hread)
      exact ⟨_, hms, .inl ⟨ms, named, s, rfl, hnamed, hs, rfl⟩⟩
    · rintro ⟨_, hx, ⟨ms, named, s, rfl, hnamed, hs, rfl⟩ | ⟨xs, rfl, -⟩⟩
      · obtain ⟨c', h, hr⟩ := (hobject s).2 ⟨ms, named, hx, hnamed, hs⟩
        exact ⟨c', map_eq_ok.2 ⟨_, h, rfl⟩, hr⟩
      · cases hx
  rename_i hnot
  split
  · rename_i hx
    obtain rfl := eq_of_beq hx
    unfold array
    refine (closed_iff fun _ => Json.closeArray_iff).trans ?_
    rw [hitems, Cursor.rest_bump, hrest, List.tail_cons]
    constructor
    · rintro ⟨xs, hxs, hb⟩
      exact ⟨_, .array hxs, .inr ⟨xs, rfl, hb⟩⟩
    · rintro ⟨_, hx, ⟨_, _, _, rfl, -⟩ | ⟨xs, rfl, hb⟩⟩
      · cases hx
      · cases hx with
        | array hxs => exact ⟨xs, hxs, hb⟩
  · rename_i hnot'
    refine iff_of_false not_reads_mismatch ?_
    rintro ⟨_, hx, ⟨_, _, _, rfl, -⟩ | ⟨xs, rfl, -⟩⟩
    · cases hx
      exact hnot rfl
    · cases hx
      exact hnot' rfl

theorem flagItems_iff (c : Cursor) (u : EngineFlagsUpdate) (r : List Char) :
    (∃ c', flagItems c = .ok (u, c') ∧ afterBlanks c'.rest = ']' :: r) ↔
      ∃ xs, Items true c.rest xs r ∧ ∃ x y z, xs = [x, y, z] ∧ Nullable IsBool x u.engine ∧
        Nullable IsString y u.engineError ∧ Nullable IsBool z u.completed := by
  unfold flagItems
  dsimp only
  constructor
  · rintro ⟨c', h, hclose⟩
    obtain ⟨⟨a, c₁⟩, ha, h⟩ := bind_eq_ok.1 h
    obtain ⟨⟨b, c₂⟩, hb, h⟩ := bind_eq_ok.1 h
    obtain ⟨⟨d, c₃⟩, hd, h⟩ := bind_eq_ok.1 h
    cases h
    obtain ⟨_, x, hstart, hx, hxa⟩ := (item_iff 0 flag?_iff).1 (Json.reads_of_eq_ok ha)
    obtain ⟨_, y, hstart', hy, hyb⟩ := (item_iff 1 text?_iff).1 (Json.reads_of_eq_ok hb)
    obtain ⟨_, z, hstart'', hz, hzd⟩ := (item_iff 2 flag?_iff).1 (Json.reads_of_eq_ok hd)
    exact ⟨_, .item hstart hx (.item hstart' hy (.item hstart'' hz (.close hclose))), x, y, z, rfl,
      hxa, hyb, hzd⟩
  · rintro ⟨_, hxs, x, y, z, rfl, ha, hb, hd⟩
    obtain _ | ⟨hstart, hx, _ | ⟨hstart', hy, _ | ⟨hstart'', hz, hclose | _⟩⟩⟩ := hxs
    obtain ⟨c₁, h₁, rfl⟩ := (item_iff 0 flag?_iff).2 ⟨_, x, hstart, hx, ha⟩
    obtain ⟨c₂, h₂, rfl⟩ := (item_iff 1 text?_iff).2 ⟨_, y, hstart', hy, hb⟩
    obtain ⟨c₃, h₃, rfl⟩ := (item_iff 2 flag?_iff).2 ⟨_, z, hstart'', hz, hd⟩
    exact ⟨c₃, bind_eq_ok.2 ⟨_, h₁, bind_eq_ok.2 ⟨_, h₂, bind_eq_ok.2 ⟨_, h₃, rfl⟩⟩⟩, hclose⟩

theorem versionItems_iff (c : Cursor) (v : Versions) (r : List Char) :
    (∃ c', versionItems c = .ok (v, c') ∧ afterBlanks c'.rest = ']' :: r) ↔
      ∃ xs, Items true c.rest xs r ∧ ∃ x y, xs = [x, y] ∧ Nullable IsString x v.regex ∧
        Nullable IsString y v.regexSyntax := by
  unfold versionItems
  dsimp only
  constructor
  · rintro ⟨c', h, hclose⟩
    obtain ⟨⟨a, c₁⟩, ha, h⟩ := bind_eq_ok.1 h
    obtain ⟨⟨b, c₂⟩, hb, h⟩ := bind_eq_ok.1 h
    cases h
    obtain ⟨_, x, hstart, hx, hxa⟩ := (item_iff 0 text?_iff).1 (Json.reads_of_eq_ok ha)
    obtain ⟨_, y, hstart', hy, hyb⟩ := (item_iff 1 text?_iff).1 (Json.reads_of_eq_ok hb)
    exact ⟨_, .item hstart hx (.item hstart' hy (.close hclose)), x, y, rfl, hxa, hyb⟩
  · rintro ⟨_, hxs, x, y, rfl, ha, hb⟩
    obtain _ | ⟨hstart, hx, _ | ⟨hstart', hy, hclose | _⟩⟩ := hxs
    obtain ⟨c₁, h₁, rfl⟩ := (item_iff 0 text?_iff).2 ⟨_, x, hstart, hx, ha⟩
    obtain ⟨c₂, h₂, rfl⟩ := (item_iff 1 text?_iff).2 ⟨_, y, hstart', hy, hb⟩
    exact ⟨c₂, bind_eq_ok.2 ⟨_, h₁, bind_eq_ok.2 ⟨_, h₂, rfl⟩⟩, hclose⟩

theorem flags?_iff : Decodes flags? (Nullable IsFlags) := by
  refine container_iff FlagFields.flagField_steps
    (folds_iff FlagFields.holds_nil FlagFields.holds_append) flagItems_iff fun x u => ?_
  constructor
  · rintro (⟨hnames, ⟨_, hengine, rfl⟩, ⟨_, herror, rfl⟩, ⟨_, hcompleted, rfl⟩⟩ | ⟨hx, hy, hz⟩)
    · exact .inl ⟨_, _, ⟨_, _, _⟩, rfl, hnames, ⟨hengine, herror, hcompleted⟩, rfl⟩
    · exact .inr ⟨_, rfl, _, _, _, rfl, hx, hy, hz⟩
  · rintro (⟨_, _, f, rfl, hnames, h, rfl⟩ | ⟨_, rfl, _, _, _, rfl, hx, hy, hz⟩)
    · exact .object hnames ⟨_, h.engine, rfl⟩ ⟨_, h.engineError, rfl⟩ ⟨_, h.completed, rfl⟩
    · exact .array hx hy hz

theorem versions?_iff : Decodes versions? (Nullable IsVersions) := by
  refine container_iff VersionFields.versionField_steps
    (folds_iff VersionFields.holds_nil VersionFields.holds_append) versionItems_iff fun x v => ?_
  constructor
  · rintro (⟨hnames, ⟨_, hregex, rfl⟩, ⟨_, hunicode, rfl⟩⟩ | ⟨hx, hy⟩)
    · exact .inl ⟨_, _, ⟨_, _⟩, rfl, hnames, ⟨hregex, hunicode⟩, rfl⟩
    · exact .inr ⟨_, rfl, _, _, rfl, hx, hy⟩
  · rintro (⟨_, _, f, rfl, hnames, h, rfl⟩ | ⟨_, rfl, _, _, rfl, hx, hy⟩)
    · exact .object hnames ⟨_, h.regex, rfl⟩ ⟨_, h.regexSyntax, rfl⟩
    · exact .array hx hy

def known : List String :=
  ["pattern", "regex", "replacement", "replace", "text", "subject", "method", "mode", "features",
    "versions"]

/-- All other members, sorted by name and each with the value that it had last. -/
structure Others (members : List (String × Written)) (extra : List (String × Json)) : Prop where
  readable : ∀ m ∈ members, m.1 ∉ known → (m.2.value? (depthLimit - 1)).isSome = true
  sorted : Json.ByKey extra
  lookup : ∀ key, extra.lookup key =
    if key ∈ known then none else (members.reverse.lookup key).bind (·.value? (depthLimit - 1))

def Keeps (m : String × Written) (extra extra' : List (String × Json)) : Prop :=
  if m.1 ∈ known then extra = extra'
  else ∃ v, m.2.value? (depthLimit - 1) = some v ∧ Json.insertMember m.1 v extra = extra'

theorem others_nil {extra : List (String × Json)} : Others [] extra ↔ extra = [] := by
  constructor
  · rintro ⟨-, hsorted, hlookup⟩
    refine hsorted.ext List.Pairwise.nil fun key => ?_
    rw [hlookup]
    split <;> rfl
  · rintro rfl
    refine ⟨nofun, List.Pairwise.nil, fun key => ?_⟩
    split <;> rfl

theorem Others.append {extra extra' : List (String × Json)} (h : Others members extra)
    (hm : Keeps m extra extra') : Others (members ++ [m]) extra' := by
  unfold Keeps at hm
  have hlast (key : String) : (members ++ [m]).reverse.lookup key =
      if key = m.1 then some m.2 else members.reverse.lookup key := by
    rw [List.reverse_append, List.reverse_singleton, List.singleton_append,
      Json.lookup_cons_eq_ite]
  split at hm
  · rename_i hknown
    subst hm
    refine ⟨fun m' hm' hnot => ?_, h.sorted, fun key => ?_⟩
    · rcases List.mem_append.1 hm' with hm' | hm'
      · exact h.readable m' hm' hnot
      · cases List.mem_singleton.1 hm'
        exact absurd hknown hnot
    · rw [h.lookup, hlast]
      split
      · rfl
      · rename_i hkey
        rw [if_neg fun heq : key = m.1 => hkey (heq ▸ hknown)]
  · rename_i hother
    obtain ⟨v, hv, rfl⟩ := hm
    refine ⟨fun m' hm' hnot => ?_, h.sorted.insertMember _ _, fun key => ?_⟩
    · rcases List.mem_append.1 hm' with hm' | hm'
      · exact h.readable m' hm' hnot
      · cases List.mem_singleton.1 hm'
        rw [hv]
        rfl
    · rw [Json.lookup_insertMember, h.lookup, hlast]
      by_cases hkey : key = m.1
      · rw [if_pos hkey, if_pos hkey, if_neg (hkey ▸ hother)]
        exact hv.symm
      · rw [if_neg hkey, if_neg hkey]

theorem Others.unique {extra extra' : List (String × Json)} (h : Others members extra)
    (h' : Others members extra') : extra = extra' :=
  h.sorted.ext h'.sorted fun key => by rw [h.lookup, h'.lookup]

theorem Others.drop {before after : List (String × Written)} {extra : List (String × Json)}
    (hm : m.1 ∈ known) (h : Others (before ++ m :: after) extra) :
    Others (before ++ after) extra := by
  refine ⟨fun m' hm' hnot => h.readable m' ?_ hnot, h.sorted, fun key => ?_⟩
  · rcases List.mem_append.1 hm' with hm' | hm'
    · exact List.mem_append_left _ hm'
    · exact List.mem_append_right _ (List.mem_cons_of_mem _ hm')
  · rw [h.lookup]
    split
    · rfl
    · rename_i hkey
      have hne : key ≠ m.1 := fun heq : key = m.1 => hkey (heq ▸ hm)
      rw [List.reverse_append, List.reverse_cons, List.reverse_append, List.append_assoc,
        List.singleton_append, List.lookup_append, List.lookup_append, Json.lookup_cons_eq_ite,
        if_neg hne]

theorem exists_others (h : ∀ m ∈ members, m.1 ∉ known →
    (m.2.value? (depthLimit - 1)).isSome = true) : ∃ extra, Others members extra := by
  induction members using List.reverseRecOn with
  | nil => exact ⟨[], others_nil.2 rfl⟩
  | append_singleton members m ih =>
    obtain ⟨extra, hextra⟩ := ih fun m hm => h m (List.mem_append_left _ hm)
    by_cases hknown : m.1 ∈ known
    · exact ⟨extra, hextra.append (by rw [Keeps, if_pos hknown])⟩
    · obtain ⟨v, hv⟩ := Option.isSome_iff_exists.1 (h m (by simp) hknown)
      exact ⟨_, hextra.append (by rw [Keeps, if_neg hknown]; exact ⟨v, hv, rfl⟩)⟩

theorem others_append {extra' : List (String × Json)} : Others (members ++ [m]) extra' ↔
    ∃ extra, Others members extra ∧ Keeps m extra extra' := by
  constructor
  · intro h
    obtain ⟨extra, hextra⟩ := exists_others fun m hm => h.readable m (List.mem_append_left _ hm)
    refine ⟨extra, hextra, ?_⟩
    unfold Keeps
    split
    · rename_i hknown
      exact (hextra.append (by rw [Keeps, if_pos hknown])).unique h
    · rename_i hother
      obtain ⟨v, hv⟩ := Option.isSome_iff_exists.1 (h.readable m (by simp) hother)
      have hkeeps : Keeps m extra (Json.insertMember m.1 v extra) := by
        rw [Keeps, if_neg hother]
        exact ⟨v, hv, rfl⟩
      exact ⟨v, hv, (hextra.append hkeeps).unique h⟩
  · rintro ⟨extra, hextra, hm⟩
    exact hextra.append hm

namespace Fields

structure Holds (members : List (String × Written)) (f : Fields) : Prop where
  pattern : Slot ["pattern", "regex"] IsString members f.pattern
  replacement : Slot ["replacement", "replace"] IsString members f.replacement
  text : Slot ["text", "subject"] IsString members f.text
  modeName : Slot ["method", "mode"] IsString members f.modeName
  flags : Slot ["features"] IsFlags members f.flags
  versions : Slot ["versions"] IsVersions members f.versions
  extra : Others members f.extra

@[mk_iff]
structure Step (key : String) (x : Written) (f f' : Fields) : Prop where
  pattern : Change ["pattern", "regex"] IsString (key, x) f.pattern f'.pattern
  replacement : Change ["replacement", "replace"] IsString (key, x) f.replacement f'.replacement
  text : Change ["text", "subject"] IsString (key, x) f.text f'.text
  modeName : Change ["method", "mode"] IsString (key, x) f.modeName f'.modeName
  flags : Change ["features"] IsFlags (key, x) f.flags f'.flags
  versions : Change ["versions"] IsVersions (key, x) f.versions f'.versions
  extra : Keeps (key, x) f.extra f'.extra

theorem holds_nil (f : Fields) : Holds [] f ↔ f = {} := by
  constructor
  · rintro ⟨hpattern, hreplacement, htext, hmode, hflags, hversions, hextra⟩
    obtain ⟨_, _, _, _, _, _, _⟩ := f
    cases slot_nil.1 hpattern
    cases slot_nil.1 hreplacement
    cases slot_nil.1 htext
    cases slot_nil.1 hmode
    cases slot_nil.1 hflags
    cases slot_nil.1 hversions
    cases others_nil.1 hextra
    rfl
  · rintro rfl
    exact ⟨slot_nil.2 rfl, slot_nil.2 rfl, slot_nil.2 rfl, slot_nil.2 rfl, slot_nil.2 rfl,
      slot_nil.2 rfl, others_nil.2 rfl⟩

theorem holds_append (members : List (String × Written)) (m : String × Written) (f' : Fields) :
    Holds (members ++ [m]) f' ↔ ∃ f, Holds members f ∧ Step m.1 m.2 f f' := by
  constructor
  · rintro ⟨hpattern, hreplacement, htext, hmode, hflags, hversions, hextra⟩
    obtain ⟨_, hpattern, hpattern'⟩ := slot_append.1 hpattern
    obtain ⟨_, hreplacement, hreplacement'⟩ := slot_append.1 hreplacement
    obtain ⟨_, htext, htext'⟩ := slot_append.1 htext
    obtain ⟨_, hmode, hmode'⟩ := slot_append.1 hmode
    obtain ⟨_, hflags, hflags'⟩ := slot_append.1 hflags
    obtain ⟨_, hversions, hversions'⟩ := slot_append.1 hversions
    obtain ⟨_, hextra, hextra'⟩ := others_append.1 hextra
    exact ⟨⟨_, _, _, _, _, _, _⟩,
      ⟨hpattern, hreplacement, htext, hmode, hflags, hversions, hextra⟩,
      hpattern', hreplacement', htext', hmode', hflags', hversions', hextra'⟩
  · rintro ⟨f, h, hs⟩
    exact ⟨slot_append.2 ⟨_, h.pattern, hs.pattern⟩,
      slot_append.2 ⟨_, h.replacement, hs.replacement⟩, slot_append.2 ⟨_, h.text, hs.text⟩,
      slot_append.2 ⟨_, h.modeName, hs.modeName⟩, slot_append.2 ⟨_, h.flags, hs.flags⟩,
      slot_append.2 ⟨_, h.versions, hs.versions⟩, others_append.2 ⟨_, h.extra, hs.extra⟩⟩

theorem names_iff (key : String) :
    (key ∈ ["pattern", "regex"] ↔ fieldOf key = "pattern") ∧
    (key ∈ ["replacement", "replace"] ↔ fieldOf key = "replacement") ∧
    (key ∈ ["text", "subject"] ↔ fieldOf key = "text") ∧
    (key ∈ ["method", "mode"] ↔ fieldOf key = "method") ∧
    (key ∈ ["features"] ↔ fieldOf key = "features") ∧
    (key ∈ ["versions"] ↔ fieldOf key = "versions") ∧
    (key ∈ known ↔ fieldOf key ∈
      ["pattern", "replacement", "text", "method", "features", "versions"]) := by
  unfold fieldOf
  split
  case h_5 hregex hreplace hsubject hmode =>
    simp only [imp_false] at hregex hreplace hsubject hmode
    simp [known, hregex, hreplace, hsubject, hmode]
  all_goals simp [known]

theorem field_steps : Steps field Step := by
  intro key f c f' r
  -- which of the changes happens depends only on the field of the name
  have hstep (x : Written) : Step key x f f' ↔
      (if fieldOf key = "pattern" then Fills IsString x f.pattern f'.pattern
        else f.pattern = f'.pattern) ∧
      (if fieldOf key = "replacement" then Fills IsString x f.replacement f'.replacement
        else f.replacement = f'.replacement) ∧
      (if fieldOf key = "text" then Fills IsString x f.text f'.text else f.text = f'.text) ∧
      (if fieldOf key = "method" then Fills IsString x f.modeName f'.modeName
        else f.modeName = f'.modeName) ∧
      (if fieldOf key = "features" then Fills IsFlags x f.flags f'.flags
        else f.flags = f'.flags) ∧
      (if fieldOf key = "versions" then Fills IsVersions x f.versions f'.versions
        else f.versions = f'.versions) ∧
      (if fieldOf key ∈ ["pattern", "replacement", "text", "method", "features", "versions"]
        then f.extra = f'.extra
        else ∃ v, x.value? (depthLimit - 1) = some v ∧
          Json.insertMember key v f.extra = f'.extra) := by
    obtain ⟨hpattern, hreplacement, htext, hmode, hflags, hversions, hknown⟩ := names_iff key
    simp only [step_iff, Change, Keeps, hpattern, hreplacement, htext, hmode, hflags, hversions,
      hknown]
  unfold field
  split
  · rename_i hname
    refine fill_bind_iff text?_iff (g := fun pattern => { f with pattern }) fun x => ?_
    rw [hstep, hname]
    simp [Fields.ext_iff]
  · rename_i hname
    refine fill_bind_iff text?_iff (g := fun replacement => { f with replacement }) fun x => ?_
    rw [hstep, hname]
    simp [Fields.ext_iff, and_left_comm]
  · rename_i hname
    refine fill_bind_iff text?_iff (g := fun text => { f with text }) fun x => ?_
    rw [hstep, hname]
    simp [Fields.ext_iff, and_left_comm]
  · rename_i hname
    refine fill_bind_iff text?_iff (g := fun modeName => { f with modeName }) fun x => ?_
    rw [hstep, hname]
    simp [Fields.ext_iff, and_left_comm]
  · rename_i hname
    refine fill_bind_iff flags?_iff (g := fun flags => { f with flags }) fun x => ?_
    rw [hstep, hname]
    simp [Fields.ext_iff, and_left_comm]
  · rename_i hname
    refine fill_bind_iff versions?_iff (g := fun versions => { f with versions }) fun x => ?_
    rw [hstep, hname]
    simp [Fields.ext_iff, and_left_comm]
  · rename_i hpattern hreplacement htext hmode hflags hversions
    simp only [imp_false] at hpattern hreplacement htext hmode hflags hversions
    refine keep_bind_iff
      (g := fun v => { f with extra := Json.insertMember key v f.extra }) fun x => ?_
    rw [hstep]
    simp only [hpattern, hreplacement, htext, hmode, hflags, hversions, Fields.ext_iff, if_false,
      List.mem_cons, List.not_mem_nil, or_self]
    constructor
    · rintro ⟨h₁, h₂, h₃, h₄, h₅, h₆, v, hv, h⟩
      exact ⟨v, hv, h₁, h₂, h₃, h₄, h₅, h₆, h⟩
    · rintro ⟨v, hv, h₁, h₂, h₃, h₄, h₅, h₆, h⟩
      exact ⟨h₁, h₂, h₃, h₄, h₅, h₆, v, hv, h⟩

end Fields

end UpdateReader

end RegexStudio
