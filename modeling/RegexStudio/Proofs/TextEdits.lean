import RegexStudio.Proofs.SessionFraming
import RegexStudio.Proofs.UpdateRouting

/-! Edits of the texts in a workspace: the lines that spell them, the updates that these lines hold,
and the workspace that they lead to, which does not depend on their order. -/

namespace RegexStudio

open Json (Written pieceOf)
open UpdateReader (named? named?_cons Given IsString)

abbrev Edits := List (String × String)

def editable : List String := ["pattern", "text", "replacement", "method"]

variable {es es' : Edits} {key value : String}

/-- Edits of different fields. -/
structure Edits.Apart (es : Edits) : Prop where
  editable : ∀ e ∈ es, e.1 ∈ editable
  nodup : (es.map Prod.fst).Nodup

theorem Edits.Apart.of_cons {e : String × String} (h : Edits.Apart (e :: es)) :
    es.lookup e.1 = none ∧ Edits.Apart es := by
  obtain ⟨hnot, hnodup⟩ := List.nodup_cons.1 h.nodup
  refine ⟨List.lookup_eq_none_iff.2 fun e' he' => ?_,
    fun e' he' => h.editable e' (List.mem_cons_of_mem _ he'), hnodup⟩
  simp only [bne_iff_ne, ne_eq]
  rintro heq
  exact hnot (heq ▸ List.mem_map_of_mem he')

theorem Edits.Apart.subset (h : Edits.Apart es) (hsub : es'.Sublist es) : Edits.Apart es' :=
  ⟨fun e he => h.editable e (hsub.subset he), h.nodup.sublist (hsub.map _)⟩

theorem Edits.Apart.perm (h : Edits.Apart es) (hperm : es'.Perm es) : Edits.Apart es' :=
  ⟨fun e he => h.editable e (hperm.mem_iff.1 he), (hperm.map _).nodup_iff.2 h.nodup⟩

theorem Edits.Apart.lookup_iff (h : Edits.Apart es) :
    es.lookup key = some value ↔ (key, value) ∈ es := by
  induction es with
  | nil => exact iff_of_false nofun List.not_mem_nil
  | cons e es ih =>
    obtain ⟨hnone, hes⟩ := h.of_cons
    rw [Json.lookup_cons_eq_ite, List.mem_cons]
    split
    · rename_i hkey
      subst hkey
      refine ⟨fun hv => .inl (by rw [← Option.some.inj hv]), ?_⟩
      rintro (he | hmem)
      · rw [← he]
      · rw [(ih hes).2 hmem] at hnone
        cases hnone
    · rename_i hkey
      rw [ih hes]
      exact ⟨.inr, fun h => h.resolve_left fun he => hkey (congrArg Prod.fst he)⟩

theorem Edits.Apart.lookup_perm (h : Edits.Apart es) (hperm : es'.Perm es) :
    es'.lookup key = es.lookup key := by
  refine Option.ext fun value => ?_
  rw [(h.perm hperm).lookup_iff, h.lookup_iff, hperm.mem_iff]

def Update.ofEdits (es : Edits) : Update where
  pattern := es.lookup "pattern"
  replacement := es.lookup "replacement"
  text := es.lookup "text"
  modeName := es.lookup "method"

theorem Update.ofEdits_perm (h : Edits.Apart es) (hperm : es'.Perm es) :
    Update.ofEdits es' = Update.ofEdits es := by
  simp only [Update.ofEdits, h.lookup_perm hperm]

theorem Update.ofEdits_cons {e : String × String} (h : Edits.Apart (e :: es)) (w : Workspace) :
    (Update.ofEdits (e :: es)).apply w =
      (Update.ofEdits es).apply ((Update.ofEdits [e]).apply w) := by
  obtain ⟨hnone, -⟩ := h.of_cons
  have hfield (key old : String) : ((e :: es).lookup key).getD old =
      (es.lookup key).getD ((List.lookup key [e]).getD old) := by
    rw [Json.lookup_cons_eq_ite, Json.lookup_cons_eq_ite]
    split
    · rename_i hkey
      rw [hkey, hnone]
      rfl
    · rfl
  simp only [Update.ofEdits, Update.apply, hfield, List.foldl_nil]

def Workspace.edited (es : Edits) : Workspace := (Update.ofEdits es).apply {}

theorem Update.foldl_edits (h : Edits.Apart es) (w : Workspace) :
    (es.map fun e => Update.ofEdits [e]).foldl (fun w u => u.apply w) w =
      (Update.ofEdits es).apply w := by
  induction es generalizing w with
  | nil => rfl
  | cons e es ih => rw [List.map_cons, List.foldl_cons, ih h.of_cons.2, Update.ofEdits_cons h]

def Edits.toJson (es : Edits) : Json := .object (es.map fun e => (e.1, .string e.2))

def lineOf (es : Edits) : String := (Edits.toJson es).compact

theorem Edits.exact_toJson (es : Edits) : Json.exact (Edits.toJson es) = true :=
  Json.exactMembers_iff.2 fun m hm => by
    obtain ⟨e, -, rfl⟩ := List.mem_map.1 hm
    rfl

theorem unbroken_lineOf (es : Edits) : Json.Unbroken (lineOf es).toList :=
  Json.unbroken_compact _ (Edits.exact_toJson es)

def spelled (es : Edits) : List (String × Written) :=
  es.map fun e => (e.1, .string (e.2.toList.map pieceOf))

theorem named?_written (members : List (String × Json)) :
    named? (Json.writtenMembers members) = some (members.map fun m => (m.1, m.2.written)) := by
  induction members with
  | nil => rfl
  | cons m members ih =>
    exact named?_cons.2 ⟨m.1, _, Json.stringOf?_pieceOf m.1, ih, rfl⟩

theorem filter_spelled {names : List String} (h : Edits.Apart es)
    (hnames : ∀ e ∈ es, e.1 ∈ names ↔ e.1 = key) :
    (spelled es).filter (names.contains ·.1) =
      ((es.lookup key).map fun v => (key, Written.string (v.toList.map pieceOf))).toList := by
  induction es with
  | nil => rfl
  | cons e es ih =>
    obtain ⟨hnone, hes⟩ := h.of_cons
    have hrest := ih hes fun e he => hnames e (List.mem_cons_of_mem _ he)
    have he := hnames e List.mem_cons_self
    rw [Json.lookup_cons_eq_ite]
    by_cases hkey : e.1 = key
    · subst hkey
      rw [hnone] at hrest
      rw [if_pos rfl, spelled, List.map_cons,
        List.filter_cons_of_pos (by simpa using he.2 rfl)]
      exact congrArg _ hrest
    · rw [if_neg (Ne.symm hkey), spelled, List.map_cons,
        List.filter_cons_of_neg (by simpa using he.not.2 hkey)]
      exact hrest

theorem given_spelled {names : List String} (h : Edits.Apart es)
    (hnames : ∀ e ∈ es, e.1 ∈ names ↔ e.1 = key) :
    Given names IsString (spelled es) (es.lookup key) := by
  have hfilter := filter_spelled h hnames
  cases hlookup : es.lookup key with
  | none =>
    rw [hlookup] at hfilter
    exact ⟨_, .empty hfilter, rfl⟩
  | some v =>
    rw [hlookup] at hfilter
    exact ⟨some (some v), .filled hfilter ⟨_, rfl, Json.stringOf?_pieceOf v⟩, rfl⟩

theorem given_none {α : Type} {names : List String} {means : Written → α → Prop}
    {members : List (String × Written)} (h : ∀ m ∈ members, m.1 ∉ names) :
    Given names means members none :=
  ⟨none, .empty (List.filter_eq_nil_iff.2 fun m hm => by simpa using h m hm), rfl⟩

theorem others_of_known {members : List (String × Written)}
    (h : ∀ m ∈ members, m.1 ∈ UpdateReader.known) : UpdateReader.Others members [] := by
  induction members using List.reverseRecOn with
  | nil => exact UpdateReader.others_nil.2 rfl
  | append_singleton members m ih =>
    refine UpdateReader.others_append.2 ⟨[], ih fun m hm => h m (List.mem_append_left _ hm), ?_⟩
    rw [UpdateReader.Keeps, if_pos (h m (by simp))]

theorem parse_lineOf (h : Edits.Apart es) :
    Update.parse (lineOf es) = .ok (Update.ofEdits es) := by
  have hnamed : named? (Json.writtenMembers (es.map fun e => (e.1, .string e.2))) =
      some (spelled es) := by
    rw [named?_written, List.map_map]
    rfl
  have hmem {m : String × Written} (hm : m ∈ spelled es) : m.1 ∈ editable := by
    obtain ⟨e, he, rfl⟩ := List.mem_map.1 hm
    exact h.editable e he
  have hfield {names : List String} {key : String}
      (hnames : ∀ name ∈ editable, name ∈ names ↔ name = key) :
      Given names IsString (spelled es) (es.lookup key) :=
    given_spelled h fun e he => hnames e.1 (h.editable e he)
  refine Update.parse_iff.2 ⟨_, _, Json.isText_compact (Edits.exact_toJson es), hnamed,
    hfield (by decide), hfield (by decide), hfield (by decide), hfield (by decide),
    given_none fun m hm => ?_, given_none fun m hm => ?_, others_of_known fun m hm => ?_⟩
  · exact (by decide : ∀ name ∈ editable, name ∉ ["features"]) _ (hmem hm)
  · exact (by decide : ∀ name ∈ editable, name ∉ ["versions"]) _ (hmem hm)
  · exact (by decide : ∀ name ∈ editable, name ∈ UpdateReader.known) _ (hmem hm)

end RegexStudio
