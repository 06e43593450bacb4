import RegexStudio.Proofs.EncodedResults
import RegexStudio.Proofs.JsonNormal

/-! Results read back from what was written of them. -/

namespace RegexStudio

namespace Json

@[simp] theorem text?_normal (s : String) : (normal (.string s)).text? = some s := rfl

@[simp] theorem flag?_normal (b : Bool) : (normal (.bool b)).flag? = some b := rfl

@[simp] theorem natural?_normal (n : Nat) : (normal (natural n)).natural? = some n := by
  show (if 0 ≤ (n : Int) then some (n : Int).toNat else none) = some n
  rw [if_pos (Int.natCast_nonneg n), Int.toNat_natCast]

theorem maybe?_normal {α : Type} {f : α → Json} {read : Json → Option α}
    (h : ∀ a, normal (f a) ≠ .null ∧ read (normal (f a)) = some a) (value : Option α) :
    (normal ((value.map f).getD .null)).maybe? read = some value := by
  cases value with
  | none => rfl
  | some a =>
    obtain ⟨hne, hread⟩ := h a
    show (normal (f a)).maybe? read = some (some a)
    unfold maybe?
    split
    · exact absurd ‹_› hne
    · rw [hread]
      rfl

@[simp] theorem maybe?_text (value : Option String) :
    (normal ((value.map string).getD .null)).maybe? text? = some value :=
  maybe?_normal (fun _ => ⟨Json.noConfusion, rfl⟩) value

@[simp] theorem maybe?_natural (value : Option Nat) :
    (normal ((value.map natural).getD .null)).maybe? natural? = some value :=
  maybe?_normal (fun n => ⟨Json.noConfusion, natural?_normal n⟩) value

@[simp] theorem items?_normal (items : List Json) :
    (normal (.array items)).items? = some (normalItems items) := rfl

theorem mapM_normal {α : Type} {f : α → Json} {read : Json → Option α}
    (h : ∀ a, read (normal (f a)) = some a) (as : List α) :
    (normalItems (as.map f)).mapM read = some as := by
  induction as with
  | nil => rfl
  | cons a as ih =>
    rw [List.map_cons, normalItems, List.mapM_cons, h, ih]
    rfl

end Json

open Json (normal Distinct record?_normal field_normal field_object lookup_cons_eq_ite)

theorem Capture.distinct (c : Capture) : Distinct c.toJson := by
  cases hname : c.name <;> simp [Distinct, toJson, Json.optional, hname]

theorem Capture.ofJson?_normal (c : Capture) : ofJson? (normal c.toJson) = some c := by
  rw [ofJson?, record?_normal c.distinct]
  simp only [Option.bind_eq_bind, Option.bind_some, field_normal c.distinct]
  simp [toJson, field_object, List.lookup_append, lookup_cons_eq_ite]

theorem Match.distinct (m : Match) : Distinct m.toJson := by
  simp [Distinct, toJson]

theorem Match.ofJson?_normal (m : Match) : ofJson? (normal m.toJson) = some m := by
  rw [ofJson?, record?_normal m.distinct]
  simp only [Option.bind_eq_bind, Option.bind_some, field_normal m.distinct]
  simp [toJson, field_object, lookup_cons_eq_ite, Json.mapM_normal Capture.ofJson?_normal]

namespace Outline

theorem Range.distinct (r : Range) : Distinct r.toJson := by
  simp [Distinct, toJson]

theorem Range.ofJson?_normal (r : Range) : ofJson? (normal r.toJson) = some r := by
  rw [ofJson?, record?_normal r.distinct]
  simp only [Option.bind_eq_bind, Option.bind_some, field_normal r.distinct]
  simp [toJson, field_object, lookup_cons_eq_ite]

theorem Node.distinct (n : Node) : Distinct n.toJson := by
  obtain ⟨⟨kind, text, span, detail, group⟩, children⟩ := n
  cases children <;> cases span <;> cases detail <;> cases group <;>
    simp [Distinct, Node.toJson, Label.members, Json.optional]

theorem Label.ofJson?_normal (n : Node) : Label.ofJson? (normal n.toJson) = some n.label := by
  rw [Label.ofJson?, record?_normal n.distinct]
  simp only [Option.bind_eq_bind, Option.bind_some, field_normal n.distinct]
  obtain ⟨label, children⟩ := n
  have hspan : (normal ((label.span.map (·.toJson)).getD .null)).maybe? Range.ofJson? =
      some label.span := Json.maybe?_normal (fun r => by
    obtain ⟨members, hr⟩ := r.distinct.normal_eq_object
    exact ⟨by rw [hr]; exact Json.noConfusion, r.ofJson?_normal⟩) label.span
  cases children <;>
    simp [Node.toJson, Node.label, Label.members, field_object, List.lookup_append,
      lookup_cons_eq_ite, hspan]

def children? : Option Json → Option (List Node)
  | none => some []
  | some (.array items) => nodesOfJson? items
  | some _ => none

theorem childrenOf?_eq (members : List (String × Json)) :
    childrenOf? members = children? (members.lookup "children") := by
  induction members with
  | nil => rfl
  | cons m rest ih =>
    obtain ⟨key, value⟩ := m
    rw [lookup_cons_eq_ite]
    by_cases hkey : key = "children"
    · subst hkey
      rw [if_pos rfl]
      -- only an array holds nodes
      cases value <;> rfl
    · rw [if_neg (Ne.symm hkey), ← ih]
      cases value <;> simp [childrenOf?, hkey]

theorem Node.ofJson?_of_distinct {j : Json} {label : Label} {children : List Node}
    (h : Distinct j) (hlabel : Label.ofJson? (normal j) = some label)
    (hchildren : children? ((j.member? "children").map normal) = some children) :
    Node.ofJson? (normal j) = some (.mk label children) := by
  rw [← Json.member?_normal h] at hchildren
  obtain ⟨members, hj⟩ := h.normal_eq_object
  rw [hj] at hlabel hchildren ⊢
  rw [Json.member?_object, ← childrenOf?_eq] at hchildren
  rw [Node.ofJson?, hlabel, hchildren]
  rfl

mutual

theorem Node.ofJson?_normal (n : Node) : Node.ofJson? (normal n.toJson) = some n := by
  match n with
  | .mk label [] =>
    have h : Node.toJson (.mk label []) = .object label.members := rfl
    refine Node.ofJson?_of_distinct (Node.distinct _) (Label.ofJson?_normal _) ?_
    simp [h, Json.member?_object, Label.members, List.lookup_append, lookup_cons_eq_ite, children?]
  | .mk label (child :: children) =>
    have hnodes := nodesOfJson?_normal (child :: children)
    have h : Node.toJson (.mk label (child :: children)) =
      .object (label.members ++ [("children", .array (nodesToJson (child :: children)))]) := rfl
    refine Node.ofJson?_of_distinct (Node.distinct _) (Label.ofJson?_normal _) ?_
    simpa [h, Json.member?_object, Label.members, List.lookup_append, lookup_cons_eq_ite, children?,
      normal] using hnodes
termination_by structural n

theorem nodesOfJson?_normal (ns : List Node) :
    nodesOfJson? (Json.normalItems (nodesToJson ns)) = some ns := by
  match ns with
  | [] => rfl
  | n :: rest =>
    rw [nodesToJson, Json.normalItems, nodesOfJson?, Node.ofJson?_normal n,
      nodesOfJson?_normal rest]
    rfl
termination_by structural ns

end

theorem distinct (o : Outline) : Distinct o.toJson := by
  simp [Distinct, toJson]

theorem ofJson?_normal (o : Outline) : ofJson? (normal o.toJson) = some o := by
  rw [ofJson?, record?_normal o.distinct]
  simp only [Option.bind_eq_bind, Option.bind_some, field_normal o.distinct]
  simp [toJson, field_object, lookup_cons_eq_ite, o.root.ofJson?_normal]

end Outline

theorem PatternError.distinct (e : PatternError) : Distinct e.toJson := by
  cases hposition : e.position <;> simp [Distinct, toJson, Json.optional, hposition]

theorem PatternError.ofJson?_normal (e : PatternError) : ofJson? (normal e.toJson) = some e := by
  rw [ofJson?, record?_normal e.distinct]
  simp only [Option.bind_eq_bind, Option.bind_some, field_normal e.distinct]
  simp [toJson, field_object, lookup_cons_eq_ite]

theorem ReplacementError.distinct (e : ReplacementError) : Distinct e.toJson := by
  cases e <;> simp [Distinct, toJson]

theorem ReplacementError.tagged?_normal (e : ReplacementError) {kind : String}
    (hkind : e.toJson.field "kind" = .string kind) :
    (normal e.toJson).tagged? = some (kind, normal e.toJson) := by
  have hfield := field_normal e.distinct "kind"
  obtain ⟨members, hj⟩ := e.distinct.normal_eq_object
  rw [hkind, hj] at hfield
  rw [hj, Json.tagged?, hfield]
  rfl

theorem ReplacementError.ofJson?_normal (e : ReplacementError) :
    ofJson? (normal e.toJson) = some e := by
  have hrecord := record?_normal e.distinct
  have hfield := field_normal e.distinct
  cases e <;>
    · rw [ofJson?, tagged?_normal _ rfl]
      simp only [Option.bind_eq_bind, Option.bind_some, hrecord, hfield]
      simp [toJson, field_object, lookup_cons_eq_ite]

theorem EngineFlags.distinct (f : EngineFlags) : Distinct f.toJson := by
  cases herror : f.engineError <;> simp [Distinct, toJson, Json.optional, herror]

theorem EngineFlags.ofJson?_normal (f : EngineFlags) : ofJson? (normal f.toJson) = some f := by
  rw [ofJson?, record?_normal f.distinct]
  simp only [Option.bind_eq_bind, Option.bind_some, field_normal f.distinct]
  simp [toJson, field_object, List.lookup_append, lookup_cons_eq_ite]

theorem Versions.distinct (v : Versions) : Distinct v.toJson := by
  cases hregex : v.regex <;> cases hcrate : v.regexSyntax <;>
    simp [Distinct, toJson, Json.optional, hregex, hcrate]

theorem Versions.ofJson?_normal (v : Versions) : ofJson? (normal v.toJson) = some v := by
  rw [ofJson?, record?_normal v.distinct]
  simp only [Option.bind_eq_bind, Option.bind_some, field_normal v.distinct]
  simp [toJson, field_object, List.lookup_append]

theorem Workspace.distinct (w : Workspace) : Distinct w.toJson := by
  simp [Distinct, toJson]

theorem Workspace.ofJson?_normal (w : Workspace) (hextra : Json.Sorted (.object w.extra)) :
    ofJson? (normal w.toJson) = some w := by
  rw [ofJson?, record?_normal w.distinct]
  simp only [Option.bind_eq_bind, Option.bind_some, field_normal w.distinct]
  simp [toJson, field_object, lookup_cons_eq_ite, w.flags.ofJson?_normal, w.versions.ofJson?_normal,
    Json.normal_of_sorted _ hextra]

def Match.listOfJson? (j : Json) : Option (List Match) := j.items?.bind (·.mapM Match.ofJson?)

theorem Match.listOfJson?_normal (ms : List Match) :
    listOfJson? (normal (.array (ms.map (·.toJson)))) = some ms :=
  Json.mapM_normal Match.ofJson?_normal ms

namespace Evaluation

def ofJson? (j : Json) : Option Evaluation := do
  match ← (j.field "kind").text? with
  | "syntax" => (Outline.ofJson? (j.field "value")).map .tree
  | "find" => (Match.listOfJson? (j.field "value")).map .find
  | "replace" => (j.field "value").text?.map .replace
  | "pattern_error" => (PatternError.ofJson? (j.field "value")).map .patternError
  | "replacement_error" => (ReplacementError.ofJson? (j.field "value")).map .replacementError
  | "empty" => some .empty
  | _ => none

theorem distinct (e : Evaluation) : Distinct e.toJson := by
  cases e <;> simp [Distinct, toJson]

theorem ofJson?_normal (e : Evaluation) : ofJson? (normal e.toJson) = some e := by
  have hfield := field_normal e.distinct
  rw [ofJson?]
  simp only [hfield]
  cases e with
  | tree o => simp [toJson, field_object, lookup_cons_eq_ite, o.ofJson?_normal]
  | find ms => simp [toJson, field_object, lookup_cons_eq_ite, Match.listOfJson?_normal]
  | replace text => simp [toJson, field_object, lookup_cons_eq_ite]
  | patternError e => simp [toJson, field_object, lookup_cons_eq_ite, e.ofJson?_normal]
  | replacementError e => simp [toJson, field_object, lookup_cons_eq_ite, e.ofJson?_normal]
  | empty => simp [toJson, field_object, lookup_cons_eq_ite]

/-- The order of the members aside, the values of two results differ. -/
theorem normal_toJson_injective : Function.Injective fun e : Evaluation => normal e.toJson :=
  fun e e' h => Option.some.inj ((ofJson?_normal e).symm.trans
    ((congrArg ofJson? h).trans (ofJson?_normal e')))

end Evaluation

end RegexStudio
