import RegexStudio.CommandLine.Commands
import RegexStudio.Proofs.JsonWriting

/-! No double is among what is written: offsets, counts and positions are integers. So all that
holds of exact values holds of whatever the program puts out. -/

namespace RegexStudio

namespace Json

@[simp] theorem exact_natural (n : Nat) : exact (natural n) = true := rfl

theorem exactItems_map {α : Type} {f : α → Json} (h : ∀ a, exact (f a) = true) (as : List α) :
    exactItems (as.map f) = true :=
  exactItems_iff.2 fun j hj => by
    obtain ⟨a, -, rfl⟩ := List.mem_map.1 hj
    exact h a

@[simp] theorem exactMembers_append (ms ms' : List (String × Json)) :
    exactMembers (ms ++ ms') = (exactMembers ms && exactMembers ms') := by
  induction ms with
  | nil => rfl
  | cons m ms ih => rw [List.cons_append, exactMembers, exactMembers, ih, Bool.and_assoc]

theorem exactMembers_optional {α : Type} {f : α → Json} (h : ∀ a, exact (f a) = true)
    (key : String) (value : Option α) : exactMembers (optional key (value.map f)) = true := by
  cases value with
  | none => rfl
  | some a =>
    show (exact (f a) && true) = true
    rw [h]
    rfl

@[simp] theorem exactMembers_text (key : String) (value : Option String) :
    exactMembers (optional key (value.map string)) = true :=
  exactMembers_optional (fun _ => rfl) key value

@[simp] theorem exactMembers_natural (key : String) (value : Option Nat) :
    exactMembers (optional key (value.map natural)) = true :=
  exactMembers_optional (fun _ => rfl) key value

end Json

open Json (exact exactItems exactMembers)

theorem Capture.exact_toJson (c : Capture) : exact c.toJson = true := by
  simp [toJson, exact, exactMembers]

theorem Match.exact_toJson (m : Match) : exact m.toJson = true := by
  simp [toJson, exact, exactMembers, Json.exactItems_map Capture.exact_toJson]

namespace Outline

theorem Range.exact_toJson (r : Range) : exact r.toJson = true := rfl

theorem Label.exact_members (l : Label) : exactMembers l.members = true := by
  simp [members, exact, exactMembers, Json.exactMembers_optional Range.exact_toJson]

mutual

theorem Node.exact_toJson (n : Node) : exact n.toJson = true := by
  match n with
  | .mk label [] => exact label.exact_members
  | .mk label (child :: children) =>
    have h := exact_nodesToJson (child :: children)
    simp [Node.toJson, exact, exactMembers, label.exact_members, h]
termination_by structural n

theorem exact_nodesToJson (ns : List Node) : exactItems (nodesToJson ns) = true := by
  match ns with
  | [] => rfl
  | n :: rest =>
    rw [nodesToJson, exactItems, Node.exact_toJson n, exact_nodesToJson rest]
    rfl
termination_by structural ns

end

theorem exact_toJson (o : Outline) : exact o.toJson = true := by
  simp [toJson, exact, exactMembers, o.root.exact_toJson]

end Outline

theorem PatternError.exact_toJson (e : PatternError) : exact e.toJson = true := by
  simp [toJson, exact, exactMembers]

theorem ReplacementError.exact_toJson (e : ReplacementError) : exact e.toJson = true := by
  cases e <;> rfl

theorem Evaluation.exact_toJson (r : Evaluation) : exact r.toJson = true := by
  cases r with
  | tree o => simp [toJson, exact, exactMembers, o.exact_toJson]
  | find ms => simp [toJson, exact, exactMembers, Json.exactItems_map Match.exact_toJson]
  | replace text => rfl
  | patternError e => simp [toJson, exact, exactMembers, e.exact_toJson]
  | replacementError e => simp [toJson, exact, exactMembers, e.exact_toJson]
  | empty => rfl

theorem Availability.exact_toJson (a : Availability) : exact a.toJson = true := by
  simp [toJson, exact, exactMembers]

theorem Snapshot.exact_toJson (f : Snapshot) : exact f.toJson = true := by
  simp [toJson, exact, exactMembers, f.engine.exact_toJson, f.result.exact_toJson,
    ManualLinks.toJson]

theorem Reply.exact_toJson (reply : Reply) : exact reply.toJson = true := by
  cases reply with
  | snapshot f => exact f.exact_toJson
  | refused fault => simp [toJson, FailureReport.toJson, exact, exactMembers]

theorem CommandLine.EvalReport.exact_toJson (r : EvalReport) : exact r.toJson = true := by
  simp [toJson, exact, exactMembers, r.engine.exact_toJson, r.result.exact_toJson]

end RegexStudio
