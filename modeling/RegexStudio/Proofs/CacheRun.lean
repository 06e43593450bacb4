import Mathlib.Data.List.Nodup
import RegexStudio.Proofs.ResultCache

/-! Runs of a result cache: any number of looks, tickets, computations and commits, in any order. A
ticket that was given out is handed back once at most. -/

namespace RegexStudio

/-- One use of a result cache, with what came of it. -/
inductive Use
  | get (s : Inputs) (found : Lookup)
  | issue (s : Inputs) (t : Ticket)
  | compute (s : Inputs) (e : Evaluation)
  | commit (t : Ticket) (e : Evaluation) (stored : Bool)
  | clear

structure Desk where
  cache : ResultCache := {}
  tickets : List Ticket := []

inductive Step (b : Backend) : Desk → Use → Desk → Prop
  | get {d : Desk} {s : Inputs} {found : Lookup} {c : ResultCache}
      (h : d.cache.get b s = .ok (found, c)) : Step b d (.get s found) { d with cache := c }
  | issue (d : Desk) (s : Inputs) :
      Step b d (.issue s (d.cache.issue s).1)
        ⟨(d.cache.issue s).2, (d.cache.issue s).1 :: d.tickets⟩
  | compute {d : Desk} {s : Inputs} {e : Evaluation} {c : ResultCache}
      (h : d.cache.compute b s = .ok (e, c)) : Step b d (.compute s e) { d with cache := c }
  | commit {d : Desk} {t : Ticket} (e : Evaluation) (ht : t ∈ d.tickets) :
      Step b d (.commit t e (d.cache.commit t e).1)
        ⟨(d.cache.commit t e).2, d.tickets.erase t⟩
  | clear (d : Desk) : Step b d .clear { d with cache := d.cache.clear }

inductive Run (b : Backend) : List Use → Desk → Prop
  | start : Run b [] {}
  | snoc {us : List Use} {d d' : Desk} {u : Use} (h : Run b us d) (step : Step b d u d') :
      Run b (us ++ [u]) d'

variable {b : Backend} {us : List Use} {d : Desk}

theorem Run.split {before after : List Use} {u : Use} (h : Run b us d)
    (hus : us = before ++ u :: after) :
    ∃ d₀ d₁, Run b before d₀ ∧ Step b d₀ u d₁ ∧ Run b (before ++ [u]) d₁ := by
  induction h generalizing after with
  | start => simp at hus
  | @snoc us d₀ d₁ v h step ih =>
    rcases after.eq_nil_or_concat with rfl | ⟨after, w, rfl⟩
    · obtain ⟨rfl, hv⟩ := List.append_inj' hus rfl
      obtain rfl := List.singleton_inj.1 hv
      exact ⟨d₀, d₁, h, step, h.snoc step⟩
    · rw [List.concat_eq_append, ← List.cons_append, ← List.append_assoc] at hus
      exact ih (List.append_inj' hus rfl).1

def Use.isMiss : Use → Bool
  | .get _ found => found.recomputed
  | _ => false

def Use.isIssue : Use → Bool
  | .issue _ _ => true
  | _ => false

def Use.isCompute : Use → Bool
  | .compute _ _ => true
  | _ => false

def Use.reserves (u : Use) : Bool := u.isIssue || u.isMiss

def Use.fill? : Use → Option Nat
  | .get _ found => if found.recomputed then some found.generation else none
  | .commit t _ stored => if stored then some t.generation else none
  | _ => none

def reserved (us : List Use) : Nat := us.countP Use.isIssue + us.countP Use.isMiss

theorem reserved_append (us vs : List Use) : reserved (us ++ vs) = reserved us + reserved vs := by
  simp only [reserved, List.countP_append]
  omega

theorem reserved_cons (u : Use) (us : List Use) :
    reserved (u :: us) = (if u.reserves then 1 else 0) + reserved us := by
  have hu : u.isIssue = true → u.isMiss = false := by cases u <;> simp [Use.isIssue, Use.isMiss]
  simp only [reserved, Use.reserves, List.countP_cons, Bool.or_eq_true]
  by_cases hi : u.isIssue = true
  · have hm : ¬u.isMiss = true := by simp [hu hi]
    rw [if_pos hi, if_neg hm, if_pos (.inl hi)]
    omega
  · by_cases hm : u.isMiss = true
    · rw [if_neg hi, if_pos hm, if_pos (.inr hm)]
      omega
    · rw [if_neg hi, if_neg hm, if_neg (not_or.2 ⟨hi, hm⟩)]
      omega

theorem reserved_eq_countP (us : List Use) : reserved us = us.countP Use.reserves := by
  induction us with
  | nil => rfl
  | cons u us ih => rw [reserved_cons, ih, List.countP_cons, Nat.add_comm]

theorem reserved_eq_zero_iff : reserved us = 0 ↔ ∀ u ∈ us, u.reserves = false := by
  simp only [reserved_eq_countP, List.countP_eq_zero, Bool.not_eq_true]

end RegexStudio
