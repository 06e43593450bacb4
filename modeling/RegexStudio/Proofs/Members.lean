import Mathlib.Data.String.Basic
import RegexStudio.Json.Value

/-! Members sorted by key, as a map from keys to values. Putting members into such a list changes
the values under their keys and no others, and two lists with the same values are the same list. -/

namespace RegexStudio.Json

def ByKey (members : List (String × Json)) : Prop := members.Pairwise fun m m' => m.1 < m'.1

def insertAll (members added : List (String × Json)) : List (String × Json) :=
  added.foldl (fun acc m => insertMember m.1 m.2 acc) members

variable {members members' added : List (String × Json)} {key : String} {value : Json}

theorem lookup_cons_eq_ite {β : Type} (m : String × β) (rest : List (String × β)) (k : String) :
    (m :: rest).lookup k = if k = m.1 then some m.2 else rest.lookup k := by
  by_cases h : k = m.1
  · rw [if_pos h, h, List.lookup_cons_self]
  · rw [if_neg h, List.lookup_cons, beq_false_of_ne h]

theorem lookup_insertMember (key : String) (value : Json) (members : List (String × Json))
    (k : String) :
    (insertMember key value members).lookup k =
      if k = key then some value else members.lookup k := by
  induction members with
  | nil => exact lookup_cons_eq_ite _ _ _
  | cons m rest ih =>
    rw [lookup_cons_eq_ite]
    unfold insertMember
    split
    · rename_i hsame
      obtain rfl : key = m.1 := beq_iff_eq.1 hsame
      rw [lookup_cons_eq_ite]
      split <;> rfl
    rename_i hother
    split
    · rw [lookup_cons_eq_ite, lookup_cons_eq_ite]
    · -- the key stands further on, so it is not the first one
      rw [lookup_cons_eq_ite, ih]
      have hne : key ≠ m.1 := fun heq => hother (beq_iff_eq.2 heq)
      by_cases h : k = m.1
      · rw [if_pos h, if_pos h, if_neg (h ▸ hne.symm)]
      · rw [if_neg h, if_neg h]

theorem lookup_insertAll (members added : List (String × Json)) (k : String) :
    (insertAll members added).lookup k = (added.reverse.lookup k).or (members.lookup k) := by
  induction added generalizing members with
  | nil => rfl
  | cons m rest ih =>
    have hstep : insertAll members (m :: rest) =
        insertAll (insertMember m.1 m.2 members) rest := rfl
    rw [hstep, ih, lookup_insertMember, List.reverse_cons, List.lookup_append, Option.or_assoc,
      lookup_cons_eq_ite]
    split <;> rfl

theorem byKey_cons {m : String × Json} :
    ByKey (m :: members) ↔ (∀ m' ∈ members, m.1 < m'.1) ∧ ByKey members := List.pairwise_cons

theorem mem_insertMember {m : String × Json} (h : m ∈ insertMember key value members) :
    m = (key, value) ∨ m ∈ members := by
  induction members with
  | nil => exact .inl (List.mem_singleton.1 h)
  | cons m' rest ih =>
    unfold insertMember at h
    split at h
    · exact (List.mem_cons.1 h).imp_right (List.mem_cons_of_mem _)
    split at h
    · exact List.mem_cons.1 h
    · rcases List.mem_cons.1 h with rfl | h
      · exact .inr List.mem_cons_self
      · exact (ih h).imp_right (List.mem_cons_of_mem _)

theorem mem_insertAll {m : String × Json} (h : m ∈ insertAll members added) :
    m ∈ added ∨ m ∈ members := by
  induction added generalizing members with
  | nil => exact .inr h
  | cons m' rest ih =>
    rcases ih h with hrest | hmembers
    · exact .inl (List.mem_cons_of_mem _ hrest)
    · rcases mem_insertMember hmembers with rfl | hold
      · exact .inl List.mem_cons_self
      · exact .inr hold

theorem ByKey.insertMember (h : ByKey members) (key : String) (value : Json) :
    ByKey (insertMember key value members) := by
  induction members with
  | nil => exact List.pairwise_singleton _ _
  | cons m rest ih =>
    obtain ⟨hfirst, hrest⟩ := byKey_cons.1 h
    unfold Json.insertMember
    split
    · rename_i hsame
      obtain rfl : key = m.1 := beq_iff_eq.1 hsame
      exact byKey_cons.2 ⟨hfirst, hrest⟩
    rename_i hother
    split
    · rename_i hlt
      refine byKey_cons.2 ⟨fun m' hm' => ?_, h⟩
      rcases List.mem_cons.1 hm' with rfl | hm'
      · exact hlt
      · exact lt_trans hlt (hfirst m' hm')
    · rename_i hle
      have hne : m.1 ≠ key := fun heq => hother (beq_iff_eq.2 heq.symm)
      have hlt : m.1 < key := lt_of_le_of_ne (not_lt.1 hle) hne
      refine byKey_cons.2 ⟨fun m' hm' => ?_, ih hrest⟩
      rcases mem_insertMember hm' with rfl | hm'
      · exact hlt
      · exact hfirst m' hm'

theorem ByKey.insertAll (h : ByKey members) (added : List (String × Json)) :
    ByKey (insertAll members added) := by
  induction added generalizing members with
  | nil => exact h
  | cons m rest ih => exact ih (h.insertMember m.1 m.2)

theorem ByKey.lookup_eq_some_iff (h : ByKey members) {k : String} {v : Json} :
    members.lookup k = some v ↔ (k, v) ∈ members := by
  induction members with
  | nil => exact ⟨nofun, nofun⟩
  | cons m rest ih =>
    obtain ⟨hfirst, hrest⟩ := byKey_cons.1 h
    rw [lookup_cons_eq_ite, List.mem_cons]
    split
    · rename_i hk
      subst hk
      have hnot : (m.1, v) ∉ rest := fun hmem => lt_irrefl m.1 (hfirst (m.1, v) hmem)
      simp [hnot, Prod.ext_iff, eq_comm]
    · rename_i hk
      rw [ih hrest]
      simp [Prod.ext_iff, hk]

theorem lookup_reverse (h : (members.map Prod.fst).Nodup) (k : String) :
    members.reverse.lookup k = members.lookup k := by
  induction members with
  | nil => rfl
  | cons m rest ih =>
    obtain ⟨hnot, hrest⟩ := List.nodup_cons.1 h
    rw [List.reverse_cons, List.lookup_append, ih hrest, lookup_cons_eq_ite, lookup_cons_eq_ite]
    split
    · rename_i hk
      have hnone : rest.lookup k = none := List.lookup_eq_none_iff.2 fun m' hm' => by
        simp only [bne_iff_ne, ne_eq]
        rintro rfl
        exact hnot (hk ▸ List.mem_map_of_mem hm')
      rw [hnone, Option.none_or]
    · exact Option.or_none

theorem ByKey.lookup_reverse (h : ByKey members) (k : String) :
    members.reverse.lookup k = members.lookup k :=
  Json.lookup_reverse (List.pairwise_map.2 (h.imp fun hlt heq => (heq ▸ hlt).false)) k

theorem ByKey.ext (h : ByKey members) (h' : ByKey members')
    (hlookup : ∀ k, members.lookup k = members'.lookup k) : members = members' := by
  -- sorted lists with the same elements
  have hmem : ∀ m, m ∈ members ↔ m ∈ members' := fun m => by
    rw [← h.lookup_eq_some_iff, hlookup, h'.lookup_eq_some_iff]
  have hperm : members.Perm members' :=
    (List.perm_ext_iff_of_nodup (h.imp fun hlt heq => (heq ▸ hlt).false)
      (h'.imp fun hlt heq => (heq ▸ hlt).false)).2 hmem
  exact hperm.eq_of_pairwise (fun _ _ _ _ hlt hgt => absurd hgt (lt_asymm hlt)) h h'

end RegexStudio.Json
