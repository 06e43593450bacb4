import RegexStudio.Compiled
import RegexStudio.Proofs.PatternMarks

/-! The names of the groups of a compiled pattern. A name belongs to one group only, whichever
engine numbered the groups, and the whole match has no name. The linear engine drops what may not be
repeated at all, and with it the groups in there. -/

namespace RegexStudio

structure NamesApart (names : List (Option String)) : Prop where
  whole : ∀ name : String, names[0]? ≠ some (some name)
  apart : ∀ (i j : Nat) (name : String),
    names[i]? = some (some name) → names[j]? = some (some name) → i = j

/-- Names by number against the groups that have them: a number that no group has is unnamed, and
the last number is that of a group. -/
structure NamesGroups (groups : List (Nat × Option String)) (names : List (Option String)) :
    Prop where
  whole : names[0]? = some none
  named : ∀ group ∈ groups, names[group.1]? = some group.2
  only : ∀ (i : Nat) (name : String), names[i]? = some (some name) → (i, some name) ∈ groups
  last : ∀ i < names.length, i = 0 ∨ ∃ group ∈ groups, i ≤ group.1

theorem NamesGroups.apart {groups : List (Nat × Option String)} {names : List (Option String)}
    (h : NamesGroups groups names) (hnodup : (groups.filterMap Prod.snd).Nodup) :
    NamesApart names := by
  refine ⟨fun name hname => ?_, fun i j name hi hj => ?_⟩
  · rw [h.whole] at hname
    cases hname
  · by_contra hij
    have hsymm : Std.Symm fun a b : Nat × Option String =>
        ∀ x, a.2 = some x → ∀ y, b.2 = some y → x ≠ y :=
      ⟨fun a b hab x hx y hy => (hab y hy x hx).symm⟩
    have hdiffer := (List.pairwise_filterMap.1 hnodup).forall (h.only i name hi) (h.only j name hj)
      fun heq => hij (congrArg Prod.fst heq)
    exact hdiffer name rfl name rfl rfl

namespace Pattern

def Count.isZero (count : Count) : Bool := count.min == 0 && count.max? == Option.some 0

mutual

/-- The capturing groups in a part, those left out that stand in a repetition without rounds. -/
def Ast.keptGroups : Ast → List (Nat × Option String)
  | .repetition _ count _ sub => if count.isZero then [] else sub.keptGroups
  | .group _ kind sub => (Mark.opened kind).group?.toList ++ sub.keptGroups
  | .alternation _ items | .concat _ items => Ast.allKeptGroups items
  | _ => []

def Ast.allKeptGroups : List Ast → List (Nat × Option String)
  | [] => []
  | item :: rest => item.keptGroups ++ Ast.allKeptGroups rest

end

theorem groups_group (span : Span) (kind : GroupKind) (sub : Ast) :
    (Ast.group span kind sub).groups = (Mark.opened kind).group?.toList ++ sub.groups := by
  rw [Ast.groups, Ast.marks, List.filterMap_cons]
  cases (Mark.opened kind).group? <;> rfl

mutual

theorem keptGroups_sublist (ast : Ast) : ast.keptGroups.Sublist ast.groups := by
  match ast with
  | .repetition _ count _ sub =>
    rw [Ast.keptGroups]
    split
    · exact List.nil_sublist _
    · exact keptGroups_sublist sub
  | .group span kind sub =>
    rw [groups_group, Ast.keptGroups]
    exact (keptGroups_sublist sub).append_left _
  | .alternation _ items | .concat _ items => exact allKeptGroups_sublist items
  | .empty _ | .flags .. | .literal _ | .dot _ | .assertion .. | .property .. | .perl ..
  | .bracket .. => exact List.nil_sublist _

theorem allKeptGroups_sublist (items : List Ast) :
    (Ast.allKeptGroups items).Sublist ((Ast.allMarks items).filterMap Mark.group?) := by
  match items with
  | [] => exact List.nil_sublist _
  | item :: rest =>
    rw [Ast.allKeptGroups, Ast.allMarks, List.filterMap_append]
    exact (keptGroups_sublist item).append (allKeptGroups_sublist rest)

end

theorem Tally.increasing {groups kept : List (Nat × Option String)} (h : Tally groups)
    (hkept : kept.Sublist groups) :
    kept.Pairwise (fun a b => a.1 < b.1) ∧ ∀ group ∈ kept, 1 ≤ group.1 := by
  have hrange : (groups.map Prod.fst).Pairwise (· < ·) := h.numbers ▸ List.pairwise_lt_range'
  refine ⟨(List.pairwise_map.1 hrange).sublist hkept, fun group hgroup => ?_⟩
  have hmem : group.1 ∈ groups.map Prod.fst := List.mem_map_of_mem (hkept.subset hgroup)
  rw [h.numbers] at hmem
  exact (List.mem_range'_1.1 hmem).1

end Pattern

namespace Linear

namespace Expr

def groups : Expr → List (Nat × Option String)
  | empty | set _ | look _ => []
  | cat a b | alt a b => a.groups ++ b.groups
  | rep _ _ _ sub => sub.groups
  | cap index name sub => (index, name) :: sub.groups

theorem groups_concat (es : List Expr) : (concat es).groups = es.flatMap groups := by
  match es with
  | [] => rfl
  | [e] => exact (List.append_nil _).symm
  | e :: e' :: rest =>
    have ih := groups_concat (e' :: rest)
    exact congrArg (e.groups ++ ·) ih

theorem groups_choice (es : List Expr) : (choice es).groups = es.flatMap groups := by
  match es with
  | [] => rfl
  | [e] => exact (List.append_nil _).symm
  | e :: e' :: rest =>
    have ih := groups_choice (e' :: rest)
    exact congrArg (e.groups ++ ·) ih

theorem groups_repeated (lo : Nat) (hi : Option Nat) (greedy : Bool) (sub : Expr) :
    (repeated lo hi greedy sub).groups =
      if lo == 0 && hi == some 0 then [] else sub.groups := by
  have hnone : ((if sub.isZeroWidth then some (min (hi.getD 1) 1) else hi) == some 0 &&
      (if sub.isZeroWidth then min lo 1 else lo) == 0) = (lo == 0 && hi == some 0) := by
    cases sub.isZeroWidth with
    | false => exact Bool.and_comm _ _
    | true =>
      rw [Bool.eq_iff_iff]
      cases hi with
      | none => simp
      | some n =>
        simp
        omega
  rw [repeated, hnone, apply_ite groups, apply_ite groups]
  exact congrArg _ (ite_self _)

def addName (names : List (Option String)) (group : Nat × Option String) : List (Option String) :=
  if group.1 < names.length then names
  else names ++ List.replicate (group.1 - names.length) none ++ [group.2]

theorem go_eq_foldl (e : Expr) (names : List (Option String)) :
    groupNames.go e names = e.groups.foldl addName names := by
  induction e generalizing names with
  | empty | set | look => rfl
  | cat a b iha ihb | alt a b iha ihb => rw [groupNames.go, iha, ihb, groups, List.foldl_append]
  | rep lo hi greedy sub ih => exact ih names
  | cap index name sub ih => exact ih _

theorem getElem?_addName {names : List (Option String)} {group : Nat × Option String}
    (h : names.length ≤ group.1) (i : Nat) :
    (addName names group)[i]? =
      if i < names.length then names[i]?
      else if i < group.1 then some none
      else if i = group.1 then some group.2 else none := by
  have hlength : (names ++ List.replicate (group.1 - names.length) none).length = group.1 := by
    rw [List.length_append, List.length_replicate]
    omega
  rw [addName, if_neg (Nat.not_lt.2 h), List.getElem?_append, hlength, List.getElem?_append]
  split
  · rename_i hi
    split
    · rfl
    · exact List.getElem?_replicate_of_lt (by omega)
  · rename_i hi
    rw [if_neg (by omega), List.getElem?_singleton]
    congr 1
    simp only [eq_iff_iff]
    omega

theorem namesGroups_foldl {groups : List (Nat × Option String)}
    (hincreasing : groups.Pairwise (fun a b => a.1 < b.1)) (hpos : ∀ group ∈ groups, 1 ≤ group.1) :
    NamesGroups groups (groups.foldl addName [none]) := by
  induction groups using List.reverseRecOn with
  | nil =>
    refine ⟨rfl, fun _ h => (nomatch h), fun i name h => ?_, fun i hi => .inl ?_⟩
    · cases i <;> cases h
    · exact Nat.lt_one_iff.1 hi
  | append_singleton groups group ih =>
    obtain ⟨hgroups, -, hlast⟩ := List.pairwise_append.1 hincreasing
    obtain ⟨hposgroups, hposgroup⟩ := List.forall_mem_append.1 hpos
    have h := ih hgroups hposgroups
    rw [List.foldl_append, List.foldl_cons, List.foldl_nil]
    generalize groups.foldl addName [none] = names at h
    -- the new group is beyond the last one, so the list grows up to its number
    have hbeyond : names.length ≤ group.1 := by
      by_contra hlt
      rcases h.last group.1 (Nat.lt_of_not_le hlt) with hzero | ⟨earlier, hearlier, hle⟩
      · have hone := hposgroup group List.mem_cons_self
        omega
      · exact absurd hle (Nat.not_le.2 (hlast earlier hearlier group List.mem_cons_self))
    have hget := getElem?_addName hbeyond
    refine ⟨?_, List.forall_mem_append.2 ⟨fun earlier hearlier => ?_, ?_⟩, fun i name hi => ?_,
      fun i hi => .inr ⟨group, List.mem_append_right _ List.mem_cons_self, ?_⟩⟩
    · rw [hget, if_pos (List.getElem?_eq_some_iff.1 h.whole).1, h.whole]
    · have hnamed := h.named earlier hearlier
      rw [hget, if_pos (List.getElem?_eq_some_iff.1 hnamed).1, hnamed]
    · rw [List.forall_mem_singleton, hget, if_neg (Nat.not_lt.2 hbeyond),
        if_neg (Nat.lt_irrefl _), if_pos rfl]
    · rw [hget] at hi
      split at hi
      · exact List.mem_append_left _ (h.only i name hi)
      split at hi
      · cases hi
      split at hi
      · rename_i heq
        subst heq
        rw [← Option.some.inj hi]
        exact List.mem_append_right _ List.mem_cons_self
      · cases hi
    · by_contra hgt
      have hnone := hget i
      rw [if_neg (by omega), if_neg (by omega), if_neg (by omega), List.getElem?_eq_none_iff]
        at hnone
      omega

end Expr

namespace Meaning

open Pattern

theorem groups_literal {flags : Flags} {lit : Literal} {e : Expr}
    (h : literal flags lit = .ok e) : e.groups = [] := by
  unfold literal at h
  dsimp only at h
  repeat' split at h
  all_goals cases h
  all_goals rfl

theorem groups_dot {flags : Flags} {span : Span} {e : Expr} (h : dot flags span = .ok e) :
    e.groups = [] := by
  unfold dot at h
  repeat' split at h
  all_goals cases h
  all_goals rfl

mutual

theorem expr_groups {flags flags' : Flags} {ast : Ast} {e : Expr}
    (h : expr flags ast = .ok (e, flags')) : e.groups = ast.keptGroups := by
  match ast with
  | .empty _ | .flags .. | .assertion .. =>
    cases h
    rfl
  | .literal lit =>
    obtain ⟨e', he, h⟩ := bind_eq_ok.1 h
    cases h
    exact groups_literal he
  | .dot span =>
    obtain ⟨e', he, h⟩ := bind_eq_ok.1 h
    cases h
    exact groups_dot he
  | .property .. | .perl .. =>
    obtain ⟨s, -, h⟩ := bind_eq_ok.1 h
    cases h
    rfl
  | .bracket .. =>
    obtain ⟨s, -, h⟩ := bind_eq_ok.1 h
    obtain ⟨s', -, h⟩ := bind_eq_ok.1 h
    cases h
    rfl
  | .repetition _ count greedy sub =>
    obtain ⟨⟨e', flags₁⟩, he, h⟩ := bind_eq_ok.1 h
    cases h
    rw [Expr.groups_repeated, Ast.keptGroups, Count.isZero, expr_groups he]
  | .group _ kind sub =>
    cases kind with
    | capture index | named index name =>
      obtain ⟨⟨e', flags₁⟩, he, h⟩ := bind_eq_ok.1 h
      cases h
      exact congrArg (List.cons _) (expr_groups he)
    | plain entries =>
      obtain ⟨⟨e', flags₁⟩, he, h⟩ := bind_eq_ok.1 h
      cases h
      have ih := expr_groups he
      exact ih
  | .alternation _ branches =>
    obtain ⟨⟨es, flags₁⟩, hes, h⟩ := bind_eq_ok.1 h
    cases h
    rw [Expr.groups_choice]
    exact exprs_groups hes
  | .concat _ items =>
    obtain ⟨⟨es, flags₁⟩, hes, h⟩ := bind_eq_ok.1 h
    cases h
    rw [Expr.groups_concat]
    exact exprs_groups hes

theorem exprs_groups {flags flags' : Flags} {items : List Ast} {es : List Expr}
    (h : exprs flags items = .ok (es, flags')) :
    es.flatMap Expr.groups = Ast.allKeptGroups items := by
  match items with
  | [] =>
    cases h
    rfl
  | item :: rest =>
    obtain ⟨⟨e, flags₁⟩, he, h⟩ := bind_eq_ok.1 h
    obtain ⟨⟨es', flags₂⟩, hes, h⟩ := bind_eq_ok.1 h
    cases h
    rw [List.flatMap_cons, Ast.allKeptGroups, expr_groups he, exprs_groups hes]

end

end Meaning

/-- A compiled pattern has the names of the groups that are kept. -/
theorem Regex.compile_groups {pattern : List Char} {re : Regex} (h : compile pattern = .ok re) :
    ∃ ast, Pattern.parse pattern = .ok ast ∧ NamesGroups ast.keptGroups re.groupNames := by
  obtain ⟨e, hread, h⟩ := bind_eq_ok.1 h
  obtain ⟨ast, hast, hread⟩ := bind_eq_ok.1 hread
  obtain ⟨e', hmeaning, hread⟩ := bind_eq_ok.1 hread
  obtain ⟨⟨e'', flags⟩, hexpr, hmeaning'⟩ := bind_eq_ok.1 (mapError_eq_ok.1 hmeaning)
  cases hmeaning'
  split at hread
  · cases hread
    cases h
    have hparse := mapError_eq_ok.1 hast
    obtain ⟨hincreasing, hpos⟩ :=
      (Pattern.parse_tally hparse).increasing (Pattern.keptGroups_sublist ast)
    refine ⟨ast, hparse, ?_⟩
    have hnames := Expr.namesGroups_foldl hincreasing hpos
    rwa [← Meaning.expr_groups hexpr, ← Expr.go_eq_foldl, Meaning.expr_groups hexpr] at hnames
  · cases hread

theorem Regex.compile_apart {pattern : List Char} {re : Regex} (h : compile pattern = .ok re) :
    NamesApart re.groupNames := by
  obtain ⟨ast, hparse, hnames⟩ := compile_groups h
  have hkept := Pattern.keptGroups_sublist ast
  exact hnames.apart ((Pattern.parse_tally hparse).apart.sublist (hkept.filterMap _))

end Linear

namespace Backtracking.Regex

theorem namesByNumber_apart (groups : Nat) (names : List (List Char × Nat)) :
    NamesApart (namesByNumber groups names) := by
  -- a number shows a name only if the name leads back to it
  have hlookup : ∀ (i : Nat) (name : String),
      (namesByNumber groups names)[i]? = some (some name) →
        names.lookup name.toList = some i := by
    intro i name hi
    cases i with
    | zero => cases hi
    | succ i =>
      rw [namesByNumber, List.getElem?_cons_succ, List.getElem?_map] at hi
      obtain ⟨k, hk, hname⟩ := Option.map_eq_some_iff.1 hi
      obtain ⟨entry, hentry, rfl⟩ := Option.map_eq_some_iff.1 hname
      have hfound := List.find?_some hentry
      obtain ⟨_, hget⟩ := List.getElem?_eq_some_iff.1 hk
      rw [List.getElem_range] at hget
      simp only [Bool.and_eq_true, beq_iff_eq] at hfound
      rw [String.toList_ofList, hfound.2, hfound.1, hget]
  refine ⟨fun name hname => (nomatch hname), fun i j name hi hj => ?_⟩
  exact Option.some.inj ((hlookup i name hi).symm.trans (hlookup j name hj))

theorem compile_apart {pattern : List Char} {re : Regex} (h : compile pattern = .ok re) :
    NamesApart re.groupNames := by
  obtain ⟨parsed, -, h⟩ := bind_eq_ok.1 h
  obtain ⟨a, -, h⟩ := bind_eq_ok.1 h
  split at h
  · obtain ⟨linear, -, h⟩ := bind_eq_ok.1 h
    cases h
    exact namesByNumber_apart _ _
  · obtain ⟨plan, -, h⟩ := bind_eq_ok.1 h
    cases h
    exact namesByNumber_apart _ _

end Backtracking.Regex

end RegexStudio
