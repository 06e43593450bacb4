import RegexStudio.Output.Decode
import RegexStudio.Proofs.JsonWriting
import RegexStudio.Proofs.Members

/-! Values as they come back from their text: with the members of each object sorted. Sorting leaves
alone what is found under a name, and a value that is sorted already. Values with different texts
differ. What was read keeps to the bounds of the reader and is sorted. -/

namespace RegexStudio.Json

variable {members : List (String × Json)} {key : String} {value : Json}

theorem normalMembers_eq_map (members : List (String × Json)) :
    normalMembers members = members.map fun m => (m.1, normal m.2) := by
  induction members with
  | nil => rfl
  | cons m rest ih => rw [normalMembers, ih, List.map_cons]

theorem normal_object (members : List (String × Json)) : normal (.object members) =
    .object (insertAll [] (members.map fun m => (m.1, normal m.2))) := by
  rw [normal, normalMembers_eq_map]
  rfl

theorem member?_object (members : List (String × Json)) (key : String) :
    (object members).member? key = members.lookup key := by
  show (members.find? (·.1 == key)).map (·.2) = members.lookup key
  induction members with
  | nil => rfl
  | cons m rest ih =>
    rw [lookup_cons_eq_ite, List.find?_cons]
    by_cases h : m.1 = key
    · rw [beq_iff_eq.2 h, if_pos h.symm]
      rfl
    · rw [beq_false_of_ne h, if_neg (Ne.symm h)]
      exact ih

theorem field_object (members : List (String × Json)) (key : String) :
    (object members).field key = (members.lookup key).getD .null := by
  rw [field, member?_object]

theorem lookup_map {f : Json → Json} (members : List (String × Json)) (key : String) :
    (members.map fun m => (m.1, f m.2)).lookup key = (members.lookup key).map f := by
  induction members with
  | nil => rfl
  | cons m rest ih =>
    rw [List.map_cons, lookup_cons_eq_ite, lookup_cons_eq_ite, ih]
    split <;> rfl

def Distinct : Json → Prop
  | .object members => (members.map Prod.fst).Nodup
  | _ => False

theorem Distinct.eq_object {j : Json} (h : Distinct j) :
    ∃ members, j = .object members ∧ (members.map Prod.fst).Nodup := by
  cases j with
  | object members => exact ⟨members, rfl, h⟩
  | _ => exact h.elim

theorem member?_normal {j : Json} (h : Distinct j) (key : String) :
    (normal j).member? key = (j.member? key).map normal := by
  obtain ⟨members, rfl, hkeys⟩ := h.eq_object
  have hkeys' : ((members.map fun m => (m.1, normal m.2)).map Prod.fst).Nodup := by
    rwa [List.map_map]
  rw [normal_object, member?_object, member?_object, lookup_insertAll, lookup_reverse hkeys',
    lookup_map]
  exact Option.or_none

theorem field_normal {j : Json} (h : Distinct j) (key : String) :
    (normal j).field key = normal (j.field key) := by
  rw [field, field, member?_normal h]
  cases j.member? key <;> rfl

theorem Distinct.normal_eq_object {j : Json} (h : Distinct j) :
    ∃ members, normal j = .object members := by
  obtain ⟨members, rfl, -⟩ := h.eq_object
  exact ⟨_, normal_object members⟩

theorem record?_normal {j : Json} (h : Distinct j) (names : List String) :
    (normal j).record? names = some (normal j) := by
  obtain ⟨members, hj⟩ := h.normal_eq_object
  rw [hj]
  rfl

@[simp] theorem lookup_optional (key : String) (value : Option Json) (k : String) :
    (optional key value).lookup k = if k = key then value else none := by
  cases value with
  | none => exact (ite_self none).symm
  | some v => exact lookup_cons_eq_ite _ _ _

mutual

def Sorted : Json → Prop
  | .array items => SortedItems items
  | .object members => ByKey members ∧ SortedMembers members
  | _ => True

def SortedItems : List Json → Prop
  | [] => True
  | item :: rest => Sorted item ∧ SortedItems rest

def SortedMembers : List (String × Json) → Prop
  | [] => True
  | (_, v) :: rest => Sorted v ∧ SortedMembers rest

end

theorem insertAll_nil (h : ByKey members) : insertAll [] members = members :=
  (ByKey.insertAll List.Pairwise.nil members).ext h fun k => by
    rw [lookup_insertAll, h.lookup_reverse]
    exact Option.or_none

mutual

theorem normal_of_sorted (j : Json) (h : Sorted j) : normal j = j := by
  match j with
  | .null | .bool _ | .integer _ | .double _ | .string _ => rfl
  | .array items => rw [normal, normalItems_of_sorted items h]
  | .object members =>
    rw [normal, normalMembers_of_sorted members h.2]
    exact congrArg object (insertAll_nil h.1)
termination_by structural j

theorem normalItems_of_sorted (items : List Json) (h : SortedItems items) :
    normalItems items = items := by
  match items with
  | [] => rfl
  | item :: rest => rw [normalItems, normal_of_sorted item h.1, normalItems_of_sorted rest h.2]
termination_by structural items

theorem normalMembers_of_sorted (members : List (String × Json)) (h : SortedMembers members) :
    normalMembers members = members := by
  match members with
  | [] => rfl
  | (k, v) :: rest => rw [normalMembers, normal_of_sorted v h.1, normalMembers_of_sorted rest h.2]
termination_by structural members

end

theorem pieceOf_injective : Function.Injective fun s : String => s.toList.map pieceOf :=
  fun s s' h => Option.some.inj ((stringOf?_pieceOf s).symm.trans
    ((congrArg stringOf? h).trans (stringOf?_pieceOf s')))

theorem numeral_injective : Function.Injective numeral := by
  intro n n' h
  obtain ⟨hsign, hwhole⟩ : decide (n < 0) = decide (n' < 0) ∧
      Nat.toDigits 10 n.natAbs = Nat.toDigits 10 n'.natAbs := by
    injection h with hsign hwhole
    exact ⟨hsign, hwhole⟩
  have habs : n.natAbs = n'.natAbs := by
    rw [← Nat.ofDigitChars_ten_toDigits (n := n.natAbs), hwhole, Nat.ofDigitChars_ten_toDigits]
  have := decide_eq_decide.1 hsign
  omega

mutual

/-- The tree of a text tells the value that was written. -/
theorem written_injective (j j' : Json) (hj : exact j = true) (hj' : exact j' = true)
    (h : written j = written j') : j = j' := by
  match j with
  | .null =>
    cases j' with
    | null => rfl
    | double => cases hj'
    | _ => cases h
  | .double _ => cases hj
  | .bool b =>
    cases j' with
    | bool b' => rw [Written.bool.inj h]
    | _ => cases h
  | .integer n =>
    cases j' with
    | integer n' => rw [numeral_injective (Written.number.inj h)]
    | _ => cases h
  | .string s =>
    cases j' with
    | string s' => rw [pieceOf_injective (Written.string.inj h)]
    | _ => cases h
  | .array items =>
    cases j' with
    | array items' => rw [writtenItems_injective items items' hj hj' (Written.array.inj h)]
    | _ => cases h
  | .object members =>
    cases j' with
    | object members' =>
      rw [writtenMembers_injective members members' hj hj' (Written.object.inj h)]
    | _ => cases h
termination_by structural j

theorem writtenItems_injective (items items' : List Json) (hj : exactItems items = true)
    (hj' : exactItems items' = true) (h : writtenItems items = writtenItems items') :
    items = items' := by
  match items with
  | [] =>
    cases items' with
    | nil => rfl
    | cons => cases h
  | item :: rest =>
    cases items' with
    | nil => cases h
    | cons item' rest' =>
      obtain ⟨hitem, hrest⟩ := List.cons.inj h
      rw [exactItems, Bool.and_eq_true] at hj hj'
      rw [written_injective item item' hj.1 hj'.1 hitem,
        writtenItems_injective rest rest' hj.2 hj'.2 hrest]
termination_by structural items

theorem writtenMembers_injective (members members' : List (String × Json))
    (hj : exactMembers members = true) (hj' : exactMembers members' = true)
    (h : writtenMembers members = writtenMembers members') : members = members' := by
  match members with
  | [] =>
    cases members' with
    | nil => rfl
    | cons => cases h
  | (k, v) :: rest =>
    cases members' with
    | nil => cases h
    | cons m' rest' =>
      obtain ⟨hm, hrest⟩ := List.cons.inj h
      obtain ⟨hkey, hvalue⟩ := Prod.mk.inj hm
      rw [exactMembers, Bool.and_eq_true] at hj hj'
      rw [written_injective v m'.2 hj.1 hj'.1 hvalue, pieceOf_injective hkey,
        writtenMembers_injective rest rest' hj.2 hj'.2 hrest]
termination_by structural members

end

theorem eq_of_text {j j' : Json} (hj : exact j = true) (hj' : exact j' = true) {text : String}
    (h : IsText text (written j)) (h' : IsText text (written j')) : j = j' :=
  written_injective j j' hj hj' (h.unique h')

mutual

def Within (depth : Nat) : Json → Prop
  | .integer n => IsInteger n
  | .array items => 0 < depth ∧ WithinItems (depth - 1) items
  | .object members => 0 < depth ∧ WithinMembers (depth - 1) members
  | _ => True

def WithinItems (depth : Nat) : List Json → Prop
  | [] => True
  | item :: rest => Within depth item ∧ WithinItems depth rest

def WithinMembers (depth : Nat) : List (String × Json) → Prop
  | [] => True
  | (_, v) :: rest => Within depth v ∧ WithinMembers depth rest

end

theorem withinItems_iff {depth : Nat} {items : List Json} :
    WithinItems depth items ↔ ∀ j ∈ items, Within depth j := by
  induction items with
  | nil => exact ⟨fun _ => nofun, fun _ => trivial⟩
  | cons j items ih => rw [WithinItems, ih, List.forall_mem_cons]

theorem withinMembers_iff {depth : Nat} {members : List (String × Json)} :
    WithinMembers depth members ↔ ∀ m ∈ members, Within depth m.2 := by
  induction members with
  | nil => exact ⟨fun _ => nofun, fun _ => trivial⟩
  | cons m members ih => rw [WithinMembers, ih, List.forall_mem_cons]

theorem fitting_le {significand : Nat} (h : significand ≤ Reader.maxNatural) (ds : List Char) :
    (fitting significand ds).1 ≤ Reader.maxNatural := by
  induction ds generalizing significand with
  | nil => exact h
  | cons d ds ih =>
    unfold fitting
    dsimp only
    split
    · exact h
    · exact ih (Nat.not_lt.1 ‹_›)

theorem number_cases {n : Numeral} {v : Json} (h : n.value? = some v) :
    (∃ d, v = .double d) ∨ ∃ z, v = .integer z ∧ IsInteger z := by
  have hle := fitting_le (Nat.zero_le Reader.maxNatural) n.whole
  have hdouble {negative : Bool} {significand : Nat} {exponent : Int}
      (h : double? negative significand exponent = some v) : ∃ d, v = .double d := by
    obtain ⟨d, -, rfl⟩ := Option.map_eq_some_iff.1 h
    exact ⟨d, rfl⟩
  have hscaled {negative : Bool} {significand : Nat} {scale : Int}
      {exponent : Option (Bool × List Char)}
      (h : scaled? negative significand scale exponent = some v) : ∃ d, v = .double d := by
    unfold scaled? at h
    split at h
    · exact hdouble h
    · split at h
      · exact hdouble h
      · split at h <;> cases h
        exact ⟨_, rfl⟩
  unfold Numeral.value? at h
  generalize fitting 0 n.whole = fitted at h hle
  obtain ⟨significand, excess⟩ := fitted
  dsimp only at h hle
  unfold finished? at h
  split at h
  · cases h
    unfold wholeNumber
    split
    · refine .inr ⟨significand, rfl, ?_, Int.ofNat_le.2 hle⟩
      omega
    · split
      · exact .inl ⟨_, rfl⟩
      · rename_i hsmall
        refine .inr ⟨-(significand : Int), rfl, ?_, ?_⟩ <;> omega
  · exact .inl (hscaled h)
  · exact .inl (hscaled h)

/-- A property of values that may be read at some depth, as it comes about from their parts. -/
structure Kept (P : Nat → Json → Prop) : Prop where
  null : ∀ depth, P depth .null
  bool : ∀ depth b, P depth (.bool b)
  double : ∀ depth d, P depth (.double d)
  integer : ∀ depth n, IsInteger n → P depth (.integer n)
  string : ∀ depth s, P depth (.string s)
  array : ∀ depth items, 0 < depth → (∀ v ∈ items, P (depth - 1) v) → P depth (.array items)
  object : ∀ depth members, 0 < depth → ByKey members → (∀ m ∈ members, P (depth - 1) m.2) →
    P depth (.object members)

variable {P : Nat → Json → Prop}

mutual

theorem Kept.value? (hP : Kept P) (depth : Nat) (x : Written) (v : Json)
    (h : x.value? depth = some v) : P depth v := by
  match x with
  | .null =>
    cases h
    exact hP.null depth
  | .bool b =>
    cases h
    exact hP.bool depth b
  | .number n =>
    obtain ⟨d, rfl⟩ | ⟨z, rfl, hz⟩ := number_cases h
    · exact hP.double depth d
    · exact hP.integer depth z hz
  | .string ps =>
    obtain ⟨s, -, rfl⟩ := Option.map_eq_some_iff.1 h
    exact hP.string depth s
  | .array items =>
    obtain ⟨hdepth, h⟩ := Option.ite_none_left_eq_some.1 h
    obtain ⟨vs, hvs, rfl⟩ := Option.map_eq_some_iff.1 h
    exact hP.array depth vs (Nat.pos_of_ne_zero hdepth) (hP.valuesOf? (depth - 1) items vs hvs)
  | .object members =>
    obtain ⟨hdepth, h⟩ := Option.ite_none_left_eq_some.1 h
    obtain ⟨vs, hvs, rfl⟩ := Option.map_eq_some_iff.1 h
    have hall := hP.membersOf? (depth - 1) members vs hvs
    refine hP.object depth _ (Nat.pos_of_ne_zero hdepth)
      (ByKey.insertAll List.Pairwise.nil vs) fun m hm => hall m ?_
    exact (mem_insertAll hm).resolve_right List.not_mem_nil
termination_by structural x

theorem Kept.valuesOf? (hP : Kept P) (depth : Nat) (xs : List Written) (vs : List Json)
    (h : valuesOf? depth xs = some vs) : ∀ v ∈ vs, P depth v := by
  match xs with
  | [] =>
    cases h
    exact List.forall_mem_nil _
  | x :: xs =>
    obtain ⟨v, vs', hv, hvs, rfl⟩ := valuesOf?_cons.1 h
    exact List.forall_mem_cons.2 ⟨hP.value? depth x v hv, hP.valuesOf? depth xs vs' hvs⟩
termination_by structural xs

theorem Kept.membersOf? (hP : Kept P) (depth : Nat) (ms : List (List Piece × Written))
    (vs : List (String × Json)) (h : membersOf? depth ms = some vs) : ∀ m ∈ vs, P depth m.2 := by
  match ms with
  | [] =>
    cases h
    exact List.forall_mem_nil _
  | (k, x) :: ms =>
    obtain ⟨key, v, vs', -, hv, hvs, rfl⟩ := membersOf?_cons.1 h
    exact List.forall_mem_cons.2 ⟨hP.value? depth x v hv, hP.membersOf? depth ms vs' hvs⟩
termination_by structural ms

end

/-- What comes about from the parts of a value holds of all that was read. -/
theorem Kept.of_parse (hP : Kept P) {text : String} {v : Json} (h : parse text = .ok v) :
    P Reader.depthLimit v := by
  obtain ⟨x, -, hv⟩ := parse_iff.1 h
  exact hP.value? _ x v hv

theorem sortedItems_iff {items : List Json} : SortedItems items ↔ ∀ j ∈ items, Sorted j := by
  induction items with
  | nil => exact ⟨fun _ => nofun, fun _ => trivial⟩
  | cons j items ih => rw [SortedItems, ih, List.forall_mem_cons]

theorem sortedMembers_iff : SortedMembers members ↔ ∀ m ∈ members, Sorted m.2 := by
  induction members with
  | nil => exact ⟨fun _ => nofun, fun _ => trivial⟩
  | cons m members ih => rw [SortedMembers, ih, List.forall_mem_cons]

theorem within_of_parse {text : String} {v : Json} (h : parse text = .ok v) :
    Within Reader.depthLimit v := by
  have hkept : Kept Within :=
    { null := fun _ => trivial
      bool := fun _ _ => trivial
      double := fun _ _ => trivial
      integer := fun _ _ hn => hn
      string := fun _ _ => trivial
      array := fun _ _ hdepth hall => ⟨hdepth, withinItems_iff.2 hall⟩
      object := fun _ _ hdepth _ hall => ⟨hdepth, withinMembers_iff.2 hall⟩ }
  exact hkept.of_parse h

theorem sorted_of_parse {text : String} {v : Json} (h : parse text = .ok v) : Sorted v := by
  have hkept : Kept fun _ v => Sorted v :=
    { null := fun _ => trivial
      bool := fun _ _ => trivial
      double := fun _ _ => trivial
      integer := fun _ _ _ => trivial
      string := fun _ _ => trivial
      array := fun _ _ _ hall => sortedItems_iff.2 hall
      object := fun _ _ _ hkeys hall => ⟨hkeys, sortedMembers_iff.2 hall⟩ }
  exact hkept.of_parse h

end RegexStudio.Json
