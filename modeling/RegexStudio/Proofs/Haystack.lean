import RegexStudio.Text.Haystack

/-! Places in a text against byte offsets. Engines count characters and everyone else counts bytes;
up to the end of the text both orders are one, and so are the texts between two places. -/

namespace RegexStudio.Text

theorem byteLength_pos {cs : List Char} (h : cs ≠ []) : 0 < byteLength cs := by
  obtain ⟨c, rest, rfl⟩ := List.exists_cons_of_ne_nil h
  have hc := Char.utf8Size_pos c
  simp only [byteLength]
  omega

theorem byteLength_take_add (cs : List Char) {i j : Nat} (hij : i ≤ j) :
    byteLength (cs.take i) + byteLength ((cs.drop i).take (j - i)) = byteLength (cs.take j) := by
  rw [← byteLength_append]
  congr 1
  rw [← List.take_append_drop i (cs.take j), List.take_take, List.drop_take, Nat.min_eq_left hij]

namespace Haystack

variable {cs : List Char} {i j : Nat}

theorem size_ofChars (cs : List Char) : (ofChars cs).size = cs.length := List.size_toArray

theorem getElem?_offsetsFrom (start : Nat) (hi : i ≤ cs.length) :
    (offsetsFrom start cs)[i]? = some (start + byteLength (cs.take i)) := by
  induction cs generalizing start i with
  | nil =>
    obtain rfl : i = 0 := Nat.le_zero.1 hi
    rfl
  | cons c cs ih =>
    cases i with
    | zero => rfl
    | succ i =>
      have hi' : i ≤ cs.length := Nat.le_of_succ_le_succ hi
      simp only [offsetsFrom, List.getElem?_cons_succ, ih (start + c.utf8Size) hi',
        List.take_succ_cons, byteLength, Nat.add_assoc]

theorem offset_ofChars (hi : i ≤ cs.length) :
    (ofChars cs).offset i = byteLength (cs.take i) := by
  have h := getElem?_offsetsFrom 0 hi
  simp only [offset, ofChars, Array.getD_eq_getD_getElem?, List.getElem?_toArray, h,
    Option.getD_some, Nat.zero_add]

theorem offset_zero (cs : List Char) : (ofChars cs).offset 0 = 0 := offset_ofChars (Nat.zero_le _)

theorem offset_size (cs : List Char) : (ofChars cs).offset cs.length = byteLength cs := by
  rw [offset_ofChars (Nat.le_refl _), List.take_length]

theorem offset_le_offset (hij : i ≤ j) (hj : j ≤ cs.length) :
    (ofChars cs).offset i ≤ (ofChars cs).offset j := by
  have h := byteLength_take_add cs hij
  rw [offset_ofChars (Nat.le_trans hij hj), offset_ofChars hj]
  omega

theorem offset_lt_offset (hij : i < j) (hj : j ≤ cs.length) :
    (ofChars cs).offset i < (ofChars cs).offset j := by
  have h := byteLength_take_add cs (Nat.le_of_lt hij)
  have hpos : 0 < byteLength ((cs.drop i).take (j - i)) := by
    refine byteLength_pos fun hnil => ?_
    have hlen := congrArg List.length hnil
    rw [List.length_take, List.length_drop, List.length_nil] at hlen
    omega
  rw [offset_ofChars (Nat.le_trans (Nat.le_of_lt hij) hj), offset_ofChars hj]
  omega

theorem offset_le_offset_iff (hi : i ≤ cs.length) (hj : j ≤ cs.length) :
    (ofChars cs).offset i ≤ (ofChars cs).offset j ↔ i ≤ j := by
  refine ⟨fun h => Nat.le_of_not_lt fun hji => ?_, fun h => offset_le_offset h hj⟩
  exact absurd h (Nat.not_le.2 (offset_lt_offset hji hi))

theorem toList_slice (i j : Nat) :
    ((ofChars cs).slice i j).toList = (cs.drop i).take (j - i) := by
  simp only [slice, ofChars, String.toList_ofList, List.extract_toArray, List.extract_eq_take_drop]

theorem slice_offset (hij : i ≤ j) (hj : j ≤ cs.length) :
    Text.slice cs ((ofChars cs).offset i) ((ofChars cs).offset j) =
      some ((ofChars cs).slice i j).toList := by
  have hi : i ≤ cs.length := Nat.le_trans hij hj
  have hle := offset_le_offset hij hj
  have hsub := byteLength_take_add cs hij
  have hbefore : splitAtByte (byteLength (cs.take i)) cs = some (cs.take i, cs.drop i) := by
    have h := splitAtByte_byteLength (cs.take i) (cs.drop i)
    rwa [List.take_append_drop] at h
  have hpiece : splitAtByte (byteLength ((cs.drop i).take (j - i))) (cs.drop i) =
      some ((cs.drop i).take (j - i), (cs.drop i).drop (j - i)) := by
    have h := splitAtByte_byteLength ((cs.drop i).take (j - i)) ((cs.drop i).drop (j - i))
    rwa [List.take_append_drop] at h
  rw [offset_ofChars hi, offset_ofChars hj] at hle ⊢
  have hdiff : byteLength (cs.take j) - byteLength (cs.take i) =
      byteLength ((cs.drop i).take (j - i)) := by omega
  simp only [Text.slice, hbefore, hle, hdiff, hpiece, toList_slice, if_true, Option.bind_eq_bind,
    Option.bind_some]

end Haystack

def InOrder : Nat → List (Nat × Nat) → Prop
  | _, [] => True
  | last, span :: rest => last ≤ span.1 ∧ InOrder span.2 rest

instance decidableInOrder : (last : Nat) → (spans : List (Nat × Nat)) →
    Decidable (InOrder last spans)
  | _, [] => inferInstanceAs (Decidable True)
  | last, span :: rest =>
    have := decidableInOrder span.2 rest
    inferInstanceAs (Decidable (last ≤ span.1 ∧ InOrder span.2 rest))

theorem InOrder.weaken {last last' : Nat} {spans : List (Nat × Nat)} (h : InOrder last spans)
    (hle : last' ≤ last) : InOrder last' spans := by
  cases spans with
  | nil => trivial
  | cons span rest => exact ⟨Nat.le_trans hle h.1, h.2⟩

theorem inOrder_offset {cs : List Char} {last : Nat} {spans : List (Nat × Nat)}
    (hlast : last ≤ cs.length) (hspans : ∀ span ∈ spans, span.1 ≤ cs.length ∧ span.2 ≤ cs.length) :
    InOrder ((Haystack.ofChars cs).offset last)
        (spans.map fun span =>
          ((Haystack.ofChars cs).offset span.1, (Haystack.ofChars cs).offset span.2)) ↔
      InOrder last spans := by
  induction spans generalizing last with
  | nil => exact Iff.rfl
  | cons span rest ih =>
    obtain ⟨hspan, hrest⟩ := List.forall_mem_cons.1 hspans
    exact and_congr (Haystack.offset_le_offset_iff hlast hspan.1) (ih hspan.2 hrest)

end RegexStudio.Text
