import RegexStudio.Proofs.JsonWriting
import RegexStudio.Session

/-! Lines of bytes: where a stream is cut, and that lines of text without line ends of their own are
found again in what they make up. -/

namespace RegexStudio

/-- How a stream of bytes is cut into lines: each ends before a line feed, or before a carriage
return and a line feed; what comes after the last of them is one more line, unless it is empty. -/
inductive Cut : List UInt8 → List (List UInt8) → Prop
  | nothing : Cut [] []
  | last {line : List UInt8} (hline : 10 ∉ line) (hne : line ≠ []) : Cut line [line]
  | feed {line rest : List UInt8} {lines : List (List UInt8)} (hline : 10 ∉ line)
      (hreturn : line.getLast? ≠ some 13) (h : Cut rest lines) :
      Cut (line ++ 10 :: rest) (line :: lines)
  | returnFeed {line rest : List UInt8} {lines : List (List UInt8)} (hline : 10 ∉ line)
      (h : Cut rest lines) : Cut (line ++ 13 :: 10 :: rest) (line :: lines)

namespace Cut

variable {line rest input : List UInt8} {lines : List (List UInt8)}

theorem go_other {byte : UInt8} (hbyte : byte ≠ 10) (before : List UInt8) :
    byteLines.go before (byte :: rest) = byteLines.go (byte :: before) rest := by
  unfold byteLines.go
  rw [if_neg (by simpa using hbyte)]
  cases rest <;> rfl

theorem go_return (before : List UInt8) :
    byteLines.go (13 :: before) (10 :: rest) = before.reverse :: byteLines rest := rfl

theorem go_feed {before : List UInt8} (h : before.head? ≠ some 13) :
    byteLines.go before (10 :: rest) = before.reverse :: byteLines rest := by
  unfold byteLines.go
  rw [if_pos (by decide)]
  dsimp only
  split
  · exact absurd rfl h
  · rfl

theorem go_append (hline : 10 ∉ line) (before : List UInt8) :
    byteLines.go before (line ++ rest) = byteLines.go (line.reverse ++ before) rest := by
  induction line generalizing before with
  | nil => rfl
  | cons byte line ih =>
    obtain ⟨hbyte, hline⟩ := not_or.1 (List.mem_cons.not.1 hline)
    rw [List.cons_append, go_other (Ne.symm hbyte), ih hline, List.reverse_cons,
      List.append_assoc, List.singleton_append]

theorem byteLines_eq (h : Cut input lines) : byteLines input = lines := by
  induction h with
  | nothing => rfl
  | @last line hline hne =>
    rw [← List.append_nil line, byteLines, go_append hline, List.append_nil, List.append_nil,
      byteLines.go, if_neg (by simpa using hne), List.reverse_reverse]
  | @feed line rest lines hline hreturn _ ih =>
    rw [byteLines, go_append hline, List.append_nil, go_feed, ih, List.reverse_reverse]
    rwa [List.head?_reverse]
  | @returnFeed line rest lines hline _ ih =>
    have hline' : 10 ∉ line ++ [13] := by simpa using hline
    rw [List.append_cons line 13 (10 :: rest), byteLines, go_append hline', List.append_nil,
      List.reverse_concat, go_return, ih, List.reverse_reverse]

theorem go (hline : 10 ∉ line) (rest : List UInt8) :
    Cut (line.reverse ++ rest) (byteLines.go line rest) := by
  induction rest generalizing line with
  | nil =>
    rw [byteLines.go, List.append_nil]
    split
    · rename_i hempty
      rw [List.isEmpty_iff.1 hempty]
      exact .nothing
    · rename_i hne
      exact .last (List.mem_reverse.not.2 hline) (by simpa using hne)
  | cons byte rest ih =>
    by_cases hbyte : byte = 10
    · subst hbyte
      have hrest : Cut rest (byteLines rest) := ih List.not_mem_nil
      by_cases hreturn : line.head? = some 13
      · obtain ⟨before, rfl⟩ := List.head?_eq_some_iff.1 hreturn
        rw [go_return, List.reverse_cons, List.append_assoc]
        exact .returnFeed (by simpa using hline) hrest
      · rw [go_feed hreturn]
        exact .feed (List.mem_reverse.not.2 hline) (by rwa [List.getLast?_reverse]) hrest
    · have hmem : 10 ∉ byte :: line := fun h => (List.mem_cons.1 h).elim (Ne.symm hbyte) hline
      have := ih hmem
      rwa [go_other hbyte, ← List.singleton_append, ← List.append_assoc, ← List.reverse_cons]

end Cut

theorem cut_iff {input : List UInt8} {lines : List (List UInt8)} :
    Cut input lines ↔ byteLines input = lines := by
  refine ⟨Cut.byteLines_eq, ?_⟩
  rintro rfl
  exact Cut.go List.not_mem_nil input

def utf8 (s : String) : List UInt8 := s.toUTF8.data.toList

theorem utf8_eq (s : String) : utf8 s = s.toList.flatMap String.utf8EncodeChar := by
  unfold utf8
  rw [show s.toUTF8 = s.toList.utf8Encode from String.utf8Encode_toList.symm, List.utf8Encode]
  simp

theorem utf8_append (s t : String) : utf8 (s ++ t) = utf8 s ++ utf8 t := by
  rw [utf8_eq, utf8_eq, utf8_eq, String.toList_append, List.flatMap_append]

theorem textOf?_utf8 (s : String) : textOf? (utf8 s) = some s := by
  unfold textOf? utf8 String.fromUTF8?
  rw [dif_pos (show ByteArray.IsValidUTF8 ⟨s.toUTF8.data.toList.toArray⟩ from s.isValidUTF8)]
  rfl

theorem toNat_eq_of_mem_encode {c : Char} {byte : UInt8} (h : byte ∈ String.utf8EncodeChar c)
    (hbyte : byte.toNat < 0x80) : c.toNat = byte.toNat := by
  have hc : c.toNat = c.val.toNat := rfl
  unfold String.utf8EncodeChar at h
  dsimp only at h
  split at h
  · obtain rfl := List.mem_singleton.1 h
    rw [UInt8.toNat_ofNat']
    omega
  -- the bytes of longer characters are 128 and more
  all_goals
    exfalso
    repeat' split at h
    all_goals
      simp only [List.mem_cons, List.not_mem_nil, or_false] at h
      rcases h with rfl | rfl | rfl | rfl
    all_goals
      rw [UInt8.toNat_ofNat'] at hbyte
      omega

theorem not_mem_utf8 {s : String} {byte : UInt8} (hbyte : byte.toNat < 0x80)
    (h : Char.ofNat byte.toNat ∉ s.toList) : byte ∉ utf8 s := by
  rw [utf8_eq, List.mem_flatMap]
  rintro ⟨c, hc, hmem⟩
  rw [← toNat_eq_of_mem_encode hmem hbyte, Char.ofNat_toNat] at h
  exact h hc

/-- Texts without line ends of their own, each on a line, are found again. -/
theorem cut_lines {texts : List String} (h : ∀ s ∈ texts, Json.Unbroken s.toList) :
    Cut (utf8 (String.join (texts.map (· ++ "\n")))) (texts.map utf8) := by
  induction texts with
  | nil => exact .nothing
  | cons s texts ih =>
    have hs := h s List.mem_cons_self
    have hrest := ih fun s' hs' => h s' (List.mem_cons_of_mem _ hs')
    have hreturn : 13 ∉ utf8 s := not_mem_utf8 (by decide) hs.2
    rw [List.map_cons, List.map_cons, String.join_cons, utf8_append, utf8_append, List.append_assoc]
    exact .feed (not_mem_utf8 (by decide) hs.1)
      (fun hlast => hreturn (List.mem_of_getLast? hlast)) hrest

end RegexStudio
