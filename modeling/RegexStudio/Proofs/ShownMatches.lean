import RegexStudio.Proofs.Replacement

/-! What is shown of the matches of a subject: the text of each is the text between its offsets, and
matches in order make up the subject together with the gaps between them. -/

namespace RegexStudio

open Text (Haystack InOrder)

structure Capture.Faithful (subject : List Char) (names : List (Option String)) (m : Match)
    (c : Capture) : Prop where
  group : 1 ≤ c.group ∧ c.group < names.length
  name : c.name = (names[c.group]?).join
  span : m.start ≤ c.start ∧ c.start ≤ c.stop ∧ c.stop ≤ m.stop
  text : Text.slice subject c.start c.stop = some c.text.toList

structure Match.Faithful (subject : List Char) (names : List (Option String)) (m : Match) :
    Prop where
  span : m.start ≤ m.stop ∧ m.stop ≤ Text.byteLength subject
  text : Text.slice subject m.start m.stop = some m.text.toList
  groups : (m.captures.map Capture.group).Pairwise (· < ·)
  captures : ∀ c ∈ m.captures, c.Faithful subject names m

def Match.joined (subject : List Char) : Nat → List Match → Option (List Char)
  | last, [] => Text.slice subject last (Text.byteLength subject)
  | last, m :: ms => do
    let before ← Text.slice subject last m.start
    let after ← joined subject m.stop ms
    some (before ++ m.text.toList ++ after)

structure Match.Listed (subject : List Char) (ms : List Match) : Prop where
  span : ∀ m ∈ ms, m.start ≤ m.stop ∧ m.stop ≤ Text.byteLength subject
  text : ∀ m ∈ ms, Text.slice subject m.start m.stop = some m.text.toList
  inOrder : InOrder 0 (ms.map Match.span)
  length : ms.length ≤ subject.length + 1
  joined : Match.joined subject 0 ms = some subject

theorem length_le_of_increasing {l : List Nat} {n : Nat} (hl : l.Pairwise (· < ·))
    (hn : ∀ x ∈ l, x < n) : l.length ≤ n := by
  have hnodup : l.Nodup := hl.imp Nat.ne_of_lt
  have hsub : l ⊆ List.range n := fun x hx => List.mem_range.2 (hn x hx)
  have hle := (hnodup.subperm hsub).length_le
  rwa [List.length_range] at hle

namespace Hit

variable {cs : List Char} {names : List (Option String)} {hit : Hit}

theorem group_capturesFrom {h : Haystack} {index : Nat} {groups : List (Option (Nat × Nat))} :
    ((capturesFrom h names index groups).map Capture.group).Pairwise (· < ·) := by
  induction groups generalizing index with
  | nil => exact .nil
  | cons group rest ih =>
    cases group with
    | none => exact ih
    | some span =>
      refine List.pairwise_cons.2 ⟨fun g hg => ?_, ih⟩
      obtain ⟨c, hc, rfl⟩ := List.mem_map.1 hg
      exact (mem_capturesFrom hc).1

theorem span_capturesFrom {h : Haystack} {index : Nat} {groups : List (Option (Nat × Nat))}
    {c : Capture} (hc : c ∈ capturesFrom h names index groups) :
    c.group < index + groups.length ∧ ∃ span, some span ∈ groups ∧
      c.text = h.slice span.1 span.2 ∧ c.start = h.offset span.1 ∧ c.stop = h.offset span.2 := by
  induction groups generalizing index with
  | nil => cases hc
  | cons group rest ih =>
    rw [List.length_cons]
    have hrest (hc : c ∈ capturesFrom h names (index + 1) rest) :
        c.group < index + (rest.length + 1) ∧ ∃ span, some span ∈ group :: rest ∧
          c.text = h.slice span.1 span.2 ∧ c.start = h.offset span.1 ∧
          c.stop = h.offset span.2 := by
      obtain ⟨hlt, span, hspan, hc⟩ := ih hc
      exact ⟨by omega, span, List.mem_cons_of_mem _ hspan, hc⟩
    cases group with
    | none => exact hrest hc
    | some span =>
      rcases List.mem_cons.1 hc with rfl | hc
      · exact ⟨by change index < _; omega, span, List.mem_cons_self, rfl, rfl, rfl⟩
      · exact hrest hc

theorem span_toMatch (hspan : hit.start ≤ hit.stop) (hstop : hit.stop ≤ cs.length) :
    (hit.toMatch (.ofChars cs) names).start ≤ (hit.toMatch (.ofChars cs) names).stop ∧
      (hit.toMatch (.ofChars cs) names).stop ≤ Text.byteLength cs := by
  have hle := Haystack.offset_le_offset hstop (Nat.le_refl cs.length)
  rw [Haystack.offset_size] at hle
  exact ⟨Haystack.offset_le_offset hspan hstop, hle⟩

theorem faithful_toMatch (hspan : hit.start ≤ hit.stop) (hstop : hit.stop ≤ cs.length)
    (hlen : hit.groups.length = names.length - 1)
    (hgroups : ∀ span, some span ∈ hit.groups →
      hit.start ≤ span.1 ∧ span.1 ≤ span.2 ∧ span.2 ≤ hit.stop) :
    (hit.toMatch (.ofChars cs) names).Faithful cs names := by
  refine ⟨span_toMatch hspan hstop, Haystack.slice_offset hspan hstop, group_capturesFrom,
    fun c hc => ?_⟩
  obtain ⟨hlt, span, hmem, htext, hstart, hend⟩ := span_capturesFrom hc
  obtain ⟨hbefore, hle, hafter⟩ := hgroups span hmem
  have hspan' : span.2 ≤ cs.length := Nat.le_trans hafter hstop
  obtain ⟨hone, hname⟩ := mem_capturesFrom hc
  refine ⟨⟨hone, by omega⟩, hname, ?_, ?_⟩
  · rw [hstart, hend]
    exact ⟨Haystack.offset_le_offset hbefore (Nat.le_trans hle hspan'),
      Haystack.offset_le_offset hle hspan', Haystack.offset_le_offset hafter hstop⟩
  · rw [hstart, hend, htext]
    exact Haystack.slice_offset hle hspan'

theorem joined_toMatch {hits : List Hit} {last : Nat} (hlast : last ≤ cs.length)
    (hhits : ∀ hit ∈ hits, hit.start ≤ hit.stop ∧ hit.stop ≤ cs.length)
    (horder : InOrder last (hits.map span)) :
    Match.joined cs ((Haystack.ofChars cs).offset last)
      (hits.map (·.toMatch (.ofChars cs) names)) = some (cs.drop last) := by
  induction hits generalizing last with
  | nil =>
    have hslice := Haystack.slice_offset hlast (Nat.le_refl _)
    rw [Haystack.offset_size, Haystack.toList_slice] at hslice
    rw [List.map_nil, Match.joined, hslice, List.take_of_length_le (by simp)]
  | cons hit rest ih =>
    obtain ⟨⟨hle, hstop⟩, hrest⟩ := List.forall_mem_cons.1 hhits
    have hfirst : last ≤ hit.start := horder.1
    have hbefore := Haystack.slice_offset hfirst (Nat.le_trans hle hstop)
    have hafter := ih hstop hrest horder.2
    have hcut {i j : Nat} (hij : i ≤ j) : (cs.drop i).take (j - i) ++ cs.drop j = cs.drop i := by
      rw [← Nat.add_sub_cancel' hij, ← List.drop_drop, Nat.add_sub_cancel_left,
        List.take_append_drop]
    change (do
      let before ← Text.slice cs ((Haystack.ofChars cs).offset last)
        ((Haystack.ofChars cs).offset hit.start)
      let after ← Match.joined cs ((Haystack.ofChars cs).offset hit.stop) _
      some (before ++ ((Haystack.ofChars cs).slice hit.start hit.stop).toList ++ after)) = _
    rw [hbefore, hafter]
    simp only [Option.bind_eq_bind, Option.bind_some, Haystack.toList_slice, List.append_assoc,
      hcut hle, hcut hfirst]

theorem listed_toMatch {hits : List Hit}
    (hhits : ∀ hit ∈ hits, hit.start ≤ hit.stop ∧ hit.stop ≤ cs.length)
    (horder : InOrder 0 (hits.map span)) (hstops : (hits.map Hit.stop).Pairwise (· < ·)) :
    Match.Listed cs (hits.map (·.toMatch (.ofChars cs) names)) := by
  have hinside : ∀ hit ∈ hits, hit.start ≤ cs.length ∧ hit.stop ≤ cs.length := fun hit hhit =>
    ⟨Nat.le_trans (hhits hit hhit).1 (hhits hit hhit).2, (hhits hit hhit).2⟩
  have hordered := (inOrder_toMatch names (Nat.zero_le _) hinside).2 horder
  have hjoined := @joined_toMatch cs names hits 0 (Nat.zero_le _) hhits horder
  rw [Haystack.offset_zero] at hordered hjoined
  rw [List.drop_zero] at hjoined
  refine ⟨List.forall_mem_map.2 fun hit hhit => ?_, List.forall_mem_map.2 fun hit hhit => ?_,
    hordered, ?_, hjoined⟩
  · exact span_toMatch (hhits hit hhit).1 (hhits hit hhit).2
  · exact Haystack.slice_offset (hhits hit hhit).1 (hhits hit hhit).2
  · rw [List.length_map, ← List.length_map Hit.stop]
    exact length_le_of_increasing hstops
      (List.forall_mem_map.2 fun hit hhit => Nat.lt_succ_of_le (hhits hit hhit).2)

end Hit

end RegexStudio
