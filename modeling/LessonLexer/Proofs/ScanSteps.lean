import LessonLexer.Proofs.ItemShape
import LessonLexer.Scan

/-!
# Scans, one item at a time

`scan` recurses on the length of the text, which is not the form in which a law about all texts
wants to see it.  To the scan a text is blank, or it is some blanks, the source text of an item, and
a rest.  The item is then the one that is read behind the blanks: `Item.Leads` says so.
`scanInduction` is the induction over this shape, and `scan_blank` and `scan_lead` are the equations
that go with it.
-/

namespace LessonLexer

/-- Text made of blanks only. -/
def IsBlankText (text : List Char) : Prop := ∀ c ∈ text, Text.isBlank c = true

/-- The item is read at the beginning of its source text followed by the rest, and no blank stands
there that would be skipped first. -/
structure Item.Leads (item : Item) (rest : List Char) : Prop where
  next : Item.next? (item.raw ++ rest) = some (item, rest)
  solid : Stops Text.isBlank (item.raw ++ rest)

/-! ## The two shapes of a text -/

theorem Item.next?_eq_none_iff {text : List Char} : Item.next? text = none ↔ text = [] := by
  cases text <;> simp [Item.next?]

/-- A text is blank, or an item leads what follows its first blanks. -/
theorem isBlankText_or_lead (text : List Char) :
    IsBlankText text ∨ ∃ (blanks : List Char) (item : Item) (rest : List Char),
      IsBlankText blanks ∧ item.Leads rest ∧ text = blanks ++ (item.raw ++ rest) := by
  cases hnext : Item.next? (text.dropWhile Text.isBlank) with
  | none =>
    rw [Item.next?_eq_none_iff] at hnext
    exact Or.inl (List.dropWhile_eq_nil_iff.mp hnext)
  | some found =>
    obtain ⟨item, rest⟩ := found
    have hraw := Item.raw_append_of_next? hnext
    refine Or.inr ⟨text.takeWhile Text.isBlank, item, rest, fun c hc => ?_, ⟨?_, ?_⟩, ?_⟩
    · exact List.mem_takeWhile_imp hc
    · rw [hraw, hnext]
    · rw [hraw]
      exact stops_dropWhile Text.isBlank text
    · rw [hraw, List.takeWhile_append_dropWhile]

theorem Item.Leads.raw_ne_nil {item : Item} {rest : List Char} (h : item.Leads rest) :
    item.raw ≠ [] :=
  Item.raw_ne_nil_of_next? h.next

theorem Item.Leads.shape {item : Item} {rest : List Char} (h : item.Leads rest) :
    item.Shape rest :=
  Item.shape_of_next? h.next

/-- A blank text holds no item. -/
theorem scan_blank (position : Position) {text : List Char} (h : IsBlankText text) :
    scan position text = ⟨[], position.after text⟩ := by
  have hdrop : text.dropWhile Text.isBlank = [] := List.dropWhile_eq_nil_iff.mpr h
  rw [scan_of_none (by rw [hdrop, Item.next?_nil]), List.takeWhile_eq_self_iff.mpr h]

/-- The leading item comes first, and the scan goes on behind it. -/
theorem scan_lead (position : Position) {blanks rest : List Char} {item : Item}
    (hblanks : IsBlankText blanks) (hlead : item.Leads rest) :
    scan position (blanks ++ (item.raw ++ rest)) =
      (scan ((position.after blanks).after item.raw) rest).prepend
        [⟨position.after blanks, item⟩] := by
  have hdrop : (blanks ++ (item.raw ++ rest)).dropWhile Text.isBlank = item.raw ++ rest :=
    dropWhile_append_eq hblanks hlead.solid
  have htake : (blanks ++ (item.raw ++ rest)).takeWhile Text.isBlank = blanks :=
    takeWhile_append_eq hblanks hlead.solid
  rw [scan_of_next? (by rw [hdrop]; exact hlead.next), htake]

/-- Induction along a scan: over blank texts, and over texts with a leading item. -/
@[elab_as_elim]
theorem scanInduction {motive : Position → List Char → Prop}
    (blank : ∀ position text, IsBlankText text → motive position text)
    (lead : ∀ position blanks item rest, IsBlankText blanks → Item.Leads item rest →
      motive ((position.after blanks).after item.raw) rest →
      motive position (blanks ++ (item.raw ++ rest)))
    (position : Position) (text : List Char) : motive position text := by
  induction hlength : text.length using Nat.strongRecOn generalizing position text with
  | _ length ih =>
    rcases isBlankText_or_lead text with hblank | ⟨blanks, item, rest, hblanks, hlead, rfl⟩
    · exact blank position text hblank
    · have hpos := List.length_pos_iff.mpr hlead.raw_ne_nil
      have hlt : rest.length < length := by
        rw [← hlength, List.length_append, List.length_append]
        omega
      exact lead position blanks item rest hblanks hlead (ih rest.length hlt _ rest rfl)

/-! ## Where a scan goes -/

/-- A scan goes to the end of the text. -/
@[simp] theorem finish_scan (position : Position) (text : List Char) :
    (scan position text).finish = position.after text := by
  induction position, text using scanInduction with
  | blank position text hblank => rw [scan_blank position hblank]
  | lead position blanks item rest hblanks hlead ih =>
    rw [scan_lead position hblanks hlead, Position.after_append, Position.after_append, ← ih]
    rfl

/-- There are at most as many items as characters. -/
theorem length_items_scan_le (position : Position) (text : List Char) :
    (scan position text).items.length ≤ text.length := by
  induction position, text using scanInduction with
  | blank position text hblank =>
    rw [scan_blank position hblank]
    exact Nat.zero_le _
  | lead position blanks item rest hblanks hlead ih =>
    have hpos := List.length_pos_iff.mpr hlead.raw_ne_nil
    rw [scan_lead position hblanks hlead, Scan.prepend, List.length_append, List.length_append,
      List.length_append, List.length_singleton]
    omega

/-- Every item stands where the text before it ends. -/
theorem exists_front_of_mem_scan (position : Position) (text : List Char) :
    ∀ placed ∈ (scan position text).items, ∃ front back,
      text = front ++ back ∧ placed.position = position.after front := by
  induction position, text using scanInduction with
  | blank position text hblank => simp [scan_blank position hblank]
  | lead position blanks item rest hblanks hlead ih =>
    intro placed hmem
    rw [scan_lead position hblanks hlead] at hmem
    rcases List.mem_cons.mp hmem with rfl | hlater
    · exact ⟨blanks, item.raw ++ rest, rfl, rfl⟩
    · obtain ⟨front, back, hrest, hposition⟩ := ih placed hlater
      refine ⟨blanks ++ (item.raw ++ front), back, ?_, ?_⟩
      · rw [hrest, List.append_assoc, List.append_assoc]
      · rw [hposition, Position.after_append, Position.after_append]

end LessonLexer
