import LessonLexer.Item

/-!
# Scanning a text

Scanning a text from a position gives its items in order, each with the position of its first
character, and the position at the end.  Blanks between items are skipped.  Every item takes at
least one character, so the text that remains gets shorter and the scan ends.

## Main names

* `LessonLexer.Placed`: an item and where it stands.
* `LessonLexer.scan`: the items of a text.
* `LessonLexer.scan_of_next?`: the scan one item at a time.
-/

namespace LessonLexer

/-- An item and the position of its first character. -/
structure Placed where
  position : Position
  item : Item
deriving DecidableEq

/-- The items of a text and the position at its end. -/
structure Scan where
  items : List Placed
  finish : Position
deriving DecidableEq

/-- Text without the blanks at its beginning is no longer. -/
theorem length_dropWhile_le (p : Char → Bool) (text : List Char) :
    (text.dropWhile p).length ≤ text.length :=
  (List.dropWhile_sublist p).length_le

/-- Scans a text after the items found so far, the latest first. -/
def scanInto (found : List Placed) (position : Position) (text : List Char) : Scan :=
  let start := position.after (text.takeWhile Text.isBlank)
  match _h : Item.next? (text.dropWhile Text.isBlank) with
  | none => ⟨found.reverse, start⟩
  | some (item, rest) => scanInto (⟨start, item⟩ :: found) (start.after item.raw) rest
termination_by text.length
decreasing_by
  have hnext := Item.length_lt_of_next? _h
  have hblank := length_dropWhile_le Text.isBlank text
  omega

/-- The items of a text that begins at a position. -/
def scan (position : Position) (text : List Char) : Scan := scanInto [] position text

/-! ## One item at a time -/

theorem scanInto_of_none {found : List Placed} {position : Position} {text : List Char}
    (h : Item.next? (text.dropWhile Text.isBlank) = none) :
    scanInto found position text =
      ⟨found.reverse, position.after (text.takeWhile Text.isBlank)⟩ := by
  rw [scanInto]
  split
  · rfl
  · rename_i hsome
    rw [h] at hsome
    cases hsome

theorem scanInto_of_some {found : List Placed} {position : Position} {text rest : List Char}
    {item : Item} (h : Item.next? (text.dropWhile Text.isBlank) = some (item, rest)) :
    scanInto found position text =
      scanInto (⟨position.after (text.takeWhile Text.isBlank), item⟩ :: found)
        ((position.after (text.takeWhile Text.isBlank)).after item.raw) rest := by
  rw [scanInto]
  split
  · rename_i hnone
    rw [h] at hnone
    cases hnone
  · rename_i item' rest' hsome
    rw [h] at hsome
    cases hsome
    rfl

/-- The scan with more items in front. -/
def Scan.prepend (items : List Placed) (s : Scan) : Scan := ⟨items ++ s.items, s.finish⟩

/-- What was found before stands in front of what is scanned. -/
theorem scanInto_eq (found : List Placed) (position : Position) (text : List Char) :
    scanInto found position text = (scan position text).prepend found.reverse := by
  induction hlength : text.length using Nat.strongRecOn generalizing found position text with
  | _ length ih =>
    subst hlength
    cases hnext : Item.next? (text.dropWhile Text.isBlank) with
    | none => simp [scan, scanInto_of_none hnext, Scan.prepend]
    | some next =>
      obtain ⟨item, rest⟩ := next
      have hlt : rest.length < text.length :=
        Nat.lt_of_lt_of_le (Item.length_lt_of_next? hnext) (length_dropWhile_le _ _)
      rw [scan, scanInto_of_some hnext, scanInto_of_some hnext,
        ih rest.length hlt (_ :: found) _ rest rfl, ih rest.length hlt [_] _ rest rfl]
      simp [Scan.prepend]

/-- Only blanks are left: there are no more items. -/
theorem scan_of_none {position : Position} {text : List Char}
    (h : Item.next? (text.dropWhile Text.isBlank) = none) :
    scan position text = ⟨[], position.after (text.takeWhile Text.isBlank)⟩ :=
  scanInto_of_none h

/-- The next item is placed after the blanks, and the scan goes on behind it. -/
theorem scan_of_next? {position : Position} {text rest : List Char} {item : Item}
    (h : Item.next? (text.dropWhile Text.isBlank) = some (item, rest)) :
    scan position text =
      (scan ((position.after (text.takeWhile Text.isBlank)).after item.raw) rest).prepend
        [⟨position.after (text.takeWhile Text.isBlank), item⟩] := by
  rw [scan, scanInto_of_some h, scanInto_eq]
  rfl

end LessonLexer
