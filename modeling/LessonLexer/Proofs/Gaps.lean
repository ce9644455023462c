import LessonLexer.Proofs.Reports

/-!
# Where an item stops for good

Most items stop where a gap begins, whatever character stopped them before.  A gap begins with a
blank or with the sign of a comment, and none of these characters goes on a word, a number or a
symbol.  So behind such an item the rest of the text may be exchanged for any text that is empty or
begins with a gap (`Item.Leads.before_gap`).

Two kinds of items are different.  A comment goes on over blanks, and over a second sign of a
comment; and a string literal that is not closed takes all there is.
-/

namespace LessonLexer

/-- The characters that a gap between tokens can begin with: the blanks, and the sign of a
comment. -/
def gapSigns : List Char := [' ', '\t', '\r', '#']

/-- The text is empty or begins with the first character of a gap. -/
def BeginsGap (text : List Char) : Prop := ∀ c ∈ text.head?, c ∈ gapSigns

theorem beginsGap_nil : BeginsGap [] := by
  intro c hc
  cases hc

theorem beginsGap_cons {c : Char} {text : List Char} : BeginsGap (c :: text) ↔ c ∈ gapSigns := by
  simp [BeginsGap]

theorem mem_gapSigns_of_isBlank {c : Char} (h : Text.isBlank c = true) : c ∈ gapSigns := by
  simp only [Text.isBlank, Bool.or_eq_true, beq_iff_eq] at h
  rcases h with (rfl | rfl) | rfl <;> decide

/-- A class without any of those characters stops where a gap begins. -/
theorem BeginsGap.stops {p : Char → Bool} {text : List Char} (h : BeginsGap text)
    (hp : gapSigns.any p = false) : Stops p text :=
  fun c hc => Bool.eq_false_iff.mpr (List.any_eq_false.mp hp c (h c hc))

/-- No longer symbol is completed by a gap. -/
theorem Symbol.read?_beginsGap (c : Char) {rest : List Char} (h : BeginsGap rest) :
    read? (c :: rest) = read? [c] := by
  have hequal : rest.head? ≠ some '=' := by
    intro hhead
    exact absurd (h '=' hhead) (by decide)
  have hfirst : ∀ op ∈ Compound.all, rest.head? ≠ some op.first := by
    intro op hop hhead
    have hall : ∀ op ∈ Compound.all, op.first ∉ gapSigns := by decide
    exact hall op hop (h op.first hhead)
  rw [read?, read?]
  cases hop : Compound.ofChar? c with
  | none => rfl
  | some op =>
    have hmem : op ∈ Compound.all := List.mem_of_find?_eq_some hop
    show op.resolve rest.head? = op.resolve none
    rw [Compound.resolve, if_neg hequal, if_neg fun hnext => hfirst op hmem hnext.1]
    rfl

namespace Item

/-- A closed item that is no comment keeps its shape where a gap follows instead. -/
theorem Shape.before_gap {item : Item} {rest rest' : List Char} (h : item.Shape rest)
    (hcomment : ∀ text, item ≠ .comment text) (hopen : item.isOpen = false)
    (hgap : BeginsGap rest') : item.Shape rest' := by
  cases item with
  | comment text => exact absurd rfl (hcomment text)
  | word text => exact ⟨h.1, hgap.stops (by decide)⟩
  | integer digits =>
    refine ⟨h.1, hgap.stops (by decide), fun hpoint => ?_⟩
    exact absurd (hgap '.' hpoint) (by decide)
  | float whole fraction => exact ⟨h.1, h.2.1, hgap.stops (by decide)⟩
  | string quote opening body closed =>
    obtain ⟨hquote, hopening, fragments, hinside, ⟨hclosed, hbody⟩ | ⟨rfl, -⟩⟩ := h
    · exact ⟨hquote, hopening, fragments, hinside, Or.inl ⟨hclosed, hbody⟩⟩
    · cases hopen
  | symbol sign =>
    show Symbol.read? (sign.chars ++ rest') = some sign
    cases hchars : sign.chars with
    | nil => exact absurd hchars sign.chars_ne_nil
    | cons c chars =>
      cases chars with
      | nil =>
        rw [List.singleton_append, Symbol.read?_beginsGap c hgap, ← hchars, Symbol.read?_chars]
      | cons d chars =>
        have hsame : (d :: chars ++ rest').head? = (d :: chars).head? := rfl
        rw [List.cons_append, Symbol.read?_congr c hsame, ← hchars, Symbol.read?_chars]
  | newline => trivial
  | invalid c =>
    refine ⟨h.1, h.2.1, ?_⟩
    rw [Symbol.read?_beginsGap c hgap]
    exact Symbol.read?_singleton_eq_none h.2.2

/-- A closed item that is no comment is read in front of any gap. -/
theorem Leads.before_gap {item : Item} {rest rest' : List Char} (h : item.Leads rest)
    (hcomment : ∀ text, item ≠ .comment text) (hopen : item.isOpen = false)
    (hgap : BeginsGap rest') : item.Leads rest' :=
  h.of_shape (h.shape.before_gap hcomment hopen hgap)

end Item
end LessonLexer
