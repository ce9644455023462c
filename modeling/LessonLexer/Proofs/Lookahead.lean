import LessonLexer.Proofs.LongestMatch
import LessonLexer.Proofs.ScanSteps

/-!
# How far a reader looks

A reader looks at the characters of its item and at one character more.  So the rest of the text may
be exchanged behind an item as long as the character next to the item stays
(`Item.Leads.congr_head`), and all of the rest may be taken away, since no item needs a character
behind it (`Item.Leads.at_end`).  These two cover whatever can happen to a text at a place behind
an item: it may be cut there (`Item.Leads.of_append`), or more text may follow
(`Item.Leads.append`).

The way leads through `Item.Shape`, which speaks of the rest by its first character only.  That the
shape is not only necessary but sufficient for an item to be read is `Item.next?_of_shape`.
-/

namespace LessonLexer

/-! ## Symbols and the character behind them -/

namespace Symbol

/-- Reading a symbol looks at two characters. -/
theorem read?_congr (c : Char) {rest rest' : List Char} (h : rest.head? = rest'.head?) :
    read? (c :: rest) = read? (c :: rest') := by
  rw [read?, read?, h]

/-- A symbol that nothing follows is read as it is. -/
theorem read?_chars (sign : Symbol) : read? sign.chars = some sign := by
  have hall : ∀ sign ∈ all, read? sign.chars = some sign := by decide
  exact hall sign (mem_all sign)

/-- A character that begins no symbol is none itself. -/
theorem read?_singleton_eq_none {c : Char} {rest : List Char} (h : read? (c :: rest) = none) :
    read? [c] = none := by
  cases hsingle : read? [c] with
  | none => rfl
  | some sign =>
    have hbegins : sign.chars <+: c :: rest := by
      have hchars : sign.chars <+: [c] := ⟨_, chars_append_drop hsingle⟩
      exact hchars.trans (List.prefix_append [c] rest)
    obtain ⟨found, hfound, -⟩ := exists_read?_of_begins hbegins
    cases hfound.symm.trans h

end Symbol

/-! ## The shape of an item suffices -/

namespace Item

theorem readNumber_integer {digits rest : List Char} (hdigits : IsDigitRun digits)
    (hstop : Stops Text.isDigit rest) (hpoint : rest.head? ≠ some '.') :
    readNumber (digits ++ rest) = (.integer digits, rest) := by
  rw [readNumber, takeWhile_append_eq hdigits.2 hstop, dropWhile_append_eq hdigits.2 hstop]
  split
  · exact absurd rfl hpoint
  · rfl

theorem readNumber_float {whole fraction rest : List Char} (hwhole : IsDigitRun whole)
    (hfraction : ∀ c ∈ fraction, Text.isDigit c = true) (hstop : Stops Text.isDigit rest) :
    readNumber (whole ++ '.' :: (fraction ++ rest)) = (.float whole fraction, rest) := by
  rw [readNumber, takeWhile_append_eq hwhole.2 (stops_point _),
    dropWhile_append_eq hwhole.2 (stops_point _)]
  simp only [takeWhile_append_eq hfraction hstop, dropWhile_append_eq hfraction hstop]

theorem readSign_symbol {sign : Symbol} {c : Char} {chars rest : List Char}
    (hchars : sign.chars = c :: chars) (h : Symbol.read? (sign.chars ++ rest) = some sign) :
    readSign c (chars ++ rest) = (.symbol sign, rest) := by
  have hnewline : c ≠ '\n' := by
    rintro rfl
    exact sign.not_newline_mem_chars (hchars ▸ List.mem_cons_self)
  have hread : Symbol.read? (c :: (chars ++ rest)) = some sign := by
    rwa [hchars, List.cons_append] at h
  have hdrop : (c :: (chars ++ rest)).drop sign.chars.length = rest := by
    rw [← List.cons_append, ← hchars, List.drop_left]
  simp only [readSign, if_neg hnewline, hread, hdrop]

/-- An item with the shape of its form is what the reader takes. -/
theorem next?_of_shape {item : Item} {rest : List Char} (h : item.Shape rest) :
    next? (item.raw ++ rest) = some (item, rest) := by
  cases item with
  | comment text =>
    obtain ⟨⟨line, rfl, hline⟩, hstop⟩ := h
    have hinside : ∀ c ∈ '#' :: line, (c != '\n') = true := by
      refine List.forall_mem_cons.mpr ⟨by decide, fun c hc => bne_iff_ne.mpr ?_⟩
      rintro rfl
      exact hline hc
    have hread : readComment ('#' :: line ++ rest) = (.comment ('#' :: line), rest) := by
      rw [readComment, takeWhile_append_eq hinside hstop, dropWhile_append_eq hinside hstop]
    rw [raw, List.cons_append, next?_cons, ← hread]
    rfl
  | word text =>
    obtain ⟨⟨c, part, rfl, hstart, hpart⟩, hstop⟩ := h
    have hinside : ∀ d ∈ c :: part, Text.isWordPart d = true :=
      List.forall_mem_cons.mpr ⟨Text.isWordPart_of_isWordStart hstart, hpart⟩
    have hread : readWord (c :: part ++ rest) = (.word (c :: part), rest) := by
      rw [readWord, takeWhile_append_eq hinside hstop, dropWhile_append_eq hinside hstop]
    rw [raw, List.cons_append, next?_cons, Opening.of_wordStart hstart, ← hread]
    rfl
  | integer digits =>
    obtain ⟨hdigits, hstop, hpoint⟩ := h
    have hread := readNumber_integer hdigits hstop hpoint
    obtain ⟨c, digits, rfl, hc⟩ := hdigits.exists_cons
    rw [raw, List.cons_append, next?_cons, Opening.of_digit hc, ← hread]
    rfl
  | float whole fraction =>
    obtain ⟨hwhole, hfraction, hstop⟩ := h
    have hread := readNumber_float hwhole hfraction hstop
    obtain ⟨c, whole, rfl, hc⟩ := hwhole.exists_cons
    rw [raw, List.append_assoc, List.cons_append, List.cons_append, next?_cons,
      Opening.of_digit hc, ← hread]
    rfl
  | string quote opening body closed =>
    obtain ⟨hquote, rfl, fragments, hinside, hbody⟩ := h
    have hne := ne_backslash_of_isQuote hquote
    rw [raw, List.cons_append, next?_cons, Opening.of_quote hquote, Opening.read, readString]
    rcases hbody with ⟨rfl, rfl⟩ | ⟨rfl, rfl, rfl | rfl⟩
    · rw [if_pos rfl, List.append_assoc, List.singleton_append, StringBody.read_closed hne hinside]
    · rw [if_neg Bool.false_ne_true, List.append_nil, List.append_nil,
        StringBody.read_open hne hinside]
    · rw [if_neg Bool.false_ne_true, List.append_nil, List.append_nil, List.flatMap_append]
      simp only [List.flatMap_singleton, Fragment.raw, StringBody.read_open_backslash hne hinside]
  | symbol sign =>
    cases hchars : sign.chars with
    | nil => exact absurd hchars sign.chars_ne_nil
    | cons c chars =>
      have hread := readSign_symbol hchars h
      rw [raw, hchars, List.cons_append, next?_cons, Opening.of_symbol hchars, ← hread]
      rfl
  | newline =>
    rw [raw, List.singleton_append, next?_cons, Opening.of_newline]
    rfl
  | invalid c =>
    obtain ⟨hof, hnewline, hread⟩ := h
    rw [raw, List.singleton_append, next?_cons, hof]
    simp only [Opening.read, readSign, if_neg hnewline, hread]

/-! ## Changing what follows -/

/-- The shape of an item asks only for the first character of the rest. -/
theorem Shape.congr_head {item : Item} {rest rest' : List Char} (h : item.Shape rest)
    (hhead : rest.head? = rest'.head?) : item.Shape rest' := by
  have hstops {p : Char → Bool} (hstop : Stops p rest) : Stops p rest' := by
    rwa [Stops, ← hhead]
  cases item with
  | comment text => exact ⟨h.1, hstops h.2⟩
  | word text => exact ⟨h.1, hstops h.2⟩
  | integer digits => exact ⟨h.1, hstops h.2.1, hhead ▸ h.2.2⟩
  | float whole fraction => exact ⟨h.1, h.2.1, hstops h.2.2⟩
  | string quote opening body closed =>
    obtain ⟨hquote, hopening, fragments, hinside, hbody⟩ := h
    refine ⟨hquote, hopening, fragments, hinside, hbody.imp_right fun hopen => ?_⟩
    obtain ⟨hclosed, rfl, hfragments⟩ := hopen
    exact ⟨hclosed, List.head?_eq_none_iff.mp hhead.symm, hfragments⟩
  | symbol sign =>
    cases hchars : sign.chars with
    | nil => exact absurd hchars sign.chars_ne_nil
    | cons c chars =>
      have hnext : (chars ++ rest).head? = (chars ++ rest').head? := by
        rw [List.head?_append, List.head?_append, hhead]
      show Symbol.read? (sign.chars ++ rest') = some sign
      rw [hchars, List.cons_append, ← Symbol.read?_congr c hnext, ← List.cons_append, ← hchars]
      exact h
  | newline => trivial
  | invalid c => exact ⟨h.1, h.2.1, (Symbol.read?_congr c hhead).symm.trans h.2.2⟩

/-- The shape of an item asks for nothing at the end of the text. -/
theorem Shape.at_end {item : Item} {rest : List Char} (h : item.Shape rest) : item.Shape [] := by
  cases item with
  | comment text => exact ⟨h.1, stops_nil _⟩
  | word text => exact ⟨h.1, stops_nil _⟩
  | integer digits => exact ⟨h.1, stops_nil _, by simp⟩
  | float whole fraction => exact ⟨h.1, h.2.1, stops_nil _⟩
  | string quote opening body closed =>
    obtain ⟨hquote, hopening, fragments, hinside, hbody⟩ := h
    refine ⟨hquote, hopening, fragments, hinside, hbody.imp_right fun hopen => ?_⟩
    exact ⟨hopen.1, rfl, hopen.2.2⟩
  | symbol sign =>
    show Symbol.read? (sign.chars ++ []) = some sign
    rw [List.append_nil, Symbol.read?_chars]
  | newline => trivial
  | invalid c => exact ⟨h.1, h.2.1, Symbol.read?_singleton_eq_none h.2.2⟩

/-! ## Changing what follows a leading item -/

namespace Leads

variable {item : Item} {rest : List Char}

/-- Whether blanks stand before an item is not a matter of the rest. -/
theorem of_shape (h : item.Leads rest) {rest' : List Char} (hshape : item.Shape rest') :
    item.Leads rest' := by
  refine ⟨next?_of_shape hshape, fun c hc => h.solid c ?_⟩
  rwa [List.head?_append_of_ne_nil _ h.raw_ne_nil] at hc ⊢

/-- Behind a leading item the text may change if its first character stays. -/
theorem congr_head (h : item.Leads rest) {rest' : List Char} (hhead : rest.head? = rest'.head?) :
    item.Leads rest' :=
  h.of_shape (h.shape.congr_head hhead)

/-- Behind a leading item the text may end. -/
theorem at_end (h : item.Leads rest) : item.Leads [] := h.of_shape h.shape.at_end

/-- A text may be cut anywhere behind a leading item. -/
theorem of_append {back : List Char} (h : item.Leads (rest ++ back)) : item.Leads rest := by
  cases rest with
  | nil => exact h.at_end
  | cons c rest => exact h.congr_head rfl

/-- More text may follow if there is some behind the leading item. -/
theorem append (h : item.Leads rest) (hrest : rest ≠ []) (back : List Char) :
    item.Leads (rest ++ back) :=
  h.congr_head (List.head?_append_of_ne_nil _ hrest).symm

end Leads
end Item
end LessonLexer
