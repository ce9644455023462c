/-!
# Bodies of string literals

Between its quotes a string literal holds fragments: plain characters, and characters after a
backslash, which stand for themselves.  Reading goes on to the closing quote or, if there is none,
to the end of the text.  The test for the closing quote comes first, so an escaped quote never
closes; a backslash that is the very last character is plain.

## Main names

* `LessonLexer.Fragment`: a piece of a body, with its source text and the character it means.
* `LessonLexer.StringBody.read`: the body at the beginning of a text.
* `LessonLexer.StringBody.raw_append_rest`: reading loses nothing.
-/

namespace LessonLexer

/-- A piece of the body of a string literal. -/
inductive Fragment where
  | plain (c : Char)
  | escaped (c : Char)
deriving DecidableEq

namespace Fragment

/-- The source text of a fragment. -/
def raw : Fragment → List Char
  | .plain c => [c]
  | .escaped c => ['\\', c]

/-- The character that a fragment means. -/
def char : Fragment → Char
  | .plain c => c
  | .escaped c => c

end Fragment

/-- The body of a string literal, whether a closing quote ends it, and what follows. -/
structure StringBody where
  fragments : List Fragment
  closed : Bool
  rest : List Char

namespace StringBody

/-- The body with more fragments in front. -/
def prepend (fragments : List Fragment) (body : StringBody) : StringBody :=
  ⟨fragments ++ body.fragments, body.closed, body.rest⟩

/-- Reads a body after the fragments found so far, the latest first. -/
def readInto (quote : List Char) (found : List Fragment) : List Char → StringBody
  | [] => ⟨found.reverse, false, []⟩
  | [c] => if quote = [c] then ⟨found.reverse, true, []⟩ else ⟨(.plain c :: found).reverse, false, []⟩
  | c :: d :: rest =>
    if quote = [c] then ⟨found.reverse, true, d :: rest⟩
    else if c = '\\' then readInto quote (.escaped d :: found) rest
    else readInto quote (.plain c :: found) (d :: rest)

/-- The body at the beginning of a text.  A quote that is not a single character never closes. -/
def read (quote : List Char) (text : List Char) : StringBody := readInto quote [] text

/-! ## Reading one fragment at a time -/

/-- What was found earlier stands in front of what is read. -/
theorem readInto_append (quote : List Char) (found earlier : List Fragment) (text : List Char) :
    readInto quote (found ++ earlier) text =
      (readInto quote found text).prepend earlier.reverse := by
  fun_induction readInto quote found text with
  | case1 found => simp [readInto, prepend]
  | case2 found c hquote => simp [readInto, prepend, hquote]
  | case3 found c hquote => simp [readInto, prepend, hquote]
  | case4 found c d rest hquote => simp [readInto, prepend, hquote]
  | case5 found d rest hquote ih => rw [readInto, if_neg hquote, if_pos rfl, ← ih, List.cons_append]
  | case6 found c d rest hquote hc ih =>
    rw [readInto, if_neg hquote, if_neg hc, ← ih, List.cons_append]

theorem readInto_singleton (quote : List Char) (fragment : Fragment) (text : List Char) :
    readInto quote [fragment] text = (read quote text).prepend [fragment] :=
  readInto_append quote [] [fragment] text

@[simp] theorem read_nil (quote : List Char) : read quote [] = ⟨[], false, []⟩ := rfl

/-- A quote ends the body. -/
theorem read_quote (c : Char) (rest : List Char) : read [c] (c :: rest) = ⟨[], true, rest⟩ := by
  cases rest <;> simp [read, readInto]

/-- A backslash takes the next character along. -/
theorem read_escape {quote : List Char} (h : quote ≠ ['\\']) (d : Char) (rest : List Char) :
    read quote ('\\' :: d :: rest) = (read quote rest).prepend [.escaped d] := by
  rw [read, readInto, if_neg h, if_pos rfl, readInto_singleton]

/-- Any other character is plain, and so is a backslash at the very end. -/
theorem read_plain {quote : List Char} {c : Char} {rest : List Char} (hquote : quote ≠ [c])
    (hplain : c ≠ '\\' ∨ rest = []) :
    read quote (c :: rest) = (read quote rest).prepend [.plain c] := by
  cases rest with
  | nil => simp [read, readInto, prepend, hquote]
  | cons d rest =>
    have hc : c ≠ '\\' := by simpa using hplain
    rw [read, readInto, if_neg hquote, if_neg hc, readInto_singleton]

/-! ## Nothing is lost -/

/-- The source text of a body, with the quote that closed it. -/
def raw (quote : List Char) (body : StringBody) : List Char :=
  body.fragments.flatMap Fragment.raw ++ if body.closed then quote else []

theorem raw_prepend (quote : List Char) (fragment : Fragment) (body : StringBody) :
    raw quote (body.prepend [fragment]) = fragment.raw ++ raw quote body := by
  simp only [raw, prepend, List.flatMap_append, List.flatMap_singleton, List.append_assoc]
  rfl

/-- Reading loses nothing: the source text of the body and the rest make up the text. -/
theorem raw_append_rest (quote : List Char) :
    ∀ text : List Char, raw quote (read quote text) ++ (read quote text).rest = text
  | [] => rfl
  | [c] => by
    by_cases hquote : quote = [c]
    · subst hquote
      rw [read_quote]
      rfl
    · rw [read_plain hquote (Or.inr rfl), raw_prepend]
      rfl
  | c :: d :: rest => by
    by_cases hquote : quote = [c]
    · subst hquote
      rw [read_quote]
      rfl
    · by_cases hc : c = '\\'
      · subst hc
        rw [read_escape hquote, raw_prepend, List.append_assoc]
        exact congrArg (['\\', d] ++ ·) (raw_append_rest quote rest)
      · rw [read_plain hquote (Or.inl hc), raw_prepend, List.append_assoc]
        exact congrArg ([c] ++ ·) (raw_append_rest quote (d :: rest))

end StringBody
end LessonLexer
