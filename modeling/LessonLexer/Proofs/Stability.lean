import LessonLexer.Proofs.Seams

/-!
# Sources that go on

A source may go on behind its end in any way: the tokens of the shorter one are those of the longer
one, all but the last.

That the last token may change is plain; a word may grow, and a literal may be closed at last.  The
tokens before it do not change because the place of the last token is a seam (`Seam.extend`).  An
item in front of the seam looks at no more than one character beyond itself, and this character is
there: it belongs to the last token, or to what comes before that.
-/

namespace LessonLexer

/-- A seam with text behind it stays a seam when more text follows. -/
theorem Seam.extend {front back : List Char} (h : Seam front back) (hback : back ≠ [])
    (more : List Char) : Seam front (back ++ more) := by
  induction h with
  | blank hfront => exact Seam.blank hfront
  | @lead blanks rest back item hblanks hlead hrest ih =>
    have hnonempty : rest ++ back ≠ [] := fun hnil => hback (List.append_eq_nil_iff.mp hnil).2
    refine Seam.lead hblanks ?_ (ih hback)
    rw [← List.append_assoc]
    exact hlead.append hnonempty more

/-- The tokens of a longer text begin with those of the shorter one, without the last and without
the one for the end. -/
theorem exists_tokensFrom_append (file : String) (position : Position) (text more : List Char) :
    ∃ later, tokensFrom file position (text ++ more) =
      (wordsFrom file position text).dropLast ++ later := by
  rcases List.eq_nil_or_concat (wordsFrom file position text) with hnil | ⟨words, last, hwords⟩
  · exact ⟨_, by rw [hnil, List.dropLast_nil, List.nil_append]⟩
  · rw [List.concat_eq_append] at hwords
    have htokens := tokensFrom_eq file position text
    rw [hwords, List.append_assoc, List.singleton_append] at htokens
    obtain ⟨front, back, rfl, hseam, -, hfront, hback⟩ :=
      exists_seam_of_tokensFrom file position text _ _ _ htokens
    have hnonempty : back ≠ [] := by
      rintro rfl
      rw [tokensFrom_blank file _ isBlankText_nil] at hback
      cases hback
    refine ⟨tokensFrom file (position.after front) (back ++ more), ?_⟩
    rw [hwords, List.dropLast_concat, List.append_assoc,
      tokensFrom_append (hseam.extend hnonempty more), hfront]

/-- All tokens of a pass but the last one stand for something in the text. -/
theorem filter_ne_eof_tokens (source file : String) :
    (pass source file).tokens.filter (fun token => token.kind ≠ .eof) =
      wordsFrom file .start source.toList := by
  rw [pass_tokens, tokensFrom_eq, List.filter_append, List.filter_eq_self.mpr fun token hmem => ?_]
  · simp [endToken]
  · obtain ⟨placed, -, hgiven⟩ := List.mem_filterMap.mp hmem
    exact decide_eq_true (Placed.kind_ne_of_token? hgiven).1

/-- A pass over a longer source begins with the tokens of the shorter one up to the last. -/
theorem take_tokens_append (source more file : String) :
    (pass (source ++ more) file).tokens.take ((wordsFrom file .start source.toList).length - 1) =
      (wordsFrom file .start source.toList).dropLast := by
  obtain ⟨later, hlater⟩ := exists_tokensFrom_append file .start source.toList more.toList
  rw [pass_tokens, String.toList_append, hlater, ← List.length_dropLast, List.take_left]

/-- How many tokens of a source are settled, however it goes on: all but the last, not counting the
one for the end. -/
def settledCount (source file : String) : Nat :=
  ((pass source file).tokens.filter fun token => token.kind ≠ .eof).length - 1

/-- **Prefix stability.**  However a source goes on, its tokens stay as they are, in kind, lexeme,
value and location, up to the last one before the token for the end. -/
theorem pass_tokens_stable (source more other file : String) :
    ((pass source file).tokens.take (settledCount source file)).length =
        settledCount source file ∧
      (pass (source ++ more) file).tokens.take (settledCount source file) =
        (pass source file).tokens.take (settledCount source file) ∧
      (pass (source ++ other) file).tokens.take (settledCount source file) =
        (pass source file).tokens.take (settledCount source file) := by
  have hsettled : settledCount source file = (wordsFrom file .start source.toList).length - 1 := by
    rw [settledCount, filter_ne_eof_tokens]
  have hself := take_tokens_append source "" file
  rw [String.append_empty] at hself
  rw [hsettled, hself]
  exact ⟨List.length_dropLast, take_tokens_append source more file,
    take_tokens_append source other file⟩

end LessonLexer
