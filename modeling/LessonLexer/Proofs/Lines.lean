import LessonLexer.Proofs.Relocation
import LessonLexer.Proofs.Reports

/-!
# Sources of whole lines

A source of whole lines, in which every string literal is closed, can be followed by any other.  The
pass over both records what the two passes record, the second moved below the first.

A source of whole lines ends with a line feed.  That line feed might belong to a literal, and what
follows would then be read as a part of it; but only a literal that is not closed ends with a line
feed, since a closed one ends with its quote.  All other items end before a line feed, so the last
one is an item of its own (`Item.Shape.eq_newline`), which looks at nothing behind it.  This makes
the end of the source a seam, whatever follows (`seam_of_lines`).
-/

namespace LessonLexer

/-- A text of whole lines: it is empty or ends with a line feed. -/
def IsLines (text : List Char) : Prop := text = [] ∨ ∃ front, text = front ++ ['\n']

theorem IsLines.of_append {front back : List Char} (h : IsLines (front ++ back)) :
    IsLines back := by
  rcases h with hnil | ⟨lines, hlines⟩
  · exact Or.inl (List.append_eq_nil_iff.mp hnil).2
  · rcases List.eq_nil_or_concat back with rfl | ⟨init, last, rfl⟩
    · exact Or.inl rfl
    · rw [List.concat_eq_append, ← List.append_assoc] at hlines
      obtain ⟨-, hlast⟩ := List.append_inj' hlines rfl
      exact Or.inr ⟨init, by rw [List.concat_eq_append, hlast]⟩

/-- Behind whole lines a new line begins. -/
theorem IsLines.start_after {text : List Char} (h : IsLines text) :
    Position.start.after text = ⟨text.length, 1 + text.count '\n', 1⟩ := by
  have hlast : lastLine text = [] := by
    rcases h with rfl | ⟨front, rfl⟩
    · rfl
    · exact lastLine_newline front
  rw [Position.start_after, hlast]
  rfl

/-- An item that ends with a line feed is a line break, unless it is an open literal. -/
theorem Item.Shape.eq_newline {item : Item} {rest front : List Char} (h : item.Shape rest)
    (hopen : item.isOpen = false) (hraw : item.raw = front ++ ['\n']) : item = .newline := by
  have hmem : '\n' ∈ item.raw := by
    rw [hraw]
    exact List.mem_append_right _ List.mem_cons_self
  have hplain (hcomment : item.kind ≠ .comment) (hstring : item.kind ≠ .string) :
      item = .newline := by
    rcases h.of_mem_raw hcomment hstring hmem with hpart | ⟨sign, hsign⟩ | hitem | rfl
    · exact absurd hpart (by decide)
    · exact absurd hsign sign.not_newline_mem_chars
    · exact hitem
    · exact absurd rfl h.2.1
  cases item with
  | comment text =>
    obtain ⟨⟨line, rfl, hline⟩, -⟩ := h
    rcases List.mem_cons.mp hmem with heq | hline'
    · exact absurd heq (by decide)
    · exact absurd hline' hline
  | string quote opening body closed =>
    cases closed with
    | true =>
      obtain ⟨hquote, rfl, -⟩ := h
      rw [raw, if_pos rfl, ← List.cons_append] at hraw
      obtain ⟨-, hlast⟩ := List.append_inj' hraw rfl
      rw [(List.cons.inj hlast).1] at hquote
      exact absurd hquote (by decide)
    | false => cases hopen
  | word text => exact hplain (Kind.ofWord_ne rfl _) (Kind.ofWord_ne rfl _)
  | _ => exact hplain (fun heq => by cases heq) (fun heq => by cases heq)

/-- Behind whole lines with closed literals there is a seam. -/
theorem seam_of_lines (position : Position) (text back : List Char) :
    IsLines text → (∀ placed ∈ (scan position text).items, placed.item.isOpen = false) →
      Seam text back := by
  induction position, text using scanInduction with
  | blank position text hblank => exact fun _ _ => Seam.blank hblank
  | lead position blanks item rest hblanks hlead ih =>
    intro hlines hclosed
    rw [scan_lead _ hblanks hlead] at hclosed
    obtain ⟨hopen, hlater⟩ := List.forall_mem_cons.mp hclosed
    have hrest : Seam rest back := ih hlines.of_append.of_append hlater
    refine Seam.lead hblanks ?_ hrest
    by_cases hend : rest = []
    · subst hend
      have hraw := hlines.of_append
      rw [List.append_nil] at hraw
      rcases hraw with hnil | ⟨front, hfront⟩
      · exact absurd hnil hlead.raw_ne_nil
      · obtain rfl := hlead.shape.eq_newline hopen hfront
        exact hlead.of_shape trivial
    · exact hlead.append hend back

/-- **Line-wise concatenation.**  If a source is made of whole lines and none of its diagnostics is
about a string literal that is not closed, then the pass over it and another source gives its
tokens, without the one for its end, and then those of the other source, as many characters and
lines further down; and likewise the diagnostics. -/
theorem pass_append_lines {a b file : String} (hlines : IsLines a.toList)
    (hclosed : ∀ d ∈ (pass a file).errors, d.code ≠ some "L002") :
    ∃ words last, (pass a file).tokens = words ++ [last] ∧ last.kind = .eof ∧
      (pass (a ++ b) file).tokens = words ++
        (pass b file).tokens.map (Token.move (Location.below a.length (a.toList.count '\n'))) ∧
      (pass (a ++ b) file).errors = (pass a file).errors ++
        (pass b file).errors.map
          (Diagnostic.move (Location.below a.length (a.toList.count '\n'))) := by
  rw [pass_errors] at hclosed
  have hseam : Seam a.toList b.toList :=
    seam_of_lines .start _ _ hlines (isOpen_eq_false_of_codes hclosed)
  have hbelow := carries_below file a.toList.length (a.toList.count '\n')
  rw [← hlines.start_after] at hbelow
  refine ⟨wordsFrom file .start a.toList, _, pass_tokens a file, rfl, ?_, ?_⟩
  · rw [pass_tokens, String.toList_append, tokensFrom_append hseam, tokensFrom_move hbelow,
      String.length_toList, pass_tokens]
  · rw [pass_errors, String.toList_append, errorsFrom_append hseam, errorsFrom_move hbelow,
      String.length_toList, pass_errors, pass_errors]

/-- A first source with a literal over two lines, and a second one that is an open literal. -/
theorem pass_append_lines_open_literal :
    IsLines "'a\n'\n".toList ∧ (∀ d ∈ (pass "'a\n'\n" "f").errors, d.code ≠ some "L002") ∧
      ∃ words last, (pass "'a\n'\n" "f").tokens = words ++ [last] ∧ last.kind = .eof ∧
        (pass ("'a\n'\n" ++ " '") "f").tokens =
          words ++ [⟨.string, "", .text "", ⟨"f", 3, 2, 6⟩⟩, ⟨.eof, "", .none, ⟨"f", 3, 3, 7⟩⟩] ∧
        (pass ("'a\n'\n" ++ " '") "f").errors =
          [Fault.diagnostic (.unterminatedString "'") ⟨"f", 3, 2, 6⟩] := by
  have hlines : IsLines "'a\n'\n".toList := Or.inr ⟨['\'', 'a', '\n', '\''], by decide⟩
  have herrors : (pass "'a\n'\n" "f").errors = [] := by decide +kernel
  have hclosed : ∀ d ∈ (pass "'a\n'\n" "f").errors, d.code ≠ some "L002" := by
    simp [herrors]
  have htokens' : (pass " '" "f").tokens =
      [⟨.string, "", .text "", ⟨"f", 1, 2, 1⟩⟩, ⟨.eof, "", .none, ⟨"f", 1, 3, 2⟩⟩] := by
    decide +kernel
  have herrors' : (pass " '" "f").errors =
      [Fault.diagnostic (.unterminatedString "'") ⟨"f", 1, 2, 1⟩] := by
    decide +kernel
  obtain ⟨words, last, hwords, hlast, htokens, hboth⟩ :=
    @pass_append_lines "'a\n'\n" " '" "f" hlines hclosed
  rw [htokens'] at htokens
  rw [herrors, herrors'] at hboth
  exact ⟨hlines, hclosed, words, last, hwords, hlast, htokens, hboth⟩

end LessonLexer
