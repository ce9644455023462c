import LessonLexer.Proofs.Failing

/-!
# Decoding string literals

A text can be written between two quotes if a backslash is put before every quote of that sort in
it and before every backslash.  A backslash may be put before other characters as well; it makes no
difference.  `WrittenAs` says that a body writes a text in this way.

Reading undoes writing.  A scanner that is started on the opening quote finds the text that was
written, and stops behind the closing quote (`Act.scanLiteral_written`), and whenever it reports
nothing it has found something that was written.  Which quote closes the literal is not obvious from
the text: a quote does not if the number of backslashes right before it is odd.  With fragments
there is nothing to count.  That a body writes a text means that it splits into fragments
(`writtenAs_iff`), and then `StringBody.exists_fragments` says that every text begins with a written
body and the closing quote, or else is written all through, up to a backslash that ends it.
-/

namespace LessonLexer

/-! ## Writing -/

/-- Between two of the given quotes, the body writes the content: a backslash stands before every
quote and every backslash of the content, and it may stand before any character. -/
inductive WrittenAs (quote : Char) : List Char → List Char → Prop
  | nil : WrittenAs quote [] []
  | plain {c : Char} {content body : List Char} (hquote : c ≠ quote) (hbackslash : c ≠ '\\')
      (later : WrittenAs quote content body) : WrittenAs quote (c :: content) (c :: body)
  | escaped {content body : List Char} (c : Char) (later : WrittenAs quote content body) :
      WrittenAs quote (c :: content) ('\\' :: c :: body)

/-- What a body writes is the content of the fragments that it splits into. -/
theorem writtenAs_iff {quote : Char} {content body : List Char} :
    WrittenAs quote content body ↔
      ∃ fragments : List Fragment, (∀ fragment ∈ fragments, fragment.Inside quote) ∧
        content = fragments.map Fragment.char ∧ body = fragments.flatMap Fragment.raw := by
  constructor
  · intro h
    induction h with
    | nil => exact ⟨[], List.forall_mem_nil _, rfl, rfl⟩
    | @plain c content body hquote hbackslash later ih =>
      obtain ⟨fragments, hinside, rfl, rfl⟩ := ih
      exact ⟨.plain c :: fragments,
        List.forall_mem_cons.mpr ⟨⟨hquote, hbackslash⟩, hinside⟩, rfl, rfl⟩
    | @escaped content body c later ih =>
      obtain ⟨fragments, hinside, rfl, rfl⟩ := ih
      exact ⟨.escaped c :: fragments, List.forall_mem_cons.mpr ⟨trivial, hinside⟩, rfl, rfl⟩
  · rintro ⟨fragments, hinside, rfl, rfl⟩
    induction fragments with
    | nil => exact .nil
    | cons fragment fragments ih =>
      obtain ⟨hfirst, hlater⟩ := List.forall_mem_cons.mp hinside
      cases fragment with
      | plain c => exact .plain hfirst.1 hfirst.2 (ih hlater)
      | escaped c => exact .escaped c (ih hlater)

/-- The token of a string literal with the given content. -/
def Token.ofContent (content : List Char) (start : Location) : Token :=
  ⟨.string, String.ofList content, .text (String.ofList content), start⟩

/-! ## Reading what was written -/

namespace Item

variable {quote : Char} {text content body rest : List Char}

/-- A body that writes a content is read as fragments with that content, and closed. -/
theorem readString_written (hquote : isQuote quote = true) (h : WrittenAs quote content body)
    (rest : List Char) : ∃ fragments : List Fragment,
      content = fragments.map Fragment.char ∧ body = fragments.flatMap Fragment.raw ∧
        (readString [quote] quote (body ++ quote :: rest)).1 =
          .string [quote] quote fragments true := by
  obtain ⟨fragments, hinside, rfl, rfl⟩ := writtenAs_iff.mp h
  refine ⟨fragments, rfl, rfl, ?_⟩
  rw [readString, StringBody.read_closed (ne_backslash_of_isQuote hquote) hinside]

/-- Where nothing closes the literal, all of the text is read as fragments. -/
theorem readString_unclosed (hquote : isQuote quote = true)
    (hopen : ¬ ∃ content body rest, text = body ++ quote :: rest ∧ WrittenAs quote content body) :
    ∃ fragments : List Fragment,
      unescape text = fragments.map Fragment.char ∧ text = fragments.flatMap Fragment.raw ∧
        (readString [quote] quote text).1 = .string [quote] quote fragments false := by
  have hne := ne_backslash_of_isQuote hquote
  obtain ⟨fragments, tail, hinside, rfl, htail⟩ := StringBody.exists_fragments quote text
  rcases htail with rfl | rfl | ⟨rest, rfl⟩
  · rw [List.append_nil, readString, StringBody.read_open hne hinside]
    exact ⟨fragments, unescape_raw hinside, rfl, rfl⟩
  · have htext : fragments.flatMap Fragment.raw ++ ['\\'] =
        (fragments ++ [Fragment.plain '\\']).flatMap Fragment.raw := by
      rw [List.flatMap_append]
      rfl
    rw [readString, StringBody.read_open_backslash hne hinside, htext]
    exact ⟨fragments ++ [.plain '\\'], unescape_raw_backslash hinside, rfl, rfl⟩
  · exact absurd ⟨_, _, rest, rfl, writtenAs_iff.mpr ⟨fragments, hinside, rfl, rfl⟩⟩ hopen

end Item

namespace Act

variable {s : Session} {quote : Char} {text content body rest : List Char}

/-- What was written is found, nothing is reported, and the rest of the text remains. -/
theorem scanLiteral_written (hquote : Item.isQuote quote = true)
    (htext : s.remaining = quote :: (body ++ quote :: rest)) (h : WrittenAs quote content body)
    (start : Location) :
    scanLiteral [quote] start s =
      (s.skip (quote :: (body ++ [quote])), .ok (Token.ofContent content start)) := by
  obtain ⟨fragments, rfl, rfl, hitem⟩ := Item.readString_written hquote h rest
  rw [scanLiteral_cons htext, hitem, Session.takeFrom_of_closed rfl]
  rfl

/-- Where nothing closes the literal, all of the text is consumed and reported. -/
theorem scanLiteral_unclosed (hquote : Item.isQuote quote = true)
    (htext : s.remaining = quote :: text)
    (hopen : ¬ ∃ content body rest, text = body ++ quote :: rest ∧ WrittenAs quote content body)
    (start : Location) :
    scanLiteral [quote] start s =
      ((s.skip (quote :: text)).report
          (Fault.diagnostic (.unterminatedString (String.singleton quote)) start),
        .ok (Token.ofContent (unescape text) start)) := by
  obtain ⟨fragments, hcontent, hraw, hitem⟩ := Item.readString_unclosed hquote hopen
  have hconsumed : (Item.string [quote] quote fragments false).raw = quote :: text := by
    rw [Item.raw, hraw, if_neg Bool.false_ne_true, List.append_nil]
  rw [scanLiteral_cons htext, hitem, hcontent, Session.takeFrom, hconsumed]
  rfl

/-- **A string literal is decoded exactly.**  Started on the quote that opens a literal, the scanner
finds what was written between it and a closing quote, whatever text comes before and after; if it
reports nothing, it has found something that was written; and if nothing written is closed, it
consumes all of the text, reports this once, and finds what the text means without its end. -/
theorem scanLiteral_decodes (hquote : Item.isQuote quote = true)
    (htext : s.remaining = quote :: text) (start : Location) :
    s.step (.readString (String.singleton quote)) =
        ((scanLiteral [quote] s.here s).1, (scanLiteral [quote] s.here s).2.map .token) ∧
      (∀ content body rest, text = body ++ quote :: rest → WrittenAs quote content body →
        scanLiteral [quote] start s =
            (s.skip (quote :: (body ++ [quote])), .ok (Token.ofContent content start)) ∧
          (s.skip (quote :: (body ++ [quote]))).remaining = rest) ∧
      (∀ behind token, scanLiteral [quote] start s = (behind, .ok token) →
        behind.errors = s.errors → ∃ content body rest, text = body ++ quote :: rest ∧
          WrittenAs quote content body ∧ token = Token.ofContent content start ∧
            behind = s.skip (quote :: (body ++ [quote]))) ∧
      ((¬ ∃ content body rest, text = body ++ quote :: rest ∧ WrittenAs quote content body) →
        ∃ report : Diagnostic, report.code = some "L002" ∧ report.location = start ∧
          scanLiteral [quote] start s =
              ((s.skip (quote :: text)).report report,
                .ok (Token.ofContent (unescape text) start)) ∧
            (s.skip (quote :: text)).remaining = []) := by
  refine ⟨?_, ?_, ?_, ?_⟩
  · rw [← perform_eq, perform, map_apply, String.toList_singleton]
  · rintro content body rest rfl hwritten
    refine ⟨scanLiteral_written hquote htext hwritten start, Session.remaining_skip ?_⟩
    rw [htext, List.cons_append, List.append_assoc]
    rfl
  · intro behind token hscanned herrors
    by_cases hclosed : ∃ content body rest,
        text = body ++ quote :: rest ∧ WrittenAs quote content body
    · obtain ⟨content, body, rest, rfl, hwritten⟩ := hclosed
      cases (scanLiteral_written hquote htext hwritten start).symm.trans hscanned
      exact ⟨content, body, rest, rfl, hwritten, rfl, rfl⟩
    · cases (scanLiteral_unclosed hquote htext hclosed start).symm.trans hscanned
      exact absurd (List.append_right_eq_self.mp herrors) (List.cons_ne_nil _ _)
  · intro hopen
    refine ⟨_, rfl, rfl, scanLiteral_unclosed hquote htext hopen start, Session.remaining_skip ?_⟩
    rw [htext, List.append_nil]

/-- In the middle of a source an escaped quote does not close the literal, and the next one does. -/
theorem scanLiteral_decodes_escaped_quote :
    let s : Session :=
      { Session.ofSource "x'a\\'b'!" "f" with cursor := ⟨1, 1, 2⟩ }
    scanLiteral ['\''] s.here s =
      (s.skip "'a\\'b'".toList, .ok ⟨.string, "a'b", .text "a'b", ⟨"f", 1, 2, 1⟩⟩) := by
  intro s
  have hdecodes := @scanLiteral_decodes s '\'' ['a', '\\', '\'', 'b', '\'', '!'] (by decide)
    (by decide) s.here
  have hwritten : WrittenAs '\'' ['a', '\'', 'b'] ['a', '\\', '\'', 'b'] :=
    .plain (by decide) (by decide) (.escaped '\'' (.plain (by decide) (by decide) .nil))
  exact (hdecodes.2.1 _ _ ['!'] rfl hwritten).1

end Act

end LessonLexer
