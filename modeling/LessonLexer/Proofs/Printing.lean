import LessonLexer.Proofs.Gaps
import LessonLexer.Proofs.Stability

/-!
# Printing tokens

A list of tokens can be printed as a source text: each token in a form of its own, with a space
between two.  A pass over the printed text gives tokens with the same kinds, lexemes and values
again.

The printed form of a token need not be the source text that it came from.  A line break has a
stand-in as its lexeme and is printed as a line feed.  A string literal is written anew, in double
quotes and with as few backslashes as will do, and closed even if the source left it open.  But the
printed form always is the source text of an item with the content of the token (`Token.Prints`),
and one that stops at any gap, so the space behind it, or the end of the text, does not change it.
With that the law for a list is an induction over the tokens (`words_joined`).
-/

namespace LessonLexer

/-! ## Printed forms -/

/-- A text with a backslash before every double quote and every backslash. -/
def escape (text : List Char) : List Char :=
  text.flatMap fun c => if c = '"' ∨ c = '\\' then ['\\', c] else [c]

/-- The printed form of a token. -/
def Token.printed (token : Token) : String :=
  match token.kind with
  | .newline => "\n"
  | .string => String.ofList ('"' :: (escape token.lexeme.toList ++ ['"']))
  | _ => token.lexeme

/-- The tokens but the one for the end, printed with a space between two. -/
def printTokens (tokens : List Token) : String :=
  " ".intercalate ((tokens.filter fun token => token.kind ≠ .eof).map Token.printed)

/-- What a token says apart from its place. -/
def Token.content (token : Token) : Kind × String × Value :=
  (token.kind, token.lexeme, token.value)

theorem Token.printed_of_ne {token : Token} (hnewline : token.kind ≠ .newline)
    (hstring : token.kind ≠ .string) : token.printed = token.lexeme := by
  unfold Token.printed
  split
  · contradiction
  · contradiction
  · rfl

/-! ## Writing a string literal -/

/-- The fragment that a character is written as. -/
def Fragment.ofChar (c : Char) : Fragment :=
  if c = '"' ∨ c = '\\' then .escaped c else .plain c

@[simp] theorem Fragment.char_ofChar (c : Char) : (Fragment.ofChar c).char = c := by
  unfold Fragment.ofChar
  split <;> rfl

theorem Fragment.inside_ofChar (c : Char) : (Fragment.ofChar c).Inside '"' := by
  unfold Fragment.ofChar
  split
  · trivial
  · rename_i hc
    exact not_or.mp hc

theorem flatMap_raw_ofChar (text : List Char) :
    (text.map Fragment.ofChar).flatMap Fragment.raw = escape text := by
  rw [List.flatMap_map, escape]
  congr 1
  funext c
  unfold Fragment.ofChar
  split <;> rfl

/-- The literal that a text is written as. -/
def Item.ofText (text : List Char) : Item :=
  .string ['"'] '"' (text.map Fragment.ofChar) true

theorem Item.raw_ofText (text : List Char) :
    (Item.ofText text).raw = '"' :: (escape text ++ ['"']) := by
  rw [Item.ofText, Item.raw, flatMap_raw_ofChar]
  rfl

theorem Item.shape_ofText (text rest : List Char) : (Item.ofText text).Shape rest := by
  refine ⟨rfl, rfl, text.map Fragment.ofChar, fun fragment hmem => ?_, Or.inl ⟨rfl, rfl⟩⟩
  obtain ⟨c, -, rfl⟩ := List.mem_map.mp hmem
  exact Fragment.inside_ofChar c

theorem Item.leads_ofText (text rest : List Char) : (Item.ofText text).Leads rest where
  next := Item.next?_of_shape (Item.shape_ofText text rest)
  solid := stops_cons.mpr (by decide)

/-! ## What is printed is read -/

/-- The token is printed as the source text of the item, which says the same, is closed and no
comment, and is read in front of any gap. -/
structure Token.Prints (token : Token) (item : Item) : Prop where
  raw_eq : item.raw = token.printed.toList
  content_eq : ∀ location, (item.token location).content = token.content
  not_comment : ∀ text, item ≠ .comment text
  closed : item.isOpen = false
  leads : ∀ {rest : List Char}, BeginsGap rest → item.Leads rest

/-- The token of an item that is not a string literal is printed as it was read. -/
theorem Item.Leads.prints {item : Item} {rest : List Char} (h : item.Leads rest)
    (hcomment : ∀ text, item ≠ .comment text) (hopen : item.isOpen = false) {location : Location}
    (hraw : item.raw = (item.token location).printed.toList) :
    (item.token location).Prints item where
  raw_eq := hraw
  content_eq _ := rfl
  not_comment := hcomment
  closed := hopen
  leads hgap := h.before_gap hcomment hopen hgap

/-- The token of a string literal is printed as a literal with its content. -/
theorem Token.prints_string (quote : List Char) (opening : Char) (body : List Fragment)
    (closed : Bool) (location : Location) :
    ((Item.string quote opening body closed).token location).Prints
      (Item.ofText (body.map Fragment.char)) where
  raw_eq := by
    rw [Item.raw_ofText]
    simp [Token.printed, Item.token, Item.kind, Item.lexeme]
  content_eq other := by
    simp [Token.content, Item.token, Item.ofText, Item.kind, Item.lexeme, Item.value,
      Function.comp_def]
  not_comment text heq := by cases heq
  closed := rfl
  leads _ := Item.leads_ofText _ _

/-- The token of an item that is read is printed as an item. -/
theorem Item.Leads.exists_prints {item : Item} {rest : List Char} (h : item.Leads rest)
    (hcomment : ∀ text, item ≠ .comment text) (location : Location) :
    ∃ printed, (item.token location).Prints printed := by
  cases item with
  | string quote opening body closed =>
    exact ⟨_, Token.prints_string quote opening body closed location⟩
  | comment text => exact absurd rfl (hcomment text)
  | newline =>
    refine ⟨_, h.prints hcomment rfl ?_⟩
    show ['\n'] = "\n".toList
    decide
  | word text =>
    refine ⟨_, h.prints hcomment rfl ?_⟩
    rw [Token.printed_of_ne (Kind.ofWord_ne rfl _) (Kind.ofWord_ne rfl _)]
    exact String.toList_ofList.symm
  | integer digits => exact ⟨_, h.prints hcomment rfl String.toList_ofList.symm⟩
  | float whole fraction => exact ⟨_, h.prints hcomment rfl String.toList_ofList.symm⟩
  | symbol sign => exact ⟨_, h.prints hcomment rfl String.toList_ofList.symm⟩
  | invalid c => exact ⟨_, h.prints hcomment rfl String.toList_ofList.symm⟩

theorem Placed.eq_token_of_token? {file : String} {placed : Placed} {token : Token}
    (h : placed.token? file = some token) :
    (∀ text, placed.item ≠ .comment text) ∧
      token = placed.item.token (placed.position.within file) := by
  obtain ⟨position, item⟩ := placed
  have hcomment : ∀ text, item ≠ .comment text := by
    rintro text rfl
    cases h
  rw [Placed.token?_eq_some hcomment] at h
  exact ⟨hcomment, (Option.some.inj h).symm⟩

/-- Every token of a text is printed as an item. -/
theorem exists_prints_of_mem_words {file : String} {position : Position} {text : List Char}
    {token : Token} (h : token ∈ wordsFrom file position text) : ∃ item, token.Prints item := by
  obtain ⟨placed, hplaced, hgiven⟩ := List.mem_filterMap.mp h
  obtain ⟨hcomment, rfl⟩ := Placed.eq_token_of_token? hgiven
  obtain ⟨before, after, front, rest, -, -, hcut⟩ := exists_cut_of_mem hplaced
  exact hcut.leads.exists_prints hcomment _

/-! ## Lists of tokens -/

/-- The printed forms of tokens with a space between two. -/
def joined (tokens : List Token) : List Char :=
  [' '].intercalate (tokens.map fun token => token.printed.toList)

/-- Behind the first token there is a gap, and then the others. -/
theorem exists_joined_cons (token : Token) (tokens : List Token) : ∃ gap, IsBlankText gap ∧
    BeginsGap (gap ++ joined tokens) ∧
      joined (token :: tokens) = token.printed.toList ++ (gap ++ joined tokens) := by
  cases tokens with
  | nil => exact ⟨[], isBlankText_nil, beginsGap_nil, by simp [joined]⟩
  | cons next tokens =>
    refine ⟨[' '], ?_, beginsGap_cons.mpr (by decide), by simp [joined]⟩
    intro c hc
    rw [List.mem_singleton.mp hc]
    rfl

/-- **Tokens that are printed as items are read again**, and no literal is open. -/
theorem words_joined (file : String) {tokens : List Token}
    (h : ∀ token ∈ tokens, ∃ item, token.Prints item) : ∀ position : Position,
      (wordsFrom file position (joined tokens)).map Token.content = tokens.map Token.content ∧
        ∀ placed ∈ (scan position (joined tokens)).items, placed.item.isOpen = false := by
  induction tokens with
  | nil =>
    intro position
    have hscan : scan position (joined []) = ⟨[], position⟩ := scan_blank _ isBlankText_nil
    simp [wordsFrom, hscan]
  | cons token tokens ih =>
    intro position
    obtain ⟨⟨item, hprints⟩, hlater⟩ := List.forall_mem_cons.mp h
    obtain ⟨gap, hblanks, hgap, hjoined⟩ := exists_joined_cons token tokens
    have hscan : scan position (joined (token :: tokens)) =
        (scan ((position.after item.raw).after gap) (joined tokens)).prepend
          [⟨position, item⟩] := by
      have hlead := scan_lead position isBlankText_nil (hprints.leads hgap)
      rw [List.nil_append, Position.after_nil, scan_blanks_append _ hblanks] at hlead
      rw [hjoined, ← hprints.raw_eq, hlead]
    obtain ⟨hwords, hclosed⟩ := ih hlater ((position.after item.raw).after gap)
    rw [wordsFrom, hscan, filterMap_prepend, Placed.token?_eq_some hprints.not_comment]
    constructor
    · rw [List.map_append, ← wordsFrom, hwords]
      show (item.token _).content :: tokens.map Token.content = _
      rw [hprints.content_eq, List.map_cons]
    · intro placed hplaced
      rcases List.mem_cons.mp hplaced with rfl | hmem
      · exact hprints.closed
      · exact hclosed placed hmem

theorem toList_printTokens (source file : String) :
    (printTokens (pass source file).tokens).toList =
      joined (wordsFrom file .start source.toList) := by
  rw [printTokens, filter_ne_eof_tokens, String.toList_intercalate, List.map_map]
  rfl

/-! ## How many reports there are -/

/-- A text has as many reports of invalid characters as error tokens. -/
theorem countP_invalid_errors (file : String) (source : List Char) :
    (errorsFrom file .start source).countP (fun d => d.code = some "L001") =
      (tokensFrom file .start source).countP fun token => token.kind = .error := by
  obtain ⟨invalid, opened, herrors, hinvalid, hopened⟩ := exists_reports file source
  have hall : ∀ d ∈ invalid, d.code = some "L001" :=
    ((List.forall₂_and_left _ _).mp (hinvalid.imp fun d token h => ⟨h.code_eq, h⟩)).1
  have hnone : opened.toList.countP (fun d => d.code = some "L001") = 0 := by
    rcases hopened with ⟨rfl, -⟩ | ⟨diagnostic, token, rfl, -, hreports⟩
    · rfl
    · simp [hreports.code_eq]
  rw [herrors, List.countP_append, hnone, List.countP_eq_length.mpr (by simpa using hall),
    hinvalid.length_eq, List.countP_eq_length_filter, Nat.add_zero]

theorem countP_error_of_content {tokens tokens' : List Token}
    (h : tokens.map Token.content = tokens'.map Token.content) :
    tokens.countP (fun token => token.kind = .error) =
      tokens'.countP fun token => token.kind = .error := by
  have hcount : ∀ list : List Token, list.countP (fun token => token.kind = .error) =
      (list.map Token.content).countP fun content => content.1 = .error := by
    intro list
    rw [List.countP_map]
    rfl
  rw [hcount, hcount, h]

/-- The tokens of a source, printed as a source. -/
def reprinted (source file : String) : String := printTokens (pass source file).tokens

/-- **Printing and reading again.**  A pass over the printed tokens of a source gives tokens of the
same kinds, lexemes and values.  It reports no open string literal, and as many invalid characters
as the pass over the source. -/
theorem pass_printTokens (source file other : String) :
    (pass (reprinted source file) other).tokens.map Token.content =
        (pass source file).tokens.map Token.content ∧
      (∀ d ∈ (pass (reprinted source file) other).errors, d.code ≠ some "L002") ∧
      (pass (reprinted source file) other).errors.countP (fun d => d.code = some "L001") =
        (pass source file).errors.countP fun d => d.code = some "L001" := by
  obtain ⟨hwords, hclosed⟩ := words_joined other
    (fun token => @exists_prints_of_mem_words file .start source.toList token) .start
  have htokens : (pass (reprinted source file) other).tokens =
      tokensFrom other .start (joined (wordsFrom file .start source.toList)) := by
    rw [pass_tokens, reprinted, toList_printTokens]
  have herrors : (pass (reprinted source file) other).errors =
      errorsFrom other .start (joined (wordsFrom file .start source.toList)) := by
    rw [pass_errors, reprinted, toList_printTokens]
  have hcontent : (pass (reprinted source file) other).tokens.map Token.content =
      (pass source file).tokens.map Token.content := by
    rw [htokens, pass_tokens, tokensFrom_eq, tokensFrom_eq, List.map_append, List.map_append,
      hwords]
    rfl
  refine ⟨hcontent, fun d hd => ?_, ?_⟩
  · rw [herrors] at hd
    obtain ⟨placed, hplaced, hgiven⟩ := List.mem_filterMap.mp hd
    rw [Placed.code_of_diagnostic? hgiven (hclosed placed hplaced)]
    decide
  · rw [htokens, pass_tokens] at hcontent
    rw [herrors, pass_errors, countP_invalid_errors, countP_invalid_errors]
    exact countP_error_of_content hcontent

end LessonLexer
