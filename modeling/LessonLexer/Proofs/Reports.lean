import LessonLexer.Proofs.Seams
import Mathlib.Data.List.Forall2

/-!
# Diagnostics mirror the tokens

A pass records two kinds of diagnostics in two different ways, and both can be told from its tokens.
Every token of an invalid character has its report, in the order of the tokens.  A string literal
that is not closed has one as well; but its token is like that of a closed one, and only the source
tells them apart (`Token.IsOpen`).  There is at most one such literal, and it comes last: it takes
all of the text that is left (`CutsAt.after_eq_nil`).

## Main names

* `BeginsClosed`: a text begins with a closed string literal, said without reading it.
* `EndsOpen`: the last token before the one for the end is a string literal that is not closed.
* `Diagnostic.ReportsInvalid`, `Diagnostic.ReportsOpen`: what a diagnostic says of a token.
-/

namespace LessonLexer

/-- A closed string literal stands at the beginning of the text. -/
def BeginsClosed (text : List Char) : Prop :=
  ∃ (quote : Char) (fragments : List Fragment), Item.isQuote quote = true ∧
    (∀ fragment ∈ fragments, fragment.Inside quote) ∧
    quote :: (fragments.flatMap Fragment.raw ++ [quote]) <+: text

/-- The token is a string literal, and in the source its closing quote is missing. -/
structure Token.IsOpen (token : Token) (source : List Char) : Prop where
  kind_eq : token.kind = .string
  unclosed : ¬ BeginsClosed (source.drop token.location.offset.toNat)

/-- The token is the last before the one for the end, and it is a string literal that is not
closed. -/
def EndsOpen (source : List Char) (tokens : List Token) (token : Token) : Prop :=
  (∃ words last, last.kind = .eof ∧ tokens = words ++ [token, last]) ∧ token.IsOpen source

/-- The diagnostic is the report of an invalid text, and the token is the one of that text. -/
structure Diagnostic.ReportsInvalid (diagnostic : Diagnostic) (token : Token) : Prop where
  code_eq : diagnostic.code = some "L001"
  location_eq : diagnostic.location = token.location
  message_eq : diagnostic.message = Fault.invalidMessage token.lexeme
  made : Diagnostic.ofInvalidText token.lexeme token.location = .ok diagnostic

/-- The diagnostic is the report of a string literal that is not closed, where the token is. -/
structure Diagnostic.ReportsOpen (diagnostic : Diagnostic) (token : Token) : Prop where
  code_eq : diagnostic.code = some "L002"
  location_eq : diagnostic.location = token.location
  made : ∃ quote, diagnostic = Fault.diagnostic (.unterminatedString quote) token.location

theorem EndsOpen.unique {source : List Char} {tokens : List Token} {token token' : Token}
    (h : EndsOpen source tokens token) (h' : EndsOpen source tokens token') : token' = token := by
  obtain ⟨⟨words, last, -, rfl⟩, -⟩ := h
  obtain ⟨⟨words', last', -, hsplit⟩, -⟩ := h'
  obtain ⟨-, hends⟩ := List.append_inj' hsplit rfl
  exact (List.cons.inj hends).1.symm

/-! ## Open items -/

namespace Item

/-- Whether an item is a string literal that is not closed. -/
def isOpen : Item → Bool
  | .string _ _ _ closed => !closed
  | _ => false

/-- A string literal that is not closed takes all of the text. -/
theorem Shape.rest_eq_nil {item : Item} {rest : List Char} (h : item.Shape rest)
    (hopen : item.isOpen = true) : rest = [] := by
  cases item with
  | string quote opening body closed =>
    obtain ⟨-, -, fragments, -, ⟨rfl, -⟩ | ⟨-, hrest, -⟩⟩ := h
    · cases hopen
    · exact hrest
  | _ => cases hopen

/-- Whether a string literal is closed can be seen from the text that it begins. -/
theorem Shape.beginsClosed_iff {item : Item} {rest : List Char} (h : item.Shape rest)
    (hkind : item.kind = .string) : BeginsClosed (item.raw ++ rest) ↔ item.isOpen = false := by
  cases item with
  | string quote opening body closed =>
    cases closed with
    | true =>
      obtain ⟨hquote, rfl, fragments, hinside, ⟨-, rfl⟩ | ⟨hopen, -⟩⟩ := h
      · exact iff_of_true ⟨opening, body, hquote, hinside, List.prefix_append _ _⟩ rfl
      · cases hopen
    | false =>
      refine iff_of_false ?_ (by simp [isOpen])
      rintro ⟨quote, fragments, hquote, hinside, hbegins⟩
      exact h.noUnit rfl _ _ (LexicalUnit.string hquote hinside) hbegins
  | word text => exact absurd hkind (Kind.ofWord_ne rfl _)
  | _ => cases hkind

/-- Only a line break gives a token of its kind. -/
theorem eq_newline_of_kind {item : Item} (h : item.kind = .newline) : item = .newline := by
  cases item with
  | newline => rfl
  | word text => exact absurd h (Kind.ofWord_ne rfl _)
  | _ => cases h

/-- Only an invalid character gives an error token. -/
theorem exists_of_kind_eq_error {item : Item} (h : item.kind = .error) :
    ∃ c, item = .invalid c := by
  cases item with
  | invalid c => exact ⟨c, rfl⟩
  | word text => exact absurd h (Kind.ofWord_ne rfl _)
  | _ => cases h

end Item

/-- Nothing follows a string literal that is not closed. -/
theorem CutsAt.after_eq_nil {position : Position} {before after : List Placed} {placed : Placed}
    {front rest : List Char} (h : CutsAt position before placed after front rest)
    (hopen : placed.item.isOpen = true) : after = [] := by
  have hrest := h.items_rest
  rw [h.leads.shape.rest_eq_nil hopen, scan_blank _ isBlankText_nil] at hrest
  exact hrest.symm

/-! ## The report of an item -/

/-- An invalid character gives a token and its report. -/
theorem reportsInvalid_invalid (c : Char) (location : Location) :
    (Fault.diagnostic (.invalidCharacter c) location).ReportsInvalid
      ((Item.invalid c).token location) where
  code_eq := rfl
  location_eq := rfl
  message_eq := rfl
  made := by simp [Diagnostic.ofInvalidText, Item.token, Item.lexeme, Item.raw]

/-- The reports of items of which none is an open literal are those of their error tokens. -/
theorem reportsInvalid_of_not_open (file : String) {items : List Placed}
    (h : ∀ placed ∈ items, placed.item.isOpen = false) :
    List.Forall₂ Diagnostic.ReportsInvalid (items.filterMap (Placed.diagnostic? file))
      ((items.filterMap (Placed.token? file)).filter fun token => token.kind = .error) := by
  induction items with
  | nil => exact List.Forall₂.nil
  | cons placed items ih =>
    obtain ⟨hfirst, hlater⟩ := List.forall_mem_cons.mp h
    obtain ⟨position, item⟩ := placed
    by_cases hkind : item.kind = .error
    · obtain ⟨c, rfl⟩ := Item.exists_of_kind_eq_error hkind
      exact List.Forall₂.cons (reportsInvalid_invalid c _) (ih hlater)
    · have hreport : Placed.diagnostic? file ⟨position, item⟩ = none := by
        cases item with
        | string quote opening body closed =>
          cases closed with
          | true => rfl
          | false => cases hfirst
        | invalid c => exact absurd rfl hkind
        | _ => rfl
      rw [List.filterMap_cons_none hreport]
      cases htoken : Placed.token? file ⟨position, item⟩ with
      | none =>
        rw [List.filterMap_cons_none htoken]
        exact ih hlater
      | some token =>
        have hne : token.kind ≠ .error := by
          cases item with
          | comment text => cases htoken
          | _ => rwa [← Option.some.inj htoken]
        rw [List.filterMap_cons_some htoken, List.filter_cons_of_neg (by simpa using hne)]
        exact ih hlater

/-- An open literal gives a token and its report. -/
theorem exists_report_of_open (file : String) {placed : Placed}
    (h : placed.item.isOpen = true) : ∃ diagnostic token,
      placed.diagnostic? file = some diagnostic ∧ placed.token? file = some token ∧
        token.kind = .string ∧ diagnostic.ReportsOpen token := by
  obtain ⟨position, item⟩ := placed
  cases item with
  | string quote opening body closed =>
    cases closed with
    | true => cases h
    | false => exact ⟨_, _, rfl, rfl, rfl, ⟨rfl, rfl, String.ofList quote, rfl⟩⟩
  | _ => cases h

/-- Only an open literal is reported as such. -/
theorem Placed.code_of_diagnostic? {file : String} {placed : Placed} {diagnostic : Diagnostic}
    (h : placed.diagnostic? file = some diagnostic) (hopen : placed.item.isOpen = false) :
    diagnostic.code = some "L001" := by
  obtain ⟨position, item⟩ := placed
  cases item with
  | invalid c =>
    rw [← Option.some.inj h]
    rfl
  | string quote opening body closed =>
    cases closed with
    | true => cases h
    | false => cases hopen
  | _ => cases h

/-- Without a report of an open literal there is none. -/
theorem isOpen_eq_false_of_codes {file : String} {position : Position} {text : List Char}
    (h : ∀ d ∈ errorsFrom file position text, d.code ≠ some "L002") :
    ∀ placed ∈ (scan position text).items, placed.item.isOpen = false := by
  intro placed hplaced
  refine Bool.eq_false_iff.mpr fun hopen => ?_
  obtain ⟨diagnostic, token, hgiven, -, -, hreports⟩ := exists_report_of_open file hopen
  exact h diagnostic (List.mem_filterMap.mpr ⟨placed, hplaced, hgiven⟩) hreports.code_eq

/-! ## The whole text -/

/-- The token of an item that is a string literal is open if the item is. -/
theorem CutsAt.isOpen_iff {before after : List Placed} {placed : Placed}
    {front rest : List Char} (h : CutsAt .start before placed after front rest) {file : String}
    {token : Token} (htoken : placed.token? file = some token) (hkind : token.kind = .string) :
    token.IsOpen (front ++ (placed.item.raw ++ rest)) ↔ placed.item.isOpen = true := by
  have hitem : placed.item.kind = .string := by
    obtain ⟨position, item⟩ := placed
    cases item with
    | comment text => cases htoken
    | _ => rwa [← Option.some.inj htoken] at hkind
  have hplace : token.location.offset.toNat = front.length := by
    rw [Placed.location_of_token? htoken, h.position_eq, Position.start_after]
    rfl
  have hclosed := h.leads.shape.beginsClosed_iff hitem
  rw [← Bool.not_eq_false, ← hclosed]
  refine ⟨fun hopen => ?_, fun hunclosed => ⟨hkind, ?_⟩⟩
  · have hunclosed := hopen.unclosed
    rwa [hplace, List.drop_left] at hunclosed
  · rwa [hplace, List.drop_left]

variable {source : List Char}

/-- Only the last item of a text can be an open literal. -/
theorem exists_last_of_open {placed : Placed} (hmem : placed ∈ (scan .start source).items)
    (hopen : placed.item.isOpen = true) : ∃ before,
      (scan .start source).items = before ++ [placed] ∧
        ∀ other ∈ before, other.item.isOpen = false := by
  obtain ⟨before, after, front, rest, hsplit, -, hcut⟩ := exists_cut_of_mem hmem
  obtain rfl := hcut.after_eq_nil hopen
  refine ⟨before, hsplit, fun other hother => Bool.eq_false_iff.mpr fun hopen' => ?_⟩
  -- an open literal among the earlier items would leave nothing behind it
  obtain ⟨before', after', rfl⟩ := List.append_of_mem hother
  rw [List.append_assoc, List.cons_append] at hsplit
  obtain ⟨front', rest', -, hcut'⟩ := exists_cut .start source _ _ _ hsplit
  cases after' <;> cases hcut'.after_eq_nil hopen'

/-- The token of an item is open in the source if the item is an open literal. -/
theorem isOpen_iff_of_mem {placed : Placed} (hmem : placed ∈ (scan .start source).items)
    {file : String} {token : Token} (htoken : placed.token? file = some token)
    (hkind : token.kind = .string) : token.IsOpen source ↔ placed.item.isOpen = true := by
  obtain ⟨before, after, front, rest, -, rfl, hcut⟩ := exists_cut_of_mem hmem
  exact hcut.isOpen_iff htoken hkind

/-- Without an open literal the tokens do not end with one. -/
theorem not_endsOpen (file : String)
    (h : ∀ placed ∈ (scan .start source).items, placed.item.isOpen = false) (token : Token) :
    ¬ EndsOpen source (tokensFrom file .start source) token := by
  rintro ⟨⟨words, last, -, hsplit⟩, hopen⟩
  have hends : words ++ [token, last] = words ++ [token] ++ [last] := by
    rw [List.append_assoc, List.singleton_append]
  have hwords : wordsFrom file .start source = words ++ [token] := by
    rw [tokensFrom_eq, hends] at hsplit
    exact (List.append_inj' hsplit rfl).1
  have hmem : token ∈ wordsFrom file .start source := by simp [hwords]
  obtain ⟨placed, hplaced, htoken⟩ := List.mem_filterMap.mp hmem
  have hitem := (isOpen_iff_of_mem hplaced htoken hopen.kind_eq).mp hopen
  rw [h placed hplaced] at hitem
  cases hitem

/-- The token for the end is no error token. -/
theorem filter_error_tokensFrom (file : String) (source : List Char) :
    (tokensFrom file .start source).filter (fun token => token.kind = .error) =
      (wordsFrom file .start source).filter fun token => token.kind = .error := by
  rw [tokensFrom_eq, List.filter_append]
  simp [endToken]

/-- With an open literal, the last diagnostic is its report, and those before it are the reports of
the error tokens. -/
theorem exists_reports_of_open (file : String) {placed : Placed}
    (hmem : placed ∈ (scan .start source).items) (hopen : placed.item.isOpen = true) :
    ∃ invalid diagnostic token, errorsFrom file .start source = invalid ++ [diagnostic] ∧
      List.Forall₂ Diagnostic.ReportsInvalid invalid
        ((tokensFrom file .start source).filter fun token => token.kind = .error) ∧
      EndsOpen source (tokensFrom file .start source) token ∧ diagnostic.ReportsOpen token := by
  obtain ⟨before, hitems, hbefore⟩ := exists_last_of_open hmem hopen
  obtain ⟨diagnostic, token, hdiagnostic, htoken, hkind, hreports⟩ :=
    exists_report_of_open file hopen
  have herrors : errorsFrom file .start source =
      before.filterMap (Placed.diagnostic? file) ++ [diagnostic] := by
    rw [errorsFrom, hitems, List.filterMap_append, List.filterMap_cons_some hdiagnostic,
      List.filterMap_nil]
  have hwords : wordsFrom file .start source =
      before.filterMap (Placed.token? file) ++ [token] := by
    rw [wordsFrom, hitems, List.filterMap_append, List.filterMap_cons_some htoken,
      List.filterMap_nil]
  have htokens : tokensFrom file .start source = before.filterMap (Placed.token? file) ++
      [token, endToken ((Position.start.after source).within file)] := by
    rw [tokensFrom_eq, hwords, List.append_assoc, List.singleton_append]
  refine ⟨_, diagnostic, token, herrors, ?_, ⟨⟨_, _, rfl, htokens⟩, ?_⟩, hreports⟩
  · have hlast : [token].filter (fun token => token.kind = .error) = [] := by
      simp [hkind]
    rw [filter_error_tokensFrom, hwords, List.filter_append, hlast, List.append_nil]
    exact reportsInvalid_of_not_open file hbefore
  · exact (isOpen_iff_of_mem hmem htoken hkind).mpr hopen

/-- The diagnostics of a text are the reports of its error tokens, and the report of an open literal
if the tokens end with one. -/
theorem exists_reports (file : String) (source : List Char) :
    ∃ (invalid : List Diagnostic) (opened : Option Diagnostic),
      errorsFrom file .start source = invalid ++ opened.toList ∧
      List.Forall₂ Diagnostic.ReportsInvalid invalid
        ((tokensFrom file .start source).filter fun token => token.kind = .error) ∧
      ((opened = none ∧ ∀ token, ¬ EndsOpen source (tokensFrom file .start source) token) ∨
        ∃ diagnostic token, opened = some diagnostic ∧
          EndsOpen source (tokensFrom file .start source) token ∧
          diagnostic.ReportsOpen token) := by
  by_cases hopen : ∃ placed ∈ (scan .start source).items, placed.item.isOpen = true
  · obtain ⟨placed, hmem, hopen⟩ := hopen
    obtain ⟨invalid, diagnostic, token, herrors, hinvalid, hends, hreports⟩ :=
      exists_reports_of_open file hmem hopen
    exact ⟨invalid, some diagnostic, herrors, hinvalid,
      Or.inr ⟨diagnostic, token, rfl, hends, hreports⟩⟩
  · have hnone : ∀ placed ∈ (scan .start source).items, placed.item.isOpen = false :=
      fun placed hmem => Bool.eq_false_iff.mpr fun hplaced => hopen ⟨placed, hmem, hplaced⟩
    refine ⟨errorsFrom file .start source, none, (List.append_nil _).symm, ?_,
      Or.inl ⟨rfl, not_endsOpen file hnone⟩⟩
    rw [filter_error_tokensFrom]
    exact reportsInvalid_of_not_open file hnone

/-- **Diagnostics mirror the tokens.**  The diagnostics of a pass are, in order, the reports of the
error tokens, and then at most one more.  It is there exactly if the last token before the one for
the end is a string literal that is not closed, and it is the report of that literal.  No two
diagnostics are about one place, and they are in the order of their places. -/
theorem pass_errors_mirror_tokens (source file : String) :
    ∃ (invalid : List Diagnostic) (opened : Option Diagnostic),
      (pass source file).errors = invalid ++ opened.toList ∧
      List.Forall₂ Diagnostic.ReportsInvalid invalid
        ((pass source file).tokens.filter fun token => token.kind = .error) ∧
      (opened.isSome ↔ ∃ token, EndsOpen source.toList (pass source file).tokens token) ∧
      (∀ diagnostic ∈ opened, ∀ token, EndsOpen source.toList (pass source file).tokens token →
        diagnostic.ReportsOpen token) ∧
      (pass source file).errors.Pairwise
        (fun first second => first.location.offset < second.location.offset) ∧
      ((pass source file).hasErrors ↔
        (∃ token ∈ (pass source file).tokens, token.kind = .error) ∨
          ∃ token, EndsOpen source.toList (pass source file).tokens token) := by
  obtain ⟨invalid, opened, herrors, hinvalid, hopened⟩ := exists_reports file source.toList
  rw [← pass_errors] at herrors
  rw [← pass_tokens] at hinvalid hopened
  have hsome : opened.isSome ↔ ∃ token, EndsOpen source.toList (pass source file).tokens token := by
    rcases hopened with ⟨rfl, hnone⟩ | ⟨diagnostic, token, rfl, hends, -⟩
    · exact iff_of_false Bool.false_ne_true fun hex => hex.elim hnone
    · exact iff_of_true rfl ⟨token, hends⟩
  refine ⟨invalid, opened, herrors, hinvalid, hsome, ?_, ?_, ?_⟩
  · intro diagnostic hdiagnostic token hends
    rcases hopened with ⟨rfl, -⟩ | ⟨diagnostic', token', rfl, hends', hreports⟩
    · cases hdiagnostic
    · obtain rfl := Option.some.inj hdiagnostic
      rwa [hends'.unique hends]
  · rw [pass_errors]
    exact pairwise_offset_errorsFrom _ _ _
  · have hempty : invalid = [] ↔ ∀ token ∈ (pass source file).tokens, token.kind ≠ .error := by
      rw [← List.length_eq_zero_iff, hinvalid.length_eq, List.length_eq_zero_iff,
        List.filter_eq_nil_iff]
      simp only [decide_eq_true_eq, ne_eq]
    rw [← hsome, Pass.hasErrors, herrors]
    cases opened <;> simp [hempty]

end LessonLexer
