import LessonLexer.Proofs.ItemShape

/-!
# The lexical grammar

`LexicalUnit` lists the units that a source text is made of, each with the kind of its token, and
says nothing about how they are found.  Which constructor a unit belongs to can be told from its
first character, up to the choice between integers and floats and between symbols and line breaks:
`LexicalUnit.exists_cons` sends it to the same five openings that the readers are chosen by, and the
inversion lemmas after it give back what the constructor said.
-/

namespace LessonLexer

/-- The lexical units and the kinds of their tokens. -/
inductive LexicalUnit : List Char → Kind → Prop
  | comment {line : List Char} (hline : '\n' ∉ line) : LexicalUnit ('#' :: line) .comment
  | word {c : Char} {part : List Char} (hstart : Text.isWordStart c = true)
      (hpart : ∀ d ∈ part, Text.isWordPart d = true) :
      LexicalUnit (c :: part) (Kind.ofWord (String.ofList (c :: part)))
  | integer {digits : List Char} (hdigits : IsDigitRun digits) : LexicalUnit digits .integer
  | float {whole fraction : List Char} (hwhole : IsDigitRun whole)
      (hfraction : ∀ c ∈ fraction, Text.isDigit c = true) :
      LexicalUnit (whole ++ '.' :: fraction) .float
  | string {quote : Char} {fragments : List Fragment} (hquote : Item.isQuote quote = true)
      (hinside : ∀ fragment ∈ fragments, fragment.Inside quote) :
      LexicalUnit (quote :: (fragments.flatMap Fragment.raw ++ [quote])) .string
  | symbol (sign : Symbol) : LexicalUnit sign.chars (.symbol sign)
  | newline : LexicalUnit ['\n'] .newline

/-- The opening that goes with a kind. -/
def Kind.opening : Kind → Opening
  | .keyword _ | .boolean | .identifier => .word
  | .integer | .float => .number
  | .string => .string
  | .comment => .comment
  | .symbol _ | .newline | .eof | .error => .sign

theorem Kind.opening_of_isWord {kind : Kind} (h : kind.isWord = true) : kind.opening = .word := by
  cases kind with
  | keyword _ => rfl
  | boolean => rfl
  | identifier => rfl
  | _ => cases h

theorem IsDigitRun.exists_cons {digits : List Char} (h : IsDigitRun digits) :
    ∃ c rest, digits = c :: rest ∧ Text.isDigit c = true := by
  cases digits with
  | nil => exact absurd rfl h.1
  | cons c rest => exact ⟨c, rest, rfl, h.2 c List.mem_cons_self⟩

/-- No symbol holds a line feed. -/
theorem Symbol.not_newline_mem_chars (sign : Symbol) : '\n' ∉ sign.chars := by
  have hall : ∀ sign ∈ Symbol.all, '\n' ∉ sign.chars := by decide
  exact hall sign (Symbol.mem_all sign)

namespace LexicalUnit

variable {unit : List Char} {kind : Kind}

/-- A unit has a first character, and it tells the kind as far as readers are chosen by it. -/
theorem exists_cons (h : LexicalUnit unit kind) :
    ∃ c rest, unit = c :: rest ∧ Opening.of c = kind.opening := by
  cases h with
  | @comment line hline => exact ⟨'#', line, rfl, by decide⟩
  | @word c part hstart hpart =>
    refine ⟨c, part, rfl, ?_⟩
    rw [Opening.of_wordStart hstart, Kind.opening_of_isWord (Kind.isWord_ofWord _)]
  | integer hdigits =>
    obtain ⟨c, rest, rfl, hc⟩ := hdigits.exists_cons
    exact ⟨c, rest, rfl, Opening.of_digit hc⟩
  | @float whole fraction hwhole hfraction =>
    obtain ⟨c, rest, rfl, hc⟩ := hwhole.exists_cons
    exact ⟨c, rest ++ '.' :: fraction, rfl, Opening.of_digit hc⟩
  | @string quote fragments hquote hinside => exact ⟨quote, _, rfl, Opening.of_quote hquote⟩
  | symbol sign =>
    cases hchars : sign.chars with
    | nil => exact absurd hchars sign.chars_ne_nil
    | cons c rest => exact ⟨c, rest, rfl, Opening.of_symbol hchars⟩
  | newline => exact ⟨'\n', [], rfl, Opening.of_newline⟩

/-- A unit at the beginning of a text has the opening of the text. -/
theorem opening_of_begins (h : LexicalUnit unit kind) {c : Char} {text : List Char}
    (hbegins : unit <+: c :: text) : kind.opening = Opening.of c := by
  obtain ⟨d, rest, rfl, hd⟩ := h.exists_cons
  obtain ⟨rfl, -⟩ := List.cons_prefix_cons.mp hbegins
  exact hd.symm

/-! ## Inversion by the opening -/

theorem comment_inv (h : LexicalUnit unit kind) (hopening : kind.opening = .comment) :
    kind = .comment ∧ ∃ line, unit = '#' :: line ∧ '\n' ∉ line := by
  cases h with
  | @comment line hline => exact ⟨rfl, line, rfl, hline⟩
  | word => cases (Kind.opening_of_isWord (Kind.isWord_ofWord _)).symm.trans hopening
  | _ => cases hopening

theorem word_inv (h : LexicalUnit unit kind) (hopening : kind.opening = .word) :
    kind = Kind.ofWord (String.ofList unit) ∧ ∀ c ∈ unit, Text.isWordPart c = true := by
  cases h with
  | word hstart hpart =>
    exact ⟨rfl, List.forall_mem_cons.mpr ⟨Text.isWordPart_of_isWordStart hstart, hpart⟩⟩
  | _ => cases hopening

theorem number_inv (h : LexicalUnit unit kind) (hopening : kind.opening = .number) :
    kind = .integer ∧ IsDigitRun unit ∨
      kind = .float ∧ ∃ whole fraction, unit = whole ++ '.' :: fraction ∧ IsDigitRun whole ∧
        ∀ c ∈ fraction, Text.isDigit c = true := by
  cases h with
  | integer hdigits => exact Or.inl ⟨rfl, hdigits⟩
  | @float whole fraction hwhole hfraction =>
    exact Or.inr ⟨rfl, whole, fraction, rfl, hwhole, hfraction⟩
  | word => cases (Kind.opening_of_isWord (Kind.isWord_ofWord _)).symm.trans hopening
  | _ => cases hopening

theorem string_inv (h : LexicalUnit unit kind) (hopening : kind.opening = .string) :
    kind = .string ∧ ∃ (quote : Char) (fragments : List Fragment),
      unit = quote :: (fragments.flatMap Fragment.raw ++ [quote]) ∧
        ∀ fragment ∈ fragments, fragment.Inside quote := by
  cases h with
  | @string quote fragments hquote hinside => exact ⟨rfl, quote, fragments, rfl, hinside⟩
  | word => cases (Kind.opening_of_isWord (Kind.isWord_ofWord _)).symm.trans hopening
  | _ => cases hopening

theorem sign_inv (h : LexicalUnit unit kind) (hopening : kind.opening = .sign) :
    (∃ sign : Symbol, kind = .symbol sign ∧ unit = sign.chars) ∨
      kind = .newline ∧ unit = ['\n'] := by
  cases h with
  | symbol sign => exact Or.inl ⟨sign, rfl, rfl⟩
  | newline => exact Or.inr ⟨rfl, rfl⟩
  | word => cases (Kind.opening_of_isWord (Kind.isWord_ofWord _)).symm.trans hopening
  | _ => cases hopening

/-- A text is a unit of one kind at most. -/
theorem kind_unique (h : LexicalUnit unit kind) {kind' : Kind} (h' : LexicalUnit unit kind') :
    kind' = kind := by
  obtain ⟨c, rest, hunit, hc⟩ := h.exists_cons
  have hbegins : unit <+: c :: rest := hunit ▸ List.prefix_rfl
  have hopening' : kind'.opening = kind.opening := (h'.opening_of_begins hbegins).trans hc
  have hnot : ∀ whole fraction : List Char,
      unit = whole ++ '.' :: fraction → ¬ IsDigitRun unit := by
    rintro whole fraction rfl hdigits
    exact absurd (hdigits.2 '.' (by simp)) (by decide)
  cases hopening : kind.opening with
  | comment => rw [(h.comment_inv hopening).1, (h'.comment_inv (hopening'.trans hopening)).1]
  | word => rw [(h.word_inv hopening).1, (h'.word_inv (hopening'.trans hopening)).1]
  | string => rw [(h.string_inv hopening).1, (h'.string_inv (hopening'.trans hopening)).1]
  | number =>
    rcases h.number_inv hopening with ⟨rfl, hdigits⟩ | ⟨rfl, whole, fraction, hfloat, -⟩ <;>
      rcases h'.number_inv (hopening'.trans hopening) with ⟨rfl, hdigits'⟩ | ⟨rfl, _, _, hfloat', -⟩
    · rfl
    · exact absurd hdigits (hnot _ _ hfloat')
    · exact absurd hdigits' (hnot _ _ hfloat)
    · rfl
  | sign =>
    rcases h.sign_inv hopening with ⟨sign, rfl, hsign⟩ | ⟨rfl, hnewline⟩ <;>
      rcases h'.sign_inv (hopening'.trans hopening) with ⟨sign', rfl, hsign'⟩ | ⟨rfl, hnewline'⟩
    · rw [Symbol.chars_injective (hsign'.symm.trans hsign)]
    · exact absurd (by rw [← hsign, hnewline']; simp) sign.not_newline_mem_chars
    · exact absurd (by rw [← hsign', hnewline]; simp) sign'.not_newline_mem_chars
    · rfl

end LexicalUnit
end LessonLexer
