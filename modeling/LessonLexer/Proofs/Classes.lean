import LessonLexer.Proofs.Printing

/-!
# Kinds, lexemes, values and classes

The kind of a token, its lexeme, its value and the classes it belongs to are found in different
ways.  A word gets its kind from the table of reserved words; a symbol gets it from the table of
compounds or from the table of symbols; a string literal has a kind that does not depend on its
lexeme, and a line break and the end of the text have lexemes that are not source text at all.  The
classes are computed from the kind, except that an operator is recognized by its lexeme.

They all agree.  For a token that is no string literal the tables hold, under the lexeme, the kind
of the token if it is that of a reserved word or of a symbol, and nothing otherwise
(`Token.Listed`).  This is so because no reserved word begins as a symbol does, and neither begins
with a digit or is a stand-in lexeme.  A string literal may well have the content `if` or `+`.  Its
kind keeps it out of the classes.

What is true of the tokens of every pass is collected in `Token.Agrees`.
-/

namespace LessonLexer

/-! ## Classes of kinds -/

namespace Kind

/-- The kinds that are marks: a line break, the end of the text, an error. -/
def isMark : Kind → Bool
  | .newline | .eof | .error => true
  | _ => false

/-- The kinds of symbols. -/
def isSymbol : Kind → Bool
  | .symbol _ => true
  | _ => false

/-- The kinds of reserved words. -/
def isReserved : Kind → Bool
  | .keyword _ | .boolean => true
  | _ => false

/-- Every kind but that of comments is in one class. -/
theorem count_classes {kind : Kind} (h : kind ≠ .comment) :
    [kind.isKeyword, kind.isLiteral, kind.isSymbol, kind == .identifier, kind.isMark].count true =
      1 := by
  cases kind with
  | comment => exact absurd rfl h
  | keyword word => rfl
  | symbol sign => rfl
  | _ => decide

theorem isSymbol_iff {kind : Kind} : kind.isSymbol = true ↔ ∃ sign, kind = .symbol sign := by
  cases kind <;> simp [isSymbol]

theorem isKeyword_iff {kind : Kind} :
    kind.isKeyword = true ↔ kind.isReserved = true ∧ kind ≠ .boolean := by
  cases kind <;> simp [isKeyword, isReserved]

theorem isReserved_of_mem {entry : String × Kind} (h : entry ∈ reserved) :
    entry.2.isReserved = true := by
  have hall : ∀ entry ∈ reserved, entry.2.isReserved = true := by decide
  exact hall entry h

end Kind

/-! ## The tables -/

/-- An entry that is found is an entry of the table. -/
theorem Kind.mem_reserved {text : String} {kind : Kind} (h : ofReserved? text = some kind) :
    (text, kind) ∈ reserved := by
  obtain ⟨front, back, hsplit, -⟩ := List.lookup_eq_some_iff.mp h
  rw [hsplit]
  exact List.mem_append_right front List.mem_cons_self

/-- The truth values are the reserved words `True` and `False`. -/
theorem Kind.boolean_iff {text : String} {kind : Kind} (h : ofReserved? text = some kind) :
    kind = .boolean ↔ text = "True" ∨ text = "False" := by
  have hall : ∀ entry ∈ reserved,
      (entry.2 = .boolean ↔ entry.1 = "True" ∨ entry.1 = "False") := by decide
  exact hall _ (mem_reserved h)

/-- A reserved word begins as a word does. -/
theorem Kind.ofReserved?_eq_none {text : String}
    (h : text.toList.head?.map Opening.of ≠ some .word) : ofReserved? text = none := by
  have hall : ∀ entry ∈ reserved, entry.1.toList.head?.map Opening.of = some .word := by decide
  cases hfound : ofReserved? text with
  | none => rfl
  | some kind => exact absurd (hall _ (mem_reserved hfound)) h

/-- A symbol begins as a sign does. -/
theorem Symbol.ofSpelling?_eq_none {text : String}
    (h : text.toList.head?.map Opening.of ≠ some .sign) : ofSpelling? text = none := by
  cases hfound : ofSpelling? text with
  | none => rfl
  | some sign =>
    have hchars := chars_of_ofChars? hfound
    cases htext : sign.chars with
    | nil => exact absurd htext sign.chars_ne_nil
    | cons c rest =>
      rw [← hchars, htext] at h
      exact absurd (congrArg some (Opening.of_symbol htext)) h

theorem Symbol.ofChars?_chars (sign : Symbol) : ofChars? sign.chars = some sign := by
  have hall : ∀ sign ∈ all, ofChars? sign.chars = some sign := by decide
  exact hall sign (mem_all sign)

theorem Symbol.ofSpelling?_spelling (sign : Symbol) : ofSpelling? sign.spelling = some sign := by
  rw [ofSpelling?, spelling, String.toList_ofList, ofChars?_chars]

/-- Under the lexeme the tables hold the kind, if it is that of a reserved word or of a symbol, and
nothing else. -/
structure Kind.Listed (kind : Kind) (lexeme : String) : Prop where
  reserved : ∀ found, ofReserved? lexeme = some found ↔ kind = found ∧ found.isReserved = true
  spelled : ∀ sign, Symbol.ofSpelling? lexeme = some sign ↔ kind = .symbol sign

namespace Kind

variable {kind : Kind} {lexeme : String}

/-- Where the table of reserved words holds nothing, the kind must be none of theirs. -/
theorem reserved_of_none (h : ofReserved? lexeme = none) (hnot : kind.isReserved = false)
    (found : Kind) : ofReserved? lexeme = some found ↔ kind = found ∧ found.isReserved = true := by
  rw [h]
  refine iff_of_false (fun hsome => by cases hsome) ?_
  rintro ⟨rfl, hyes⟩
  rw [hnot] at hyes
  cases hyes

/-- And where the table of symbols holds nothing, it must not be that of a symbol. -/
theorem spelled_of_none (h : Symbol.ofSpelling? lexeme = none) (hnot : kind.isSymbol = false)
    (sign : Symbol) : Symbol.ofSpelling? lexeme = some sign ↔ kind = .symbol sign := by
  rw [h]
  refine iff_of_false (fun hsome => by cases hsome) ?_
  rintro rfl
  cases hnot

theorem listed_of_word (hword : lexeme.toList.head?.map Opening.of = some .word) :
    (ofWord lexeme).Listed lexeme where
  reserved := by
    cases hfound : ofReserved? lexeme with
    | none =>
      rw [← hfound]
      refine reserved_of_none hfound ?_
      rw [ofWord, hfound]
      rfl
    | some kind =>
      have hyes : kind.isReserved = true := isReserved_of_mem (mem_reserved hfound)
      intro found
      rw [ofWord, hfound, Option.getD_some, Option.some.injEq]
      refine ⟨?_, And.left⟩
      rintro rfl
      exact ⟨rfl, hyes⟩
  spelled := by
    refine spelled_of_none (Symbol.ofSpelling?_eq_none (by rw [hword]; decide)) ?_
    rw [Bool.eq_false_iff, ne_eq, isSymbol_iff]
    rintro ⟨sign, hsign⟩
    exact ofWord_ne rfl lexeme hsign

theorem listed_of_number (hnumber : lexeme.toList.head?.map Opening.of = some .number)
    (hnot : kind.isReserved = false) (hsign : kind.isSymbol = false) : kind.Listed lexeme where
  reserved := reserved_of_none (ofReserved?_eq_none (by rw [hnumber]; decide)) hnot
  spelled := spelled_of_none (Symbol.ofSpelling?_eq_none (by rw [hnumber]; decide)) hsign

theorem listed_of_symbol (sign : Symbol) : (symbol sign).Listed sign.spelling where
  reserved := by
    refine reserved_of_none (ofReserved?_eq_none ?_) rfl
    rw [Symbol.spelling, String.toList_ofList]
    cases hchars : sign.chars with
    | nil => exact absurd hchars sign.chars_ne_nil
    | cons c rest =>
      rw [List.head?_cons, Option.map_some, Opening.of_symbol hchars]
      decide
  spelled found := by
    rw [Symbol.ofSpelling?_spelling, Option.some.injEq, symbol.injEq]

end Kind

/-! ## Items -/

namespace Item

variable {item : Item} {rest : List Char}

/-- The first character of the lexeme tells what it tells of the source text. -/
theorem opening_lexeme {c : Char} {later : List Char}
    (hlexeme : item.lexeme = String.ofList (c :: later)) :
    item.lexeme.toList.head?.map Opening.of = some (Opening.of c) := by
  rw [hlexeme, String.toList_ofList]
  rfl

/-- An item that is no string literal is listed. -/
theorem Shape.listed (h : item.Shape rest) (hstring : item.kind ≠ .string)
    (hcomment : ∀ text, item ≠ .comment text) : item.kind.Listed item.lexeme := by
  cases item with
  | comment text => exact absurd rfl (hcomment text)
  | string quote opening body closed => exact absurd rfl hstring
  | word text =>
    obtain ⟨⟨c, part, rfl, hstart, -⟩, -⟩ := h
    refine Kind.listed_of_word ?_
    rw [String.toList_ofList]
    exact congrArg some (Opening.of_wordStart hstart)
  | integer digits =>
    obtain ⟨c, later, rfl, hc⟩ := h.1.exists_cons
    refine Kind.listed_of_number ?_ rfl rfl
    rw [opening_lexeme rfl, Opening.of_digit hc]
  | float whole fraction =>
    obtain ⟨c, later, rfl, hc⟩ := h.1.exists_cons
    refine Kind.listed_of_number ?_ rfl rfl
    rw [opening_lexeme rfl, Opening.of_digit hc]
  | symbol sign => exact Kind.listed_of_symbol sign
  | newline => exact ⟨Kind.reserved_of_none (by decide) rfl, Kind.spelled_of_none (by decide) rfl⟩
  | invalid c =>
    obtain ⟨hopening, -, hread⟩ := h
    refine ⟨Kind.reserved_of_none (Kind.ofReserved?_eq_none ?_) rfl, Kind.spelled_of_none ?_ rfl⟩
    · rw [opening_lexeme rfl, hopening]
      decide
    · show Symbol.ofSpelling? (String.ofList [c]) = none
      rw [Symbol.ofSpelling?, String.toList_ofList]
      cases hfound : Symbol.ofChars? [c] with
      | none => rfl
      | some sign =>
        -- a symbol of one character would have been read
        have hsign := Symbol.read?_chars sign
        rw [Symbol.chars_of_ofChars? hfound, Symbol.read?_singleton_eq_none hread] at hsign
        cases hsign

end Item

/-! ## Values -/

/-- The value is of the sort that goes with the kind, and says what the lexeme says where that can
be told from it. -/
def Token.HasValue (t : Token) : Prop :=
  match t.kind with
  | .identifier | .string => t.value = .text t.lexeme
  | .boolean => (t.lexeme = "True" ∨ t.lexeme = "False") ∧ t.value = .bool (t.lexeme == "True")
  | .integer =>
    (∀ c ∈ t.lexeme.toList, Text.isDigit c = true) ∧
      (t.value = .none ↔ 4300 < t.lexeme.length) ∧
        (t.lexeme.length ≤ 4300 → ∃ number, t.value = .int number)
  | .float => ∃ number, t.value = .float number
  | _ => t.value = .none

theorem Token.hasValue_word (text : String) (location : Location) :
    Token.HasValue ⟨.ofWord text, text, Item.wordValue (.ofWord text) text, location⟩ := by
  cases hfound : Kind.ofReserved? text with
  | none =>
    have hof : Kind.ofWord text = .identifier := by rw [Kind.ofWord, hfound, Option.getD_none]
    rw [hof]
    rfl
  | some kind =>
    have hof : Kind.ofWord text = kind := by rw [Kind.ofWord, hfound, Option.getD_some]
    have hyes : kind.isReserved = true := Kind.isReserved_of_mem (Kind.mem_reserved hfound)
    rw [hof]
    cases kind with
    | keyword word => rfl
    | boolean => exact ⟨(Kind.boolean_iff hfound).mp rfl, rfl⟩
    | _ => cases hyes

/-- An integer has a value unless it is too long. -/
theorem Item.value_integer {digits : List Char} (h : digits ≠ []) :
    (Item.integer digits).value =
      if digits.length ≤ 4300 then .int (Numeral.ofChars digits) else .none := by
  rw [value, Numeral.natural?, Numeral.digitLimit]
  by_cases hshort : digits.length ≤ 4300
  · rw [if_neg (not_or.mpr ⟨h, Nat.not_lt.mpr hshort⟩), if_pos hshort]
  · rw [if_pos (Or.inr (Nat.lt_of_not_le hshort)), if_neg hshort]

theorem Token.hasValue_integer {digits : List Char} (h : IsDigitRun digits)
    (location : Location) : ((Item.integer digits).token location).HasValue := by
  have hall : ∀ c ∈ (String.ofList digits).toList, Text.isDigit c = true := by
    rw [String.toList_ofList]
    exact h.2
  have hlength : (String.ofList digits).length = digits.length := String.length_ofList
  have hvalue := Item.value_integer h.1
  rw [← hlength] at hvalue
  by_cases hshort : (String.ofList digits).length ≤ 4300
  · rw [if_pos hshort] at hvalue
    refine ⟨hall, iff_of_false (fun hnone => ?_) (Nat.not_lt.mpr hshort), fun _ => ⟨_, hvalue⟩⟩
    cases hvalue.symm.trans hnone
  · rw [if_neg hshort] at hvalue
    exact ⟨hall, iff_of_true hvalue (Nat.lt_of_not_le hshort), fun h => absurd h hshort⟩

theorem Item.Shape.hasValue {item : Item} {rest : List Char} (h : item.Shape rest)
    (location : Location) : (item.token location).HasValue := by
  cases item with
  | word text => exact Token.hasValue_word (String.ofList text) location
  | integer digits => exact Token.hasValue_integer h.1 location
  | float whole fraction => exact ⟨_, rfl⟩
  | _ => rfl

/-! ## Tokens -/

/-- Kind, lexeme, value and classes of a token agree. -/
structure Token.Agrees (t : Token) : Prop where
  one_class :
    [t.isKeyword, t.isLiteral, t.isOperator, t.isIdentifier, t.kind.isMark].count true = 1
  keyword_iff : t.isKeyword = true ↔ t.kind ≠ .string ∧
    (∃ kind, Kind.ofReserved? t.lexeme = some kind) ∧ t.lexeme ≠ "True" ∧ t.lexeme ≠ "False"
  operator_iff : t.isOperator = true ↔ t.kind ≠ .string ∧
    ∃ sign, Symbol.ofSpelling? t.lexeme = some sign
  operator_kind : t.isOperator = true →
    ∃ sign, Symbol.ofSpelling? t.lexeme = some sign ∧ t.kind = .symbol sign
  value : t.HasValue

namespace Token

variable {t : Token}

theorem isOperator_iff : t.isOperator = true ↔
    ∃ sign, Symbol.ofSpelling? t.lexeme = some sign ∧ t.kind = .symbol sign := by
  unfold isOperator
  cases Symbol.ofSpelling? t.lexeme with
  | none => simp
  | some sign => simp

/-- A token is a keyword by its kind exactly if it is one by its lexeme. -/
theorem isKeyword_iff_of_listed (h : t.kind.Listed t.lexeme) : t.isKeyword = true ↔
    t.kind ≠ .string ∧ (∃ kind, Kind.ofReserved? t.lexeme = some kind) ∧
      t.lexeme ≠ "True" ∧ t.lexeme ≠ "False" := by
  rw [isKeyword, Kind.isKeyword_iff]
  constructor
  · rintro ⟨hreserved, hboolean⟩
    have hfound := (h.reserved t.kind).mpr ⟨rfl, hreserved⟩
    refine ⟨?_, ⟨_, hfound⟩, not_or.mp (mt (Kind.boolean_iff hfound).mpr hboolean)⟩
    intro hstring
    rw [hstring] at hreserved
    cases hreserved
  · rintro ⟨-, ⟨kind, hfound⟩, hlexeme⟩
    obtain ⟨rfl, hreserved⟩ := (h.reserved kind).mp hfound
    exact ⟨hreserved, mt (Kind.boolean_iff hfound).mp (not_or.mpr hlexeme)⟩

/-- A token is an operator by its kind exactly if it is one by its lexeme. -/
theorem isOperator_iff_of_listed (h : t.kind.Listed t.lexeme) : t.isOperator = true ↔
    t.kind ≠ .string ∧ ∃ sign, Symbol.ofSpelling? t.lexeme = some sign := by
  rw [isOperator_iff]
  constructor
  · rintro ⟨sign, hfound, hkind⟩
    refine ⟨?_, sign, hfound⟩
    rw [hkind]
    intro hstring
    cases hstring
  · rintro ⟨-, sign, hfound⟩
    exact ⟨sign, hfound, (h.spelled sign).mp hfound⟩

theorem agrees_of_string (h : t.kind = .string) (hvalue : t.HasValue) : t.Agrees := by
  have hoperator : t.isOperator = false := by
    rw [Bool.eq_false_iff, ne_eq, isOperator_iff]
    rintro ⟨sign, -, hkind⟩
    cases h.symm.trans hkind
  have hkeyword : t.isKeyword = false := by
    rw [isKeyword, h]
    rfl
  refine ⟨?_, ?_, ?_, isOperator_iff.mp, hvalue⟩
  · rw [hoperator, hkeyword, isLiteral, isIdentifier, h]
    decide
  · rw [hkeyword]
    exact iff_of_false Bool.false_ne_true fun hnot => hnot.1 h
  · rw [hoperator]
    exact iff_of_false Bool.false_ne_true fun hnot => hnot.1 h

theorem agrees_of_listed (h : t.kind.Listed t.lexeme) (hcomment : t.kind ≠ .comment)
    (hvalue : t.HasValue) : t.Agrees where
  one_class := by
    have hsymbol : t.isOperator = t.kind.isSymbol := by
      rw [Bool.eq_iff_iff, isOperator_iff, Kind.isSymbol_iff]
      exact exists_congr fun sign => and_iff_right_of_imp (h.spelled sign).mpr
    rw [hsymbol]
    exact Kind.count_classes hcomment
  keyword_iff := isKeyword_iff_of_listed h
  operator_iff := isOperator_iff_of_listed h
  operator_kind := isOperator_iff.mp
  value := hvalue

end Token

/-- A token of a pass is the one for the end, or that of an item of the text. -/
theorem exists_item_of_mem_tokens {source file : String} {token : Token}
    (h : token ∈ (pass source file).tokens) :
    (∃ location, token = endToken location) ∨
      ∃ (item : Item) (rest : List Char) (location : Location), item.Shape rest ∧
        (∀ text, item ≠ .comment text) ∧ token = item.token location := by
  rw [pass_tokens, tokensFrom_eq, List.mem_append, List.mem_singleton] at h
  rcases h with hword | hend
  · obtain ⟨placed, hplaced, hgiven⟩ := List.mem_filterMap.mp hword
    obtain ⟨hcomment, htoken⟩ := Placed.eq_token_of_token? hgiven
    obtain ⟨before, after, front, rest, -, -, hcut⟩ := exists_cut_of_mem hplaced
    exact Or.inr ⟨placed.item, rest, _, hcut.leads.shape, hcomment, htoken⟩
  · exact Or.inl ⟨_, hend⟩

/-- The kind, lexeme, value and classes of every token agree. -/
theorem agrees_of_mem_tokens (source file : String) :
    ∀ token ∈ (pass source file).tokens, token.Agrees := by
  intro token htoken
  rcases exists_item_of_mem_tokens htoken with
    ⟨location, rfl⟩ | ⟨item, rest, location, hshape, hcomment, rfl⟩
  · have hlisted : Kind.Listed .eof "" :=
      ⟨Kind.reserved_of_none (by decide) rfl, Kind.spelled_of_none (by decide) rfl⟩
    exact Token.agrees_of_listed hlisted (fun h => by cases h) rfl
  · have hvalue := hshape.hasValue location
    by_cases hstring : item.kind = .string
    · exact Token.agrees_of_string hstring hvalue
    · exact Token.agrees_of_listed (hshape.listed hstring hcomment)
        (Item.kind_ne_comment hcomment) hvalue

/-- A string literal whose content is an operator agrees as well. -/
theorem agrees_of_mem_tokens_quoted_plus :
    (⟨.string, "+", .text "+", ⟨"plus", 1, 1, 0⟩⟩ : Token) ∈ (pass "'+'" "plus").tokens ∧
      Token.Agrees ⟨.string, "+", .text "+", ⟨"plus", 1, 1, 0⟩⟩ := by
  have hmem : (⟨.string, "+", .text "+", ⟨"plus", 1, 1, 0⟩⟩ : Token) ∈
      (pass "'+'" "plus").tokens := by decide +kernel
  exact ⟨hmem, agrees_of_mem_tokens "'+'" "plus" _ hmem⟩

end LessonLexer
