import LessonLexer.Proofs.Literal
import LessonLexer.Proofs.Opening
import Mathlib.Data.List.TakeWhile

/-!
# The shape of an item

`Item.next?` is a chain of readers over `takeWhile` and `dropWhile`.  `Item.Shape` says what comes
out of it: which characters an item of each form is made of, and what the rest of the text must
begin with so that the item went no further.  `Item.shape_of_next?` is the one lemma about reading
that laws about tokens start from; they do not open the readers again.
-/

namespace LessonLexer

/-! ## Runs of characters -/

/-- The text does not begin with a character of the class. -/
def Stops (p : Char → Bool) (text : List Char) : Prop := ∀ c ∈ text.head?, p c = false

theorem stops_nil (p : Char → Bool) : Stops p [] := by
  intro c hc
  cases hc

theorem stops_cons {p : Char → Bool} {c : Char} {text : List Char} :
    Stops p (c :: text) ↔ p c = false := by
  simp [Stops]

/-- Behind a run the class stops. -/
theorem stops_dropWhile (p : Char → Bool) (text : List Char) : Stops p (text.dropWhile p) := by
  intro c hc
  have hstop := List.head?_dropWhile_not p text
  rw [hc] at hstop
  exact hstop

theorem takeWhile_append_eq {p : Char → Bool} {run text : List Char} (hrun : ∀ c ∈ run, p c)
    (hstop : Stops p text) : (run ++ text).takeWhile p = run := by
  rw [List.takeWhile_append_of_pos hrun]
  cases text with
  | nil => simp
  | cons c text => simp [stops_cons.mp hstop]

theorem dropWhile_append_eq {p : Char → Bool} {run text : List Char} (hrun : ∀ c ∈ run, p c)
    (hstop : Stops p text) : (run ++ text).dropWhile p = text := by
  rw [List.dropWhile_append_of_pos hrun]
  cases text with
  | nil => simp
  | cons c text => simp [stops_cons.mp hstop]

/-! ## Kinds of words -/

/-- The kinds of words. -/
def Kind.isWord : Kind → Bool
  | .keyword _ | .boolean | .identifier => true
  | _ => false

/-- A word is a keyword, a truth value or an identifier. -/
theorem Kind.isWord_ofWord (text : String) : (Kind.ofWord text).isWord = true := by
  have hreserved : ∀ entry ∈ Kind.reserved, entry.2.isWord = true := by decide
  unfold Kind.ofWord Kind.ofReserved?
  cases hlookup : Kind.reserved.lookup text with
  | none => rfl
  | some kind =>
    obtain ⟨front, back, hsplit, -⟩ := List.lookup_eq_some_iff.mp hlookup
    exact hreserved (text, kind) (by rw [hsplit]; simp)

theorem Kind.ofWord_ne {kind : Kind} (h : kind.isWord = false) (text : String) :
    Kind.ofWord text ≠ kind := by
  rintro rfl
  rw [Kind.isWord_ofWord] at h
  exact Bool.noConfusion h

/-! ## Kinds of items -/

theorem Item.kind_ne_eof (item : Item) : item.kind ≠ .eof := by
  cases item with
  | word text => exact Kind.ofWord_ne rfl _
  | _ =>
    intro h
    cases h

theorem Item.kind_ne_comment {item : Item} (h : ∀ text, item ≠ .comment text) :
    item.kind ≠ .comment := by
  cases item with
  | comment text => exact absurd rfl (h text)
  | word text => exact Kind.ofWord_ne rfl _
  | _ =>
    intro h
    cases h

/-! ## Shapes -/

/-- A run of one or more decimal digits. -/
def IsDigitRun (text : List Char) : Prop := text ≠ [] ∧ ∀ c ∈ text, Text.isDigit c = true

/-- What an item looks like, and what it needs of the rest of the text to end where it does. -/
def Item.Shape (rest : List Char) : Item → Prop
  | .comment text => (∃ line, text = '#' :: line ∧ '\n' ∉ line) ∧ Stops (· != '\n') rest
  | .word text =>
    (∃ c part, text = c :: part ∧ Text.isWordStart c = true ∧
      ∀ d ∈ part, Text.isWordPart d = true) ∧ Stops Text.isWordPart rest
  | .integer digits => IsDigitRun digits ∧ Stops Text.isDigit rest ∧ rest.head? ≠ some '.'
  | .float whole fraction =>
    IsDigitRun whole ∧ (∀ c ∈ fraction, Text.isDigit c = true) ∧ Stops Text.isDigit rest
  | .string quote opening body closed =>
    Item.isQuote opening = true ∧ quote = [opening] ∧
      ∃ fragments : List Fragment, (∀ fragment ∈ fragments, fragment.Inside opening) ∧
        (closed = true ∧ body = fragments ∨
          closed = false ∧ rest = [] ∧ (body = fragments ∨ body = fragments ++ [.plain '\\']))
  | .symbol sign => Symbol.read? (sign.chars ++ rest) = some sign
  | .newline => True
  | .invalid c => Opening.of c = .sign ∧ c ≠ '\n' ∧ Symbol.read? (c :: rest) = none

namespace Item

theorem ne_backslash_of_isQuote {c : Char} (h : isQuote c = true) : c ≠ '\\' := by
  rintro rfl
  exact absurd h (by decide)

theorem shape_readComment (text : List Char) :
    (readComment ('#' :: text)).1.Shape (readComment ('#' :: text)).2 := by
  refine ⟨⟨text.takeWhile (· != '\n'), rfl, fun hmem => ?_⟩, stops_dropWhile _ _⟩
  have hne := List.mem_takeWhile_imp hmem
  exact absurd hne (by decide)

theorem shape_readWord {c : Char} (h : Text.isWordStart c = true) (text : List Char) :
    (readWord (c :: text)).1.Shape (readWord (c :: text)).2 := by
  refine ⟨⟨c, text.takeWhile Text.isWordPart, ?_, h, fun d hd => ?_⟩, stops_dropWhile _ _⟩
  · exact List.takeWhile_cons_of_pos (Text.isWordPart_of_isWordStart h)
  · exact List.mem_takeWhile_imp hd

theorem isDigitRun_takeWhile {c : Char} (h : Text.isDigit c = true) (text : List Char) :
    IsDigitRun ((c :: text).takeWhile Text.isDigit) := by
  refine ⟨?_, fun d hd => List.mem_takeWhile_imp hd⟩
  rw [List.takeWhile_cons_of_pos h]
  exact List.cons_ne_nil _ _

theorem shape_readNumber {c : Char} (h : Text.isDigit c = true) (text : List Char) :
    (readNumber (c :: text)).1.Shape (readNumber (c :: text)).2 := by
  have hrun := isDigitRun_takeWhile h text
  have hstop := stops_dropWhile Text.isDigit (c :: text)
  unfold readNumber
  split
  · rename_i rest hrest
    exact ⟨hrun, fun d hd => List.mem_takeWhile_imp hd, stops_dropWhile _ _⟩
  · rename_i hpoint
    refine ⟨hrun, hstop, fun hhead => ?_⟩
    obtain ⟨rest, hrest⟩ := List.head?_eq_some_iff.mp hhead
    exact hpoint rest hrest

theorem shape_readString {c : Char} (h : isQuote c = true) (text : List Char) :
    (readString [c] c text).1.Shape (readString [c] c text).2 := by
  have hne := ne_backslash_of_isQuote h
  obtain ⟨fragments, tail, hinside, rfl, htail⟩ := StringBody.exists_fragments c text
  refine ⟨h, rfl, fragments, hinside, ?_⟩
  rcases htail with rfl | rfl | ⟨rest, rfl⟩
  · rw [List.append_nil, StringBody.read_open hne hinside]
    exact Or.inr ⟨rfl, by rw [readString, StringBody.read_open hne hinside], Or.inl rfl⟩
  · rw [StringBody.read_open_backslash hne hinside]
    exact Or.inr ⟨rfl, by rw [readString, StringBody.read_open_backslash hne hinside], Or.inr rfl⟩
  · rw [StringBody.read_closed hne hinside]
    exact Or.inl ⟨rfl, rfl⟩

theorem shape_readSign {c : Char} (h : Opening.of c = .sign) (text : List Char) :
    (readSign c text).1.Shape (readSign c text).2 := by
  unfold readSign
  split
  · trivial
  · rename_i hc
    split
    · rename_i sign hsign
      show Symbol.read? (sign.chars ++ (c :: text).drop sign.chars.length) = some sign
      rw [Symbol.chars_append_drop hsign, hsign]
    · rename_i hsign
      exact ⟨h, hc, hsign⟩

/-- Every reader gives the shape of its form, on the first characters it is chosen for. -/
theorem shape_read (c : Char) (text : List Char) :
    ((Opening.of c).read c text).1.Shape ((Opening.of c).read c text).2 := by
  rcases Opening.of_spec c with ⟨hof, rfl⟩ | ⟨hof, hc⟩ | ⟨hof, hc⟩ | ⟨hof, hc⟩ | hof
  · rw [hof]
    exact shape_readComment text
  · rw [hof]
    exact shape_readWord hc text
  · rw [hof]
    exact shape_readNumber hc text
  · rw [hof]
    exact shape_readString hc text
  · rw [hof]
    exact shape_readSign hof text

/-- The next item has the shape of its form. -/
theorem shape_of_next? {text rest : List Char} {item : Item}
    (h : next? text = some (item, rest)) : item.Shape rest := by
  cases text with
  | nil => cases h
  | cons c text =>
    rw [next?_cons, Option.some.injEq] at h
    have hshape := shape_read c text
    rwa [h] at hshape

/-! ## The characters of an item -/

/-- An item that is neither a comment nor a string literal is made of characters of words and of
symbols, or it is a single character. -/
theorem Shape.of_mem_raw {item : Item} {rest : List Char} {c : Char} (h : item.Shape rest)
    (hcomment : item.kind ≠ .comment) (hstring : item.kind ≠ .string) (hc : c ∈ item.raw) :
    Text.isWordPart c = true ∨ (∃ sign : Symbol, c ∈ sign.chars) ∨ item = .newline ∨
      item = .invalid c := by
  cases item with
  | comment text => exact absurd rfl hcomment
  | word text =>
    obtain ⟨⟨d, part, rfl, hstart, hpart⟩, -⟩ := h
    have hparts : ∀ e ∈ d :: part, Text.isWordPart e = true :=
      List.forall_mem_cons.mpr ⟨Text.isWordPart_of_isWordStart hstart, hpart⟩
    exact Or.inl (hparts c hc)
  | integer digits => exact Or.inl (Text.isWordPart_of_isDigit (h.1.2 c hc))
  | float whole fraction =>
    rcases List.mem_append.mp hc with hwhole | htail
    · exact Or.inl (Text.isWordPart_of_isDigit (h.1.2 c hwhole))
    · rcases List.mem_cons.mp htail with rfl | hfraction
      · exact Or.inr (Or.inl ⟨.dot, by decide⟩)
      · exact Or.inl (Text.isWordPart_of_isDigit (h.2.1 c hfraction))
  | string quote opening body closed => exact absurd rfl hstring
  | symbol sign => exact Or.inr (Or.inl ⟨sign, hc⟩)
  | newline => exact Or.inr (Or.inr (Or.inl rfl))
  | invalid d =>
    obtain rfl := List.mem_singleton.mp hc
    exact Or.inr (Or.inr (Or.inr rfl))

end Item
end LessonLexer
