import LessonLexer.Diagnostic
import LessonLexer.StringBody
import LessonLexer.Text.Word
import LessonLexer.Token

/-!
# Lexical items

A source text is a sequence of items with blanks between them: comments, words, numbers, string
literals, symbols, line breaks, and characters that begin nothing.  Each reader takes the item at
the beginning of a text and returns it with the rest.  The item remembers its source text, and
from it kind, lexeme and value of the token follow.

## The readers

* A comment goes on to the end of the line, which it does not include.
* A word takes as many letters, digits and underscores as there are.
* A number takes digits, and one point with the digits after it if a point is there.
* A string literal skips one character as the opening quote and reads to the closing quote.
* Anything else is a line break, the longest symbol, or a single invalid character.

## Main names

* `LessonLexer.Item`: the items.
* `LessonLexer.Item.next?`: the item at the beginning of a text, chosen by the first character.
* `LessonLexer.Item.raw_append_of_next?`: an item and the rest make up the text.
* `LessonLexer.Item.raw_ne_nil_of_next?`: an item is never empty.
-/

namespace LessonLexer

/-- A lexical item. -/
inductive Item where
  | comment (text : List Char)
  | word (text : List Char)
  | integer (digits : List Char)
  | float (whole fraction : List Char)
  /-- A string literal: the quote that closes it, the character that opens it, what stands
  between, and whether it is closed. -/
  | string (quote : List Char) (opening : Char) (body : List Fragment) (closed : Bool)
  | symbol (sign : Symbol)
  | newline
  | invalid (c : Char)
deriving DecidableEq

namespace Item

/-! ## What an item is -/

/-- The source text of an item. -/
def raw : Item → List Char
  | .comment text => text
  | .word text => text
  | .integer digits => digits
  | .float whole fraction => whole ++ '.' :: fraction
  | .string quote opening body closed =>
    opening :: (body.flatMap Fragment.raw ++ if closed then quote else [])
  | .symbol sign => sign.chars
  | .newline => ['\n']
  | .invalid c => [c]

/-- The visible stand-in for a line break: a backslash and the letter n. -/
def newlineLexeme : String := "\\n"

/-- The lexeme of an item: its source text, except for string literals and line breaks. -/
def lexeme : Item → String
  | .string _ _ body _ => String.ofList (body.map Fragment.char)
  | .newline => newlineLexeme
  | item => String.ofList item.raw

/-- The kind of an item. -/
def kind : Item → Kind
  | .comment _ => .comment
  | .word text => Kind.ofWord (String.ofList text)
  | .integer _ => .integer
  | .float _ _ => .float
  | .string _ _ _ _ => .string
  | .symbol sign => .symbol sign
  | .newline => .newline
  | .invalid _ => .error

/-- The value of a word of the given kind: an identifier names itself, and a truth value is what
it says. -/
def wordValue (kind : Kind) (text : String) : Value :=
  match kind with
  | .boolean => .bool (text == "True")
  | .identifier => .text text
  | _ => .none

/-- The number that digits on either side of a point denote, correctly rounded. -/
def floatValue (whole fraction : List Char) : Binary64 :=
  .ofDecimal false ⟨Numeral.ofChars (whole ++ fraction), -(fraction.length : Int)⟩

/-- The value of an item. -/
def value : Item → Value
  | .word text => wordValue (Kind.ofWord (String.ofList text)) (String.ofList text)
  | .integer digits =>
    match Numeral.natural? digits with
    | some n => .int n
    | none => .none
  | .float whole fraction => .float (floatValue whole fraction)
  | .string _ _ body _ => .text (String.ofList (body.map Fragment.char))
  | _ => .none

/-- The token of an item at a location. -/
def token (item : Item) (location : Location) : Token :=
  { kind := item.kind, lexeme := item.lexeme, value := item.value, location }

/-- What is wrong with an item, if anything is. -/
def fault? : Item → Option Fault
  | .string quote _ _ false => some (.unterminatedString (String.ofList quote))
  | .invalid c => some (.invalidCharacter c)
  | _ => none

/-! ## Readers -/

/-- The rest of the line, as a comment. -/
def readComment (text : List Char) : Item × List Char :=
  (.comment (text.takeWhile (· != '\n')), text.dropWhile (· != '\n'))

/-- The longest run of word characters, as a word. -/
def readWord (text : List Char) : Item × List Char :=
  (.word (text.takeWhile Text.isWordPart), text.dropWhile Text.isWordPart)

/-- The longest run of digits with at most one point, as a number. -/
def readNumber (text : List Char) : Item × List Char :=
  match text.dropWhile Text.isDigit with
  | '.' :: rest =>
    (.float (text.takeWhile Text.isDigit) (rest.takeWhile Text.isDigit),
      rest.dropWhile Text.isDigit)
  | rest => (.integer (text.takeWhile Text.isDigit), rest)

/-- A string literal after its opening character. -/
def readString (quote : List Char) (opening : Char) (rest : List Char) : Item × List Char :=
  let body := StringBody.read quote rest
  (.string quote opening body.fragments body.closed, body.rest)

/-- A line break, a symbol or an invalid character, by its first character. -/
def readSign (c : Char) (rest : List Char) : Item × List Char :=
  if c = '\n' then (.newline, rest)
  else
    match Symbol.read? (c :: rest) with
    | some sign => (.symbol sign, (c :: rest).drop sign.chars.length)
    | none => (.invalid c, rest)

/-- The characters that open a string literal. -/
def isQuote (c : Char) : Bool := c == '"' || c == '\''

/-- The item at the beginning of a text, chosen by the first character. -/
def next? : List Char → Option (Item × List Char)
  | [] => none
  | c :: rest =>
    some <|
      if c = '#' then readComment (c :: rest)
      else if Text.isWordStart c then readWord (c :: rest)
      else if Text.isDigit c then readNumber (c :: rest)
      else if isQuote c then readString [c] c rest
      else readSign c rest

@[simp] theorem next?_nil : next? [] = none := rfl

/-! ## An item and the rest make up the text -/

theorem raw_append_readComment (text : List Char) :
    (readComment text).1.raw ++ (readComment text).2 = text :=
  List.takeWhile_append_dropWhile

theorem raw_append_readWord (text : List Char) :
    (readWord text).1.raw ++ (readWord text).2 = text :=
  List.takeWhile_append_dropWhile

theorem raw_append_readNumber (text : List Char) :
    (readNumber text).1.raw ++ (readNumber text).2 = text := by
  have hsplit : text.takeWhile Text.isDigit ++ text.dropWhile Text.isDigit = text :=
    List.takeWhile_append_dropWhile
  unfold readNumber
  split
  · rename_i rest hrest
    rw [hrest] at hsplit
    conv => rhs; rw [← hsplit]
    simp [raw]
  · exact hsplit

theorem raw_append_readString (quote : List Char) (opening : Char) (rest : List Char) :
    (readString quote opening rest).1.raw ++ (readString quote opening rest).2 =
      opening :: rest :=
  congrArg (opening :: ·) (StringBody.raw_append_rest quote rest)

theorem raw_append_readSign (c : Char) (rest : List Char) :
    (readSign c rest).1.raw ++ (readSign c rest).2 = c :: rest := by
  unfold readSign
  split
  · rename_i hc
    simp [raw, hc]
  · split
    · rename_i sign hsign
      exact Symbol.chars_append_drop hsign
    · rfl

/-- An item and the rest make up the text. -/
theorem raw_append_of_next? {text rest : List Char} {item : Item}
    (h : next? text = some (item, rest)) : item.raw ++ rest = text := by
  cases text with
  | nil => simp at h
  | cons c text =>
    rw [next?, Option.some.injEq] at h
    split at h
    · rw [← raw_append_readComment (c :: text), h]
    · split at h
      · rw [← raw_append_readWord (c :: text), h]
      · split at h
        · rw [← raw_append_readNumber (c :: text), h]
        · split at h
          · rw [← raw_append_readString [c] c text, h]
          · rw [← raw_append_readSign c text, h]

/-! ## Progress -/

theorem raw_readSign_ne_nil (c : Char) (rest : List Char) : (readSign c rest).1.raw ≠ [] := by
  unfold readSign
  split
  · simp [raw]
  · split
    · exact Symbol.chars_ne_nil _
    · simp [raw]

/-- An item is never empty, so reading makes progress. -/
theorem raw_ne_nil_of_next? {text rest : List Char} {item : Item}
    (h : next? text = some (item, rest)) : item.raw ≠ [] := by
  cases text with
  | nil => simp at h
  | cons c text =>
    rw [next?, Option.some.injEq] at h
    split at h
    · rename_i hc
      obtain rfl : (readComment (c :: text)).1 = item := by rw [h]
      simp [readComment, raw, hc]
    · split at h
      · rename_i hword
        obtain rfl : (readWord (c :: text)).1 = item := by rw [h]
        simp [readWord, raw, Text.isWordPart_of_isWordStart hword]
      · split at h
        · rename_i hdigit
          obtain rfl : (readNumber (c :: text)).1 = item := by rw [h]
          unfold readNumber
          split <;> simp [raw, hdigit]
        · split at h
          · obtain rfl : (readString [c] c text).1 = item := by rw [h]
            simp [readString, raw]
          · obtain rfl : (readSign c text).1 = item := by rw [h]
            exact raw_readSign_ne_nil c text

/-- The rest of a text after an item is shorter. -/
theorem length_lt_of_next? {text rest : List Char} {item : Item}
    (h : next? text = some (item, rest)) : rest.length < text.length := by
  have happend := congrArg List.length (raw_append_of_next? h)
  have hpos := List.length_pos_iff.mpr (raw_ne_nil_of_next? h)
  rw [List.length_append] at happend
  omega

end Item
end LessonLexer
