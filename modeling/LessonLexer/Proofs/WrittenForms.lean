import LessonLexer.Proofs.LongestMatch
import LessonLexer.Proofs.QuotedText
import LessonLexer.Token

/-!
# Reading written tokens back

The detailed form of a token puts its kind, its lexeme, its value and its location one behind the
other, with commas between them.  Lexemes, texts and file names may hold commas, quotes and brackets
and imitate what surrounds them.  Still a token can be told from its detailed form
(`Token.detail_inj`), because each part shows where it ends:

* the name of a kind holds neither a comma nor a bracket, and no two kinds have the same name
  (`Kind.name_append_inj`);
* a quoted text ends at its delimiter (`Text.quotedChars_append_inj`);
* a whole number goes as far as there are digits (`Text.repr_append_inj`);
* the first character of a value tells which of these it is, or that it is one of the three words
  `None`, `True` and `False` (`Value.Form.ofFirst`).

Floating-point numbers are left out: the infinity and the not-a-number are written as words, and
only the shortest digits that read back are written of the others.  The short form has no value in
it and can be read back for all tokens.
-/

namespace LessonLexer

/-! ## Whole numbers -/

namespace Text

/-- A character of a written whole number. -/
def isNumberPart (c : Char) : Bool := c == '-' || c.isDigit

theorem ne_of_isNumberPart {c d : Char} (hc : isNumberPart c = true)
    (hd : isNumberPart d = false) : c ≠ d := by
  rintro rfl
  rw [hc] at hd
  cases hd

/-- A whole number is written as its digits, after a minus sign if it is negative. -/
theorem exists_toList_repr (n : Int) : ∃ m : Nat,
    n = m ∧ n.repr.toList = Nat.toDigits 10 m ∨
      n = -(m : Int) ∧ n.repr.toList = '-' :: Nat.toDigits 10 m := by
  rw [Int.repr_eq_if]
  split
  · exact ⟨n.toNat, Or.inl ⟨by omega, Nat.toList_repr⟩⟩
  · refine ⟨(-n).toNat, Or.inr ⟨by omega, ?_⟩⟩
    have hsign : "-".toList = ['-'] := by decide
    rw [String.toList_append, Nat.toList_repr, hsign, List.singleton_append]

theorem isDigit_of_mem_toDigits {m : Nat} : ∀ c ∈ Nat.toDigits 10 m, c.isDigit = true :=
  fun _ hc => Nat.isDigit_of_mem_toDigits (by decide) (by decide) hc

theorem minus_cons_ne_toDigits (text : List Char) (m : Nat) : '-' :: text ≠ Nat.toDigits 10 m := by
  intro h
  have hmem : '-' ∈ Nat.toDigits 10 m := h ▸ List.mem_cons_self
  exact absurd (isDigit_of_mem_toDigits '-' hmem) (by decide)

theorem toDigits_inj {m m' : Nat} (h : Nat.toDigits 10 m = Nat.toDigits 10 m') : m = m' := by
  rw [← @Nat.ofDigitChars_ten_toDigits m, h, Nat.ofDigitChars_ten_toDigits]

theorem isNumberPart_of_mem_repr (n : Int) : ∀ c ∈ n.repr.toList, isNumberPart c = true := by
  intro c hc
  obtain ⟨m, ⟨-, hm⟩ | ⟨-, hm⟩⟩ := exists_toList_repr n
  · rw [hm] at hc
    exact Bool.or_eq_true_iff.mpr (Or.inr (isDigit_of_mem_toDigits c hc))
  · rw [hm] at hc
    rcases List.mem_cons.mp hc with rfl | hc
    · rfl
    · exact Bool.or_eq_true_iff.mpr (Or.inr (isDigit_of_mem_toDigits c hc))

/-- A whole number can be told from how it is written. -/
theorem repr_inj {n n' : Int} (h : n.repr.toList = n'.repr.toList) : n = n' := by
  obtain ⟨m, ⟨rfl, hm⟩ | ⟨rfl, hm⟩⟩ := exists_toList_repr n <;>
    obtain ⟨m', ⟨rfl, hm'⟩ | ⟨rfl, hm'⟩⟩ := exists_toList_repr n' <;> rw [hm, hm'] at h
  · rw [toDigits_inj h]
  · exact absurd h.symm (minus_cons_ne_toDigits _ _)
  · exact absurd h (minus_cons_ne_toDigits _ _)
  · rw [toDigits_inj (List.cons.inj h).2]

/-- And from a text that goes on with another character. -/
theorem repr_append_inj {n n' : Int} {rest rest' : List Char} (hstop : Stops isNumberPart rest)
    (hstop' : Stops isNumberPart rest') (h : n.repr.toList ++ rest = n'.repr.toList ++ rest') :
    n = n' ∧ rest = rest' := by
  obtain ⟨hnumber, hrest⟩ :=
    run_unique (isNumberPart_of_mem_repr n) hstop (isNumberPart_of_mem_repr n') hstop' h
  exact ⟨repr_inj hnumber, hrest⟩

/-- And from a text that ends with it, if another character stands before it. -/
theorem append_repr_inj {n n' : Int} {front front' : List Char}
    (hstop : Stops isNumberPart front.reverse) (hstop' : Stops isNumberPart front'.reverse)
    (h : front ++ n.repr.toList = front' ++ n'.repr.toList) : front = front' ∧ n = n' := by
  have hpart : ∀ m : Int, ∀ c ∈ m.repr.toList.reverse, isNumberPart c = true :=
    fun m c hc => isNumberPart_of_mem_repr m c (List.mem_reverse.mp hc)
  -- backwards, the text begins with the digits
  have hback := congrArg List.reverse h
  rw [List.reverse_append, List.reverse_append] at hback
  obtain ⟨hnumber, hfront⟩ := run_unique (hpart n) hstop (hpart n') hstop' hback
  exact ⟨List.reverse_inj.mp hfront, repr_inj (List.reverse_inj.mp hnumber)⟩

/-- A text stops a class if its first character does. -/
theorem stops_toList_append {p : Char → Bool} {text : String} {c : Char} {later : List Char}
    (htext : text.toList = c :: later) (h : p c = false) (rest : List Char) :
    Stops p (text.toList ++ rest) := by
  rw [htext]
  exact stops_cons.mpr h

/-- The separator between two parts of a written token stops a part without commas. -/
theorem stops_separator {p : Char → Bool} (h : p ',' = false) (rest : List Char) :
    Stops p (", ".toList ++ rest) :=
  stops_toList_append (by decide : ", ".toList = [',', ' ']) h rest

/-- A quoted text can be told from its quoted form, and from where this ends. -/
theorem quoted_append_inj {s t : String} {rest rest' : List Char}
    (h : (quoted s).toList ++ rest = (quoted t).toList ++ rest') : s = t ∧ rest = rest' := by
  rw [toList_quoted, toList_quoted] at h
  obtain ⟨htext, hrest⟩ := quotedChars_append_inj h
  exact ⟨String.toList_inj.mp htext, hrest⟩

end Text

/-! ## Kinds -/

namespace Kind

theorem mem_all (kind : Kind) : kind ∈ all := by
  cases kind with
  | keyword word => cases word <;> decide
  | symbol sign => cases sign <;> decide
  | _ => decide

/-- A kind is found under its name. -/
theorem ofName?_name (kind : Kind) : ofName? kind.name = some kind := by
  have hall : ∀ kind ∈ all, ofName? kind.name = some kind := by decide +kernel
  exact hall kind (mem_all kind)

/-- A character that may stand in the name of a kind. -/
def isNamePart (c : Char) : Bool := c.isUpper || c == '_'

theorem isNamePart_of_mem_name (kind : Kind) : ∀ c ∈ kind.name.toList, isNamePart c = true := by
  have hall : ∀ kind ∈ all, kind.name.toList.all isNamePart = true := by decide +kernel
  exact List.all_eq_true.mp (hall kind (mem_all kind))

/-- A kind can be told from a text that begins with its name and goes on with a character that
stands in no name. -/
theorem name_append_inj {kind kind' : Kind} {rest rest' : List Char}
    (hstop : Stops isNamePart rest) (hstop' : Stops isNamePart rest')
    (h : kind.name.toList ++ rest = kind'.name.toList ++ rest') : kind = kind' ∧ rest = rest' := by
  obtain ⟨hname, hrest⟩ :=
    run_unique (isNamePart_of_mem_name kind) hstop (isNamePart_of_mem_name kind') hstop' h
  refine ⟨Option.some.inj ?_, hrest⟩
  rw [← ofName?_name kind, ← ofName?_name kind', String.toList_inj.mp hname]

end Kind

/-! ## Values -/

namespace Value

/-- The forms of written values. -/
inductive Form where
  | none
  | truth (value : Bool)
  | text
  | number

/-- The form of a value that begins with the given character. -/
def Form.ofFirst (c : Char) : Form :=
  if c = 'N' then .none
  else if c = 'T' then .truth true
  else if c = 'F' then .truth false
  else if Item.isQuote c then .text
  else .number

/-- The form of a value. -/
def form : Value → Form
  | .none => .none
  | .bool truth => .truth truth
  | .text _ => .text
  | .int _ | .float _ => .number

theorem ofFirst_of_isQuote {c : Char} (h : Item.isQuote c = true) : Form.ofFirst c = .text := by
  rcases Text.eq_of_isQuote h with rfl | rfl <;> rfl

theorem ofFirst_of_isNumberPart {c : Char} (h : Text.isNumberPart c = true) :
    Form.ofFirst c = .number := by
  have hquote : ¬ Item.isQuote c = true := by
    intro hquote
    rcases Text.eq_of_isQuote hquote with rfl | rfl <;> exact absurd h (by decide)
  rw [Form.ofFirst, if_neg (Text.ne_of_isNumberPart h (by decide)),
    if_neg (Text.ne_of_isNumberPart h (by decide)), if_neg (Text.ne_of_isNumberPart h (by decide)),
    if_neg hquote]

/-- The first character tells the form. -/
theorem exists_written_eq_cons {v : Value} (h : ∀ number, v ≠ .float number) :
    ∃ c later, v.written.toList = c :: later ∧ Form.ofFirst c = v.form := by
  cases v with
  | none => exact ⟨'N', ['o', 'n', 'e'], by decide, rfl⟩
  | bool truth =>
    cases truth with
    | false => exact ⟨'F', ['a', 'l', 's', 'e'], by decide, rfl⟩
    | true => exact ⟨'T', ['r', 'u', 'e'], by decide, rfl⟩
  | text content =>
    exact ⟨_, _, Text.toList_quoted content, ofFirst_of_isQuote (Text.isQuote_delimiter _)⟩
  | int number =>
    show ∃ c later, number.repr.toList = c :: later ∧ Form.ofFirst c = .number
    cases hwritten : number.repr.toList with
    | nil =>
      obtain ⟨m, ⟨-, hm⟩ | ⟨-, hm⟩⟩ := Text.exists_toList_repr number
      · exact absurd (hm.symm.trans hwritten) Nat.toDigits_ne_nil
      · cases hm.symm.trans hwritten
    | cons c later =>
      have hc := Text.isNumberPart_of_mem_repr number c (hwritten ▸ List.mem_cons_self)
      exact ⟨c, later, rfl, ofFirst_of_isNumberPart hc⟩
  | float number => exact absurd rfl (h number)

/-- A value can be told from a text that begins with its written form. -/
theorem written_append_inj {v v' : Value} (hv : ∀ number, v ≠ .float number)
    (hv' : ∀ number, v' ≠ .float number) {rest rest' : List Char}
    (hstop : Stops Text.isNumberPart rest) (hstop' : Stops Text.isNumberPart rest')
    (h : v.written.toList ++ rest = v'.written.toList ++ rest') : v = v' ∧ rest = rest' := by
  -- both begin with the same character, so only the cases of equal forms remain
  have hform : v.form = v'.form := by
    obtain ⟨c, later, hc, hfirst⟩ := exists_written_eq_cons hv
    obtain ⟨c', later', hc', hfirst'⟩ := exists_written_eq_cons hv'
    rw [hc, hc'] at h
    rw [← hfirst, ← hfirst', (List.cons.inj h).1]
  cases v with
  | none =>
    cases v' with
    | none => exact ⟨rfl, List.append_cancel_left h⟩
    | _ => cases hform
  | bool truth =>
    cases v' with
    | bool truth' =>
      cases hform
      exact ⟨rfl, List.append_cancel_left h⟩
    | _ => cases hform
  | text content =>
    cases v' with
    | text content' =>
      obtain ⟨rfl, hrest⟩ := Text.quoted_append_inj h
      exact ⟨rfl, hrest⟩
    | _ => cases hform
  | int number =>
    cases v' with
    | int number' =>
      obtain ⟨rfl, hrest⟩ := Text.repr_append_inj hstop hstop' h
      exact ⟨rfl, hrest⟩
    | float number' => exact absurd rfl (hv' number')
    | _ => cases hform
  | float number => exact absurd rfl (hv number)

end Value

/-! ## Locations and tokens -/

attribute [ext] Location Token

/-- A location can be told from its detailed form. -/
theorem Location.detail_inj {l l' : Location} (h : l.detail = l'.detail) : l = l' := by
  have hstops : ∀ rest, Stops Text.isNumberPart (", ".toList ++ rest) := Text.stops_separator rfl
  have hchars := congrArg String.toList h
  unfold detail at hchars
  simp only [String.toList_append, List.append_assoc] at hchars
  obtain ⟨hfile, hchars⟩ := Text.quoted_append_inj (List.append_cancel_left hchars)
  obtain ⟨hline, hchars⟩ :=
    Text.repr_append_inj (hstops _) (hstops _) (List.append_cancel_left hchars)
  obtain ⟨hcolumn, hchars⟩ :=
    Text.repr_append_inj (hstops _) (hstops _) (List.append_cancel_left hchars)
  have hoffset := Text.repr_inj (List.append_cancel_right (List.append_cancel_left hchars))
  exact Location.ext hfile hline hcolumn hoffset

namespace Token

/-- A token can be told from its detailed form. -/
theorem detail_inj {a b : Token} (ha : ∀ number, a.value ≠ .float number)
    (hb : ∀ number, b.value ≠ .float number) (h : a.detail = b.detail) : a = b := by
  have hchars := congrArg String.toList h
  unfold detail at hchars
  simp only [String.toList_append, List.append_assoc] at hchars
  -- the parts are read off one by one, and each leaves an equation between what follows it
  obtain ⟨hkind, hchars⟩ := Kind.name_append_inj (Text.stops_separator rfl _)
    (Text.stops_separator rfl _) (List.append_cancel_left hchars)
  obtain ⟨hlexeme, hchars⟩ := Text.quoted_append_inj (List.append_cancel_left hchars)
  obtain ⟨hvalue, hchars⟩ := Value.written_append_inj ha hb (Text.stops_separator rfl _)
    (Text.stops_separator rfl _) (List.append_cancel_left hchars)
  have hlocation := Location.detail_inj
    (String.toList_inj.mp (List.append_cancel_right (List.append_cancel_left hchars)))
  exact Token.ext hkind hlexeme hvalue hlocation

/-- Kind and lexeme can be told from the short form. -/
theorem summary_eq_iff {a b : Token} :
    a.summary = b.summary ↔ a.kind = b.kind ∧ a.lexeme = b.lexeme := by
  constructor
  · intro h
    have hstops : ∀ rest, Stops Kind.isNamePart ("(".toList ++ rest) :=
      Text.stops_toList_append (by decide : "(".toList = ['(']) (by decide)
    have hchars := congrArg String.toList h
    unfold summary at hchars
    simp only [String.toList_append, List.append_assoc] at hchars
    obtain ⟨hkind, hchars⟩ := Kind.name_append_inj (hstops _) (hstops _) hchars
    obtain ⟨hlexeme, -⟩ := Text.quoted_append_inj (List.append_cancel_left hchars)
    exact ⟨hkind, hlexeme⟩
  · rintro ⟨hkind, hlexeme⟩
    rw [summary, summary, hkind, hlexeme]

end Token

/-- **The written forms of tokens are faithful.**  If two tokens whose values are no floating-point
numbers have the same detailed form, then they agree in kind, lexeme, value and location, whatever
their lexemes and file names hold.  Two tokens have the same short form exactly if they agree in
kind and lexeme. -/
theorem token_forms_faithful :
    (∀ a b : Token, (∀ number, a.value ≠ .float number) → (∀ number, b.value ≠ .float number) →
      a.detail = b.detail → a.kind = b.kind ∧ a.lexeme = b.lexeme ∧ a.value = b.value ∧
        a.location = b.location) ∧
      ∀ a b : Token, a.summary = b.summary ↔ a.kind = b.kind ∧ a.lexeme = b.lexeme := by
  refine ⟨?_, fun a b => Token.summary_eq_iff⟩
  intro a b ha hb h
  obtain rfl := Token.detail_inj ha hb h
  exact ⟨rfl, rfl, rfl, rfl⟩

/-- A truth value, the text that looks like it, and the number it counts as. -/
theorem token_forms_faithful_true :
    (∃ a b : Token, a.detail = "Token(BOOLEAN, 'True', True, SourceLocation('f', 1, 1, 0))" ∧
      b.value = .bool true ∧ a.detail = b.detail ∧ a.value = b.value) ∧
      Token.detail ⟨.boolean, "True", .bool true, ⟨"f", 1, 1, 0⟩⟩ ≠
        Token.detail ⟨.boolean, "True", .text "True", ⟨"f", 1, 1, 0⟩⟩ ∧
      Token.detail ⟨.boolean, "True", .bool true, ⟨"f", 1, 1, 0⟩⟩ ≠
        Token.detail ⟨.boolean, "True", .int 1, ⟨"f", 1, 1, 0⟩⟩ := by
  have htold : ∀ v v' : Value, (∀ number, v ≠ .float number) → (∀ number, v' ≠ .float number) →
      Token.detail ⟨.boolean, "True", v, ⟨"f", 1, 1, 0⟩⟩ =
        Token.detail ⟨.boolean, "True", v', ⟨"f", 1, 1, 0⟩⟩ → v = v' :=
    fun v v' hv hv' h => (token_forms_faithful.1 _ _ hv hv' h).2.2.1
  have htrue : ∀ number, Value.bool true ≠ .float number := fun _ h => by cases h
  refine ⟨⟨⟨.boolean, "True", .bool true, ⟨"f", 1, 1, 0⟩⟩,
    ⟨.boolean, "True", .bool true, ⟨"f", 1, 1, 0⟩⟩, by decide +kernel, rfl, rfl,
    htold _ _ htrue htrue rfl⟩, ?_, ?_⟩
  · intro h
    cases htold _ (.text "True") htrue (fun _ h => by cases h) h
  · intro h
    cases htold _ (.int 1) htrue (fun _ h => by cases h) h

end LessonLexer
