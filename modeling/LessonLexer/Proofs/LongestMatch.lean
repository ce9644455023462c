import LessonLexer.Proofs.Commands
import LessonLexer.Proofs.Grammar

/-!
# Reading takes the longest unit

The readers decide greedily, with at most one character of lookahead, and symbols are looked up in
two tables.  What they take is nevertheless described by the grammar alone: the longest unit that
the text begins with.  Where the text begins with no unit, a quote takes all of it and any other
character is taken alone.

Everything rests on two observations about a unit at the beginning of a text `run ++ rest`.  If its
characters belong to a class that `rest` does not begin with, it lies inside `run`
(`length_le_of_stops`); and if it is a closed string literal, then reading finds its closing quote
and no other (`StringBody.read_closed`).
-/

namespace LessonLexer

/-- The longest unit at the beginning of a text, and its only kind. -/
structure IsLongestUnit (text unit : List Char) (kind : Kind) : Prop where
  isUnit : LexicalUnit unit kind
  isPrefix : unit <+: text
  longest : ∀ other kind', LexicalUnit other kind' → other <+: text → other.length ≤ unit.length
  kind_unique : ∀ kind', LexicalUnit unit kind' → kind' = kind

/-- No unit stands at the beginning of a text. -/
def NoUnit (text : List Char) : Prop := ∀ unit kind, LexicalUnit unit kind → ¬ unit <+: text

/-! ## Runs at the beginning of a text -/

/-- A text of a class at the beginning of `run ++ rest` does not go beyond `run`, if `rest` does
not begin with the class. -/
theorem length_le_of_stops {p : Char → Bool} {unit run rest : List Char}
    (hunit : ∀ c ∈ unit, p c = true) (hstop : Stops p rest) (hbegins : unit <+: run ++ rest) :
    unit.length ≤ run.length := by
  rcases List.prefix_or_prefix_of_prefix hbegins (List.prefix_append run rest) with hin | hout
  · exact hin.length_le
  · obtain ⟨beyond, rfl⟩ := hout
    cases beyond with
    | nil => simp
    | cons c beyond =>
      have hc := hunit c (by simp)
      have hrest := (List.prefix_append_right_inj run).mp hbegins
      obtain ⟨back, rfl⟩ := hrest
      rw [stops_cons.mp hstop] at hc
      exact Bool.noConfusion hc

/-- Two runs of characters of one class at the beginning of a text are equal, if neither could go
further. -/
theorem run_unique {p : Char → Bool} {run run' rest rest' : List Char} (hrun : ∀ c ∈ run, p c)
    (hstop : Stops p rest) (hrun' : ∀ c ∈ run', p c) (hstop' : Stops p rest')
    (h : run ++ rest = run' ++ rest') : run = run' ∧ rest = rest' := by
  constructor
  · rw [← takeWhile_append_eq hrun hstop, h, takeWhile_append_eq hrun' hstop']
  · rw [← dropWhile_append_eq hrun hstop, h, dropWhile_append_eq hrun' hstop']

theorem stops_point (text : List Char) : Stops Text.isDigit ('.' :: text) :=
  stops_cons.mpr (by decide)

/-! ## Symbols -/

namespace Symbol

/-- Whether the table of compounds and the table of all symbols say the same of a symbol. -/
def tablesAgree (sign : Symbol) : Bool :=
  match sign.chars with
  | [c] =>
    match Compound.ofChar? c with
    | none => ofChars? [c] == some sign
    | some op => op.single == some sign
  | [c, d] =>
    match Compound.ofChar? c with
    | none => false
    | some op => op.resolve (some d) == some sign
  | _ => false

theorem tablesAgree_eq_true (sign : Symbol) : tablesAgree sign = true := by
  have hall : ∀ sign ∈ all, tablesAgree sign = true := by decide
  exact hall sign (mem_all sign)

theorem isSome_resolve {op : Compound} (h : op.single.isSome = true) (next : Option Char) :
    (op.resolve next).isSome = true := by
  unfold Compound.resolve
  split
  · rfl
  · split
    · rename_i hdoubled
      exact hdoubled.2
    · exact h

/-- If a text begins with a symbol, reading finds one that is no shorter. -/
theorem exists_read?_of_begins {sign : Symbol} {text : List Char} (h : sign.chars <+: text) :
    ∃ found, read? text = some found ∧ sign.chars.length ≤ found.chars.length := by
  obtain ⟨rest, rfl⟩ := h
  have hagree := tablesAgree_eq_true sign
  rw [tablesAgree] at hagree
  match hchars : sign.chars with
  | [] => exact absurd hchars sign.chars_ne_nil
  | [c] =>
    have hpos (found : Symbol) : [c].length ≤ found.chars.length :=
      List.length_pos_iff.mpr found.chars_ne_nil
    rw [hchars] at hagree
    show ∃ found, read? (c :: rest) = some found ∧ [c].length ≤ found.chars.length
    rw [read?]
    cases hop : Compound.ofChar? c with
    | none =>
      simp only [hop] at hagree
      exact ⟨sign, eq_of_beq hagree, hpos sign⟩
    | some op =>
      simp only [hop] at hagree
      have hsome := isSome_resolve (by rw [eq_of_beq hagree]; rfl) rest.head?
      obtain ⟨found, hfound⟩ := Option.isSome_iff_exists.mp hsome
      exact ⟨found, hfound, hpos found⟩
  | [c, d] =>
    rw [hchars] at hagree
    refine ⟨sign, ?_, by rw [hchars]⟩
    show read? (c :: d :: rest) = some sign
    rw [read?]
    cases hop : Compound.ofChar? c with
    | none =>
      simp only [hop] at hagree
      exact Bool.noConfusion hagree
    | some op =>
      simp only [hop] at hagree
      exact eq_of_beq hagree
  | c :: d :: e :: more =>
    rw [hchars] at hagree
    exact Bool.noConfusion hagree

/-- A symbol that is read is no line feed. -/
theorem ne_newline_of_read? {text : List Char} {sign : Symbol} (h : read? text = some sign) :
    ¬ ['\n'] <+: text := by
  intro hbegins
  cases hchars : sign.chars with
  | nil => exact sign.chars_ne_nil hchars
  | cons c rest =>
    have htext := chars_append_drop h
    rw [hchars] at htext
    rw [← htext, List.cons_append] at hbegins
    have hc : '\n' = c := (List.cons_prefix_cons.mp hbegins).1
    exact sign.not_newline_mem_chars (by rw [hchars, hc]; exact List.mem_cons_self)

end Symbol

/-! ## The longest unit -/

namespace Item

/-- An item that is not faulty is a unit. -/
theorem Shape.isUnit {item : Item} {rest : List Char} (h : item.Shape rest)
    (hfault : item.fault? = none) : LexicalUnit item.raw item.kind := by
  cases item with
  | comment text =>
    obtain ⟨⟨line, rfl, hline⟩, -⟩ := h
    exact LexicalUnit.comment hline
  | word text =>
    obtain ⟨⟨c, part, rfl, hstart, hpart⟩, -⟩ := h
    exact LexicalUnit.word hstart hpart
  | integer digits => exact LexicalUnit.integer h.1
  | float whole fraction => exact LexicalUnit.float h.1 h.2.1
  | string quote opening body closed =>
    obtain ⟨hquote, rfl, fragments, hinside, ⟨rfl, rfl⟩ | ⟨rfl, -⟩⟩ := h
    · exact LexicalUnit.string hquote hinside
    · cases hfault
  | symbol sign => exact LexicalUnit.symbol sign
  | newline => exact LexicalUnit.newline
  | invalid c => cases hfault

theorem length_le_of_number {whole rest other : List Char} {kind : Kind} (hwhole : IsDigitRun whole)
    (hstop : Stops Text.isDigit rest) (hother : LexicalUnit other kind)
    (hopening : kind.opening = .number) (hbegins : other <+: whole ++ rest) :
    other.length ≤ whole.length ∨ ∃ fraction back, (∀ c ∈ fraction, Text.isDigit c = true) ∧
      other = whole ++ '.' :: fraction ∧ rest = '.' :: (fraction ++ back) := by
  rcases hother.number_inv hopening with
    ⟨-, hdigits⟩ | ⟨-, whole', fraction, rfl, hwhole', hfraction⟩
  · exact Or.inl (length_le_of_stops hdigits.2 hstop hbegins)
  · obtain ⟨back, hback⟩ := hbegins
    rw [List.append_assoc] at hback
    obtain ⟨rfl, rfl⟩ := run_unique hwhole'.2 (stops_point _) hwhole.2 hstop hback
    exact Or.inr ⟨fraction, back, hfraction, rfl, rfl⟩

/-- No unit at the beginning of the text is longer than an item that is not faulty. -/
theorem Shape.length_le {item : Item} {rest : List Char} (h : item.Shape rest)
    (hfault : item.fault? = none) {other : List Char} {kind : Kind}
    (hother : LexicalUnit other kind) (hbegins : other <+: item.raw ++ rest) :
    other.length ≤ item.raw.length := by
  obtain ⟨c, text, hraw, hc⟩ := (h.isUnit hfault).exists_cons
  have hopening : kind.opening = item.kind.opening := by
    rw [← hc]
    exact hother.opening_of_begins (by rwa [hraw, List.cons_append] at hbegins)
  clear hraw hc
  cases item with
  | comment text =>
    obtain ⟨⟨line, rfl, hline⟩, hstop⟩ := h
    obtain ⟨-, line', rfl, hline'⟩ := hother.comment_inv hopening
    refine length_le_of_stops (fun c hc => ?_) hstop hbegins
    rcases List.mem_cons.mp hc with rfl | hc
    · decide
    · exact bne_iff_ne.mpr (fun heq => hline' (heq ▸ hc))
  | word text =>
    have hword := hopening.trans (Kind.opening_of_isWord (Kind.isWord_ofWord _))
    exact length_le_of_stops (hother.word_inv hword).2 h.2 hbegins
  | integer digits =>
    obtain ⟨hdigits, hstop, hpoint⟩ := h
    rcases length_le_of_number hdigits hstop hother hopening hbegins with
      hle | ⟨fraction, back, -, -, rfl⟩
    · exact hle
    · exact absurd rfl hpoint
  | float whole fraction =>
    obtain ⟨hwhole, hfraction, hstop⟩ := h
    rw [raw, List.append_assoc, List.cons_append] at hbegins
    rcases length_le_of_number hwhole (stops_point _) hother hopening hbegins with
      hle | ⟨fraction', back, hfraction', rfl, hrest⟩
    · rw [raw, List.length_append]
      omega
    · have hle : fraction'.length ≤ fraction.length :=
        length_le_of_stops hfraction' hstop ⟨back, (List.cons.inj hrest).2.symm⟩
      simp only [raw, List.length_append, List.length_cons]
      omega
  | string quote opening body closed =>
    obtain ⟨hquote, rfl, fragments, hinside, ⟨rfl, rfl⟩ | ⟨rfl, -⟩⟩ := h
    · obtain ⟨-, quote, fragments, rfl, hinside'⟩ := hother.string_inv hopening
      rw [raw, List.cons_append, if_pos rfl, List.append_assoc] at hbegins
      obtain ⟨rfl, back, hback⟩ := List.cons_prefix_cons.mp hbegins
      rw [List.append_assoc] at hback
      obtain ⟨rfl, -⟩ :=
        StringBody.closed_unique (ne_backslash_of_isQuote hquote) hinside' hinside hback
      exact Nat.le_refl _
    · cases hfault
  | symbol sign =>
    rcases hother.sign_inv hopening with ⟨sign', -, rfl⟩ | ⟨-, rfl⟩
    · obtain ⟨found, hfound, hle⟩ := Symbol.exists_read?_of_begins hbegins
      rw [raw, show Symbol.read? (sign.chars ++ rest) = some sign from h] at hfound
      rwa [raw, Option.some.inj hfound]
    · exact absurd hbegins (Symbol.ne_newline_of_read? h)
  | newline =>
    rcases hother.sign_inv hopening with ⟨sign, -, rfl⟩ | ⟨-, rfl⟩
    · cases hchars : sign.chars with
      | nil => exact absurd hchars sign.chars_ne_nil
      | cons c more =>
        rw [hchars] at hbegins
        have hc : c = '\n' := (List.cons_prefix_cons.mp hbegins).1
        exact absurd (by rw [hchars, hc]; exact List.mem_cons_self) sign.not_newline_mem_chars
    · exact Nat.le_refl _
  | invalid c => cases hfault

/-- A text with a faulty item begins with no unit. -/
theorem Shape.noUnit {item : Item} {rest : List Char} (h : item.Shape rest) {fault : Fault}
    (hfault : item.fault? = some fault) : NoUnit (item.raw ++ rest) := by
  intro unit kind hunit hbegins
  cases item with
  | string quote opening body closed =>
    obtain ⟨hquote, rfl, fragments, hinside, hbody⟩ := h
    have hopening := (hunit.opening_of_begins hbegins).trans (Opening.of_quote hquote)
    obtain ⟨-, quote, fragments', rfl, hinside'⟩ := hunit.string_inv hopening
    rcases hbody with ⟨rfl, -⟩ | ⟨rfl, rfl, hbody⟩
    · cases hfault
    · rw [raw, if_neg Bool.false_ne_true, List.append_nil, List.append_nil] at hbegins
      obtain ⟨rfl, back, hback⟩ := List.cons_prefix_cons.mp hbegins
      rw [List.append_assoc] at hback
      exact StringBody.not_closed_of_open (ne_backslash_of_isQuote hquote) hinside hbody hinside'
        back hback.symm
  | invalid c =>
    obtain ⟨hc, hnewline, hread⟩ := h
    have hopening := (hunit.opening_of_begins hbegins).trans hc
    rcases hunit.sign_inv hopening with ⟨sign, -, rfl⟩ | ⟨-, rfl⟩
    · obtain ⟨found, hfound, -⟩ := Symbol.exists_read?_of_begins hbegins
      rw [raw, List.singleton_append, hread] at hfound
      cases hfound
    · exact hnewline (List.cons_prefix_cons.mp hbegins).1.symm
  | _ => cases hfault

/-- An item that is not faulty is the longest unit at the beginning of the text. -/
theorem Shape.isLongestUnit {item : Item} {rest : List Char} (h : item.Shape rest)
    (hfault : item.fault? = none) : IsLongestUnit (item.raw ++ rest) item.raw item.kind where
  isUnit := h.isUnit hfault
  isPrefix := List.prefix_append _ _
  longest _ _ hother hbegins := h.length_le hfault hother hbegins
  kind_unique _ hkind := (h.isUnit hfault).kind_unique hkind

/-- A faulty item is a string literal that takes all of the text, or a single character that is no
quote. -/
theorem Shape.raw_of_fault {item : Item} {rest : List Char} (h : item.Shape rest) {fault : Fault}
    (hfault : item.fault? = some fault) {c : Char} {text : List Char}
    (htext : item.raw ++ rest = c :: text) :
    isQuote c = true ∧ item.raw = c :: text ∧ item.kind = .string ∨
      isQuote c = false ∧ item = .invalid c := by
  cases item with
  | string quote opening body closed =>
    obtain ⟨hquote, rfl, fragments, hinside, ⟨rfl, -⟩ | ⟨rfl, rfl, -⟩⟩ := h
    · cases hfault
    · rw [List.append_nil] at htext
      obtain rfl : opening = c := (List.cons.inj htext).1
      exact Or.inl ⟨hquote, htext, rfl⟩
  | invalid d =>
    obtain rfl : d = c := (List.cons.inj htext).1
    refine Or.inr ⟨Bool.eq_false_iff.mpr fun hquote => ?_, rfl⟩
    cases (Opening.of_quote hquote).symm.trans h.1
  | _ => cases hfault

end Item

/-! ## Reading at the cursor -/

/-- **Longest match.**  Wherever the cursor of a session stands before a character, reading an item
passes over the longest unit of the text from there on and gives a token of its kind.  If there is
no unit, it passes over all of the text behind a quote, and over one invalid character
otherwise. -/
theorem readItem_takes_longest (s : Session) {c : Char}
    (hc : s.source.toList[s.cursor.offset]? = some c) :
    ∃ next token consumed, s.step .readItem = (next, .ok (.token token)) ∧
      next.cursor = s.cursor.after consumed ∧
      (IsLongestUnit s.remaining consumed token.kind ∨
        NoUnit s.remaining ∧
          (Item.isQuote c = true ∧ consumed = s.remaining ∧ token.kind = .string ∨
            Item.isQuote c = false ∧ consumed = [c] ∧ token.kind = .error ∧
              token.lexeme = String.singleton c)) := by
  obtain ⟨text, htext⟩ := List.head?_eq_some_iff.mp (s.head?_remaining.trans hc)
  obtain ⟨⟨item, rest⟩, hnext⟩ : ∃ found, Item.next? s.remaining = some found :=
    ⟨_, by rw [htext, Item.next?_cons]⟩
  have hshape := Item.shape_of_next? hnext
  have hraw := Item.raw_append_of_next? hnext
  refine ⟨_, item.token s.here, item.raw, (Session.step_readItem hnext).trans (s.take_eq item),
    rfl, ?_⟩
  cases hfault : item.fault? with
  | none =>
    rw [← hraw]
    exact Or.inl (hshape.isLongestUnit hfault)
  | some fault =>
    refine Or.inr ⟨hraw ▸ hshape.noUnit hfault, ?_⟩
    rcases hshape.raw_of_fault hfault (hraw.trans htext) with ⟨hquote, hall, hkind⟩ | ⟨hquote, rfl⟩
    · exact Or.inl ⟨hquote, hall.trans htext.symm, hkind⟩
    · exact Or.inr ⟨hquote, rfl, rfl, rfl⟩

/-- The longest symbol of `!==` has two characters. -/
theorem readItem_takes_longest_notEqual :
    let s : Session := { Session.ofSource "a!==b" "f" with cursor := ⟨1, 1, 2⟩ }
    s.source.toList[s.cursor.offset]? = some '!' ∧
      ∃ next token consumed, s.step .readItem = (next, .ok (.token token)) ∧
        next.cursor = s.cursor.after consumed ∧
        (IsLongestUnit s.remaining consumed token.kind ∨
          NoUnit s.remaining ∧
            (Item.isQuote '!' = true ∧ consumed = s.remaining ∧ token.kind = .string ∨
              Item.isQuote '!' = false ∧ consumed = ['!'] ∧ token.kind = .error ∧
                token.lexeme = String.singleton '!')) :=
  ⟨by decide, readItem_takes_longest { Session.ofSource "a!==b" "f" with cursor := ⟨1, 1, 2⟩ }
    (by decide)⟩

end LessonLexer
