import LessonLexer.Proofs.Acts
import LessonLexer.Proofs.Results

/-!
# Scanning bit by bit

A reader says of a text which item it begins with.  A scanner is the act that finds this out: it
looks at the character at the cursor and decides whether to consume it, until it can tell the item.
Here every reader of `Item` gets a scanner, and the scanner is shown to do what `Session.takeFrom`
says of the item that the reader finds.

A scanner is told where the token that it makes is to begin, and it may be started on any character,
and also where no text remains.  So the statements are about all sessions.  A scanner of a run of
characters and the scanner of numbers consume nothing if they stand on nothing that suits them; that
of numbers then makes an empty numeral, and it is only on a point without digits that it fails, with
the point behind it (`Act.scanNumber_eq`).  The scanners of string literals and of signs consume
their first character unseen, and fail if there is none (`Act.scanLiteral_nil`,
`Act.scanSign_nil`).  After that nothing can go wrong.  Every further character is looked at or
consumed behind a test that there is one, or is looked at by `Act.peek`, which answers beyond the
end as well.

## Main names

* `Act.passing`, `Act.numeric`, `Act.fragments`: what the scanners repeat.
* `Act.scanRun`, `Act.scanNumber`, `Act.scanLiteral`, `Act.scanSign`, `Act.scanItem`: the scanners.
-/

namespace LessonLexer

/-! ## Items as they are read -/

/-- A closed item is taken without a report. -/
theorem Session.takeFrom_of_closed {item : Item} (h : item.isOpen = false) (s : Session)
    (start : Location) : s.takeFrom start item = (s.skip item.raw, .ok (item.token start)) := by
  have hreports : item.reports start = [] := by
    rw [← not_ne_iff, Item.reports_ne_nil_iff, h]
    exact Bool.false_ne_true
  rw [takeFrom, hreports, List.append_nil]
  rfl

/-- A body ends with the quote that closes it, which is then a single character, or with the
text. -/
theorem StringBody.readInto_ends (quote : List Char) (found : List Fragment) (text : List Char) :
    (readInto quote found text).closed = true ∧ (∃ c, quote = [c]) ∨
      (readInto quote found text).closed = false ∧ (readInto quote found text).rest = [] := by
  fun_induction readInto quote found text with
  | case1 found => exact Or.inr ⟨rfl, rfl⟩
  | case2 found c hquote => exact Or.inl ⟨rfl, c, hquote⟩
  | case3 found c hquote => exact Or.inr ⟨rfl, rfl⟩
  | case4 found c d rest hquote => exact Or.inl ⟨rfl, c, hquote⟩
  | case5 found d rest hquote ih => exact ih
  | case6 found c d rest hquote hc ih => exact ih

/-- A character makes a plain fragment, or it is a backslash with another one behind it. -/
theorem StringBody.plain_or_escape (c : Char) (text : List Char) :
    (c ≠ '\\' ∨ text = []) ∨ c = '\\' ∧ ∃ d rest, text = d :: rest := by
  cases text with
  | nil => exact Or.inl (Or.inr rfl)
  | cons d rest =>
    by_cases hc : c = '\\'
    · exact Or.inr ⟨hc, d, rest, rfl⟩
    · exact Or.inl (Or.inl hc)

namespace Item

/-- The item that a sign gives: a symbol if it is one. -/
def ofSign (c : Char) (sign : Option Symbol) : Item := (sign.map Item.symbol).getD (.invalid c)

/-- What is read of a sign that is no line break. -/
theorem readSign_eq_ofSign {c : Char} (h : c ≠ '\n') (text : List Char) :
    (readSign c text).1 = ofSign c (Symbol.read? (c :: text)) := by
  rw [readSign, if_neg h]
  cases Symbol.read? (c :: text) <;> rfl

/-- The source text of a sign that is no line feed: that of the symbol if there is one. -/
theorem raw_readSign {c : Char} (hc : c ≠ '\n') (text : List Char) :
    (readSign c text).1.raw = ((Symbol.read? (c :: text)).map Symbol.chars).getD [c] := by
  rw [readSign_eq_ofSign hc]
  cases Symbol.read? (c :: text) <;> rfl

/-- A sign that begins an operator of two characters takes the second along if it is there. -/
theorem raw_readSign_compound {c : Char} {op : Compound} (h : Compound.ofChar? c = some op)
    (text : List Char) :
    (readSign c text).1.raw =
      if text.head? = some '=' ∨ text.head? = some op.first ∧ op.doubled.isSome then
        c :: text.take 1
      else [c] := by
  have hfirst : op.first = c := by simpa using List.find?_some h
  have hnewline : c ≠ '\n' := by
    rintro rfl
    cases h
  have hread : Symbol.read? (c :: text) = op.resolve text.head? := by
    simp only [Symbol.read?, h]
  obtain ⟨hequal, hdoubled, hsingle⟩ := Compound.chars_of_mem_all (List.mem_of_find?_eq_some h)
  rw [raw_readSign hnewline, hread, Compound.resolve]
  by_cases hnext : text.head? = some '='
  · obtain ⟨rest, rfl⟩ := List.head?_eq_some_iff.mp hnext
    rw [if_pos hnext, if_pos (Or.inl hnext)]
    show op.withEqual.chars = _
    rw [hequal, hfirst]
    rfl
  · by_cases hsame : text.head? = some op.first ∧ op.doubled.isSome = true
    · obtain ⟨rest, rfl⟩ := List.head?_eq_some_iff.mp hsame.1
      obtain ⟨sign, hsign⟩ := Option.isSome_iff_exists.mp hsame.2
      rw [if_neg hnext, if_pos hsame, if_pos (Or.inr hsame), hsign]
      show sign.chars = _
      rw [hdoubled sign hsign, hfirst]
      rfl
    · rw [if_neg hnext, if_neg hsame, if_neg (not_or.mpr ⟨hnext, hsame⟩)]
      cases hsingle' : op.single with
      | none => rfl
      | some sign =>
        show sign.chars = _
        rw [hsingle sign hsingle', hfirst]

/-- Any other sign is one character. -/
theorem raw_readSign_single {c : Char} (h : Compound.ofChar? c = none) (text : List Char) :
    (readSign c text).1.raw = [c] := by
  by_cases hc : c = '\n'
  · rw [readSign, if_pos hc, hc]
    rfl
  · have hread : Symbol.read? (c :: text) = Symbol.ofChars? [c] := by
      simp only [Symbol.read?, h]
    rw [raw_readSign hc, hread]
    cases hsign : Symbol.ofChars? [c] with
    | none => rfl
    | some sign => exact Symbol.chars_of_ofChars? hsign

end Item

/-- A character other than the end mark is seen exactly where it stands. -/
theorem Session.getD_endMark_eq_iff {c : Char} (h : c ≠ endMark) (next : Option Char) :
    next.getD endMark = c ↔ next = some c := by
  cases next with
  | none => simp [h.symm]
  | some d => simp

namespace Act

variable {s : Session} {c : Char} {text : List Char}

/-! ## What the scanners repeat -/

/-- Consumes a character of a class. -/
def passOne (p : Char → Bool) : Act Session (Round Unit) :=
  ifEnd (return .last ()) do
    if p (← current) then
      let _ ← advance
      return .again ()
    else return .last ()

theorem passOne_nil (h : s.remaining = []) (p : Char → Bool) :
    passOne p s = (s, .ok (.last ())) := by
  rw [passOne, ifEnd_nil h]
  rfl

theorem passOne_cons (h : s.remaining = c :: text) (p : Char → Bool) :
    passOne p s = if p c then (s.skip [c], .ok (.again ())) else (s, .ok (.last ())) := by
  rw [passOne, ifEnd_cons h, bind_of_ok (current_cons h)]
  split
  · exact bind_of_ok (advance_cons h) _
  · rfl

/-- Passes over the characters of a class. -/
def passing (p : Char → Bool) : Repetition Session Unit where
  turn _ := passOne p
  size s := s.remaining.length
  shrinks {b b' s s'} h := by
    cases htext : s.remaining with
    | nil => cases (passOne_nil htext p).symm.trans h
    | cons c text =>
      rw [passOne_cons htext] at h
      split at h
      · cases h
        exact Session.length_remaining_skip_lt htext
      · cases h

theorem passing_run (p : Char → Bool) (s : Session) :
    (passing p).run () s = (s.skip (s.remaining.takeWhile p), .ok ()) := by
  induction htext : s.remaining generalizing s with
  | nil => exact Repetition.run_of_last (passOne_nil htext p)
  | cons c text ih =>
    have hturn : (passing p).turn () s = _ := passOne_cons htext p
    by_cases hc : p c = true
    · rw [if_pos hc] at hturn
      rw [Repetition.run_of_again hturn, ih _ (Session.remaining_skip_cons htext),
        Session.skip_skip, List.takeWhile_cons_of_pos hc]
      rfl
    · rw [if_neg hc] at hturn
      rw [Repetition.run_of_last hturn, List.takeWhile_cons_of_neg hc]
      rfl

/-- Consumes a digit, or a point if there was none before. -/
def passNumeric (pointed : Bool) : Act Session (Round Bool) :=
  ifEnd (return .last pointed) do
    let c ← current
    if Text.isDigit c then
      let _ ← advance
      return .again pointed
    else if c = '.' ∧ pointed = false then
      let _ ← advance
      return .again true
    else return .last pointed

theorem passNumeric_nil (h : s.remaining = []) (pointed : Bool) :
    passNumeric pointed s = (s, .ok (.last pointed)) := by
  rw [passNumeric, ifEnd_nil h]
  rfl

theorem passNumeric_cons (h : s.remaining = c :: text) (pointed : Bool) :
    passNumeric pointed s =
      if Text.isDigit c then (s.skip [c], .ok (.again pointed))
      else if c = '.' ∧ pointed = false then (s.skip [c], .ok (.again true))
      else (s, .ok (.last pointed)) := by
  rw [passNumeric, ifEnd_cons h, bind_of_ok (current_cons h)]
  split
  · exact bind_of_ok (advance_cons h) _
  · split
    · exact bind_of_ok (advance_cons h) _
    · rfl

/-- Passes over digits, and over one point among them. -/
def numeric : Repetition Session Bool where
  turn := passNumeric
  size s := s.remaining.length
  shrinks {b b' s s'} h := by
    cases htext : s.remaining with
    | nil => cases (passNumeric_nil htext b).symm.trans h
    | cons c text =>
      rw [passNumeric_cons htext] at h
      split at h
      · cases h
        exact Session.length_remaining_skip_lt htext
      · split at h
        · cases h
          exact Session.length_remaining_skip_lt htext
        · cases h

/-- Digits go by, and whether there was a point stays as it is. -/
theorem numeric_run_digits {digits : List Char} (h : s.remaining = digits ++ text)
    (hdigits : ∀ c ∈ digits, Text.isDigit c = true) (pointed : Bool) :
    numeric.run pointed s = numeric.run pointed (s.skip digits) := by
  induction digits generalizing s with
  | nil => rfl
  | cons c digits ih =>
    obtain ⟨hc, hlater⟩ := List.forall_mem_cons.mp hdigits
    have hturn : numeric.turn pointed s = _ := passNumeric_cons h pointed
    rw [if_pos hc] at hturn
    rw [Repetition.run_of_again hturn, ih (Session.remaining_skip_cons h) hlater,
      Session.skip_skip]
    rfl

/-- Where no digit stands, and no point that could be the first, nothing goes by. -/
theorem numeric_run_stop {pointed : Bool} (hdigit : Stops Text.isDigit s.remaining)
    (hpoint : s.remaining.head? ≠ some '.' ∨ pointed = true) :
    numeric.run pointed s = (s, .ok pointed) := by
  refine Repetition.run_of_last ?_
  show passNumeric pointed s = _
  cases htext : s.remaining with
  | nil => exact passNumeric_nil htext pointed
  | cons c text =>
    rw [htext] at hdigit hpoint
    have hc : ¬ Text.isDigit c = true := Bool.not_eq_true _ ▸ stops_cons.mp hdigit
    have hnot : ¬ (c = '.' ∧ pointed = false) := by
      rintro ⟨rfl, rfl⟩
      simp at hpoint
    rw [passNumeric_cons htext, if_neg hc, if_neg hnot]

/-- Behind the digits there is no point: they make up an integer. -/
theorem numeric_run_integer {digits : List Char} (h : s.remaining = digits ++ text)
    (hdigits : ∀ c ∈ digits, Text.isDigit c = true) (hstop : Stops Text.isDigit text)
    (hpoint : text.head? ≠ some '.') :
    numeric.run false s = (s.skip digits, .ok false) := by
  rw [numeric_run_digits h hdigits]
  refine numeric_run_stop ?_ (Or.inl ?_)
  · rwa [Session.remaining_skip h]
  · rwa [Session.remaining_skip h]

/-- There is one: it goes by, and the digits behind it. -/
theorem numeric_run_float {whole fraction : List Char}
    (h : s.remaining = whole ++ '.' :: (fraction ++ text))
    (hwhole : ∀ c ∈ whole, Text.isDigit c = true)
    (hfraction : ∀ c ∈ fraction, Text.isDigit c = true) (hstop : Stops Text.isDigit text) :
    numeric.run false s = (s.skip (whole ++ '.' :: fraction), .ok true) := by
  have hbehind := Session.remaining_skip h
  have hrest := Session.remaining_skip_cons hbehind
  have hturn : numeric.turn false (s.skip whole) = _ := passNumeric_cons hbehind false
  rw [if_neg (by decide), if_pos ⟨rfl, rfl⟩] at hturn
  rw [numeric_run_digits h hwhole, Repetition.run_of_again hturn,
    numeric_run_digits hrest hfraction, numeric_run_stop _ (Or.inr rfl), Session.skip_skip,
    Session.skip_skip]
  · rfl
  · rwa [Session.remaining_skip hrest]

/-- Consumes a fragment of a string literal, unless the quote or the end of the text is there, and
notes the character that it means. -/
def passFragment (quote noted : List Char) : Act Session (Round (List Char)) :=
  ifEnd (return .last noted) do
    let s ← state
    let c ← current
    if quote = [c] then return .last noted
    else if c = '\\' ∧ s.cursor.offset + 1 < s.source.length then
      let _ ← advance
      return .again (noted ++ [← advance])
    else return .again (noted ++ [← advance])

theorem passFragment_nil (h : s.remaining = []) (quote noted : List Char) :
    passFragment quote noted s = (s, .ok (.last noted)) := by
  rw [passFragment, ifEnd_nil h]
  rfl

theorem passFragment_quote (h : s.remaining = c :: text) (noted : List Char) :
    passFragment [c] noted s = (s, .ok (.last noted)) := by
  rw [passFragment, ifEnd_cons h, state_bind, bind_of_ok (current_cons h), if_pos rfl]
  rfl

/-- A backslash goes by together with the character behind it. -/
theorem passFragment_escaped {quote : List Char} (h : s.remaining = '\\' :: c :: text)
    (hquote : quote ≠ ['\\']) (noted : List Char) :
    passFragment quote noted s = (s.skip ['\\', c], .ok (.again (noted ++ [c]))) := by
  have hlength := Session.length_remaining s
  rw [h, List.length_cons, List.length_cons] at hlength
  have hlt : s.cursor.offset + 1 < s.source.length := by omega
  rw [passFragment, ifEnd_cons h, state_bind, bind_of_ok (current_cons h), if_neg hquote,
    if_pos ⟨rfl, hlt⟩, bind_of_ok (advance_cons h),
    bind_of_ok (advance_cons (Session.remaining_skip_cons h)), Session.skip_skip]
  rfl

/-- Any other character goes by alone, and so does a backslash that is the last character. -/
theorem passFragment_plain {quote : List Char} (h : s.remaining = c :: text)
    (hquote : quote ≠ [c]) (hplain : c ≠ '\\' ∨ text = []) (noted : List Char) :
    passFragment quote noted s = (s.skip [c], .ok (.again (noted ++ [c]))) := by
  have hlength := Session.length_remaining s
  have hnot : ¬ (c = '\\' ∧ s.cursor.offset + 1 < s.source.length) := by
    rintro ⟨hc, hlt⟩
    rcases hplain with hne | rfl
    · exact hne hc
    · rw [h, List.length_singleton] at hlength
      omega
  rw [passFragment, ifEnd_cons h, state_bind, bind_of_ok (current_cons h), if_neg hquote,
    if_neg hnot, bind_of_ok (advance_cons h)]
  rfl

/-- Passes over the body of a string literal. -/
def fragments (quote : List Char) : Repetition Session (List Char) where
  turn := passFragment quote
  size s := s.remaining.length
  shrinks {noted noted' s s'} h := by
    match htext : s.remaining with
    | [] => cases (passFragment_nil htext quote noted).symm.trans h
    | c :: text =>
      by_cases hquote : quote = [c]
      · subst hquote
        cases (passFragment_quote htext noted).symm.trans h
      rcases StringBody.plain_or_escape c text with hplain | ⟨rfl, d, rest, rfl⟩
      · cases (passFragment_plain htext hquote hplain noted).symm.trans h
        exact Session.length_remaining_skip_lt htext
      · cases (passFragment_escaped htext hquote noted).symm.trans h
        rw [@Session.remaining_skip s ['\\', d] rest htext]
        exact Nat.lt_succ_of_lt (Nat.lt_succ_self _)

/-- The fragments of the body go by, and what they mean is noted.  An escaped character takes its
backslash along, so it is the length of the text that goes down. -/
theorem fragments_run (quote : List Char) :
    ∀ (text : List Char) (s : Session) (noted : List Char), s.remaining = text →
      (fragments quote).run noted s =
        (s.skip ((StringBody.read quote text).fragments.flatMap Fragment.raw),
          .ok (noted ++ (StringBody.read quote text).fragments.map Fragment.char))
  | [], s, noted, h => by
    rw [Repetition.run_of_last (passFragment_nil h quote noted), StringBody.read_nil, List.map_nil,
      List.append_nil]
    rfl
  | c :: text, s, noted, h => by
    by_cases hquote : quote = [c]
    · subst hquote
      rw [Repetition.run_of_last (passFragment_quote h noted), StringBody.read_quote, List.map_nil,
        List.append_nil]
      rfl
    rcases StringBody.plain_or_escape c text with hplain | ⟨rfl, d, rest, rfl⟩
    · rw [Repetition.run_of_again (passFragment_plain h hquote hplain noted),
        fragments_run quote text _ _ (Session.remaining_skip_cons h),
        StringBody.read_plain hquote hplain, Session.skip_skip, List.append_assoc]
      rfl
    · rw [Repetition.run_of_again (passFragment_escaped h hquote noted),
        fragments_run quote rest _ _ (@Session.remaining_skip s ['\\', d] rest h),
        StringBody.read_escape hquote, Session.skip_skip, List.append_assoc]
      rfl
termination_by text => text.length

/-! ## Runs of characters and numbers -/

/-- Passes over the characters of a class and makes an item of them. -/
def scanRun (p : Char → Bool) (made : List Char → Item) (start : Location) : Act Session Token := do
  let s ← state
  (passing p).run ()
  return (made (← textSince s.cursor.offset)).token start

theorem scanRun_eq {p : Char → Bool} {made : List Char → Item}
    (hclosed : ∀ text, (made text).isOpen = false) (hraw : ∀ text, (made text).raw = text)
    (start : Location) (s : Session) :
    scanRun p made start s = s.takeFrom start (made (s.remaining.takeWhile p)) := by
  have hsplit : s.remaining = s.remaining.takeWhile p ++ s.remaining.dropWhile p :=
    List.takeWhile_append_dropWhile.symm
  rw [Session.takeFrom_of_closed (hclosed _), hraw, scanRun, state_bind,
    bind_of_ok (passing_run p s), bind_of_ok (textSince_skip hsplit)]
  rfl

/-- The item of digits with a point among them.  A digit there must be. -/
def floatItem (text : List Char) : Except Failure Item :=
  if text.any Text.isDigit then
    .ok (.float (text.takeWhile Text.isDigit) (text.dropWhile Text.isDigit).tail)
  else .error (.notANumber (String.ofList text))

/-- Scans a number. -/
def scanNumber (start : Location) : Act Session Token := do
  let s ← state
  let pointed ← numeric.run false
  let text ← textSince s.cursor.offset
  if pointed then give ((floatItem text).map fun item => item.token start)
  else return (Item.integer text).token start

theorem scanNumber_integer {digits : List Char} (h : s.remaining = digits ++ text)
    (hdigits : ∀ c ∈ digits, Text.isDigit c = true) (hstop : Stops Text.isDigit text)
    (hpoint : text.head? ≠ some '.') (start : Location) :
    scanNumber start s = s.takeFrom start (.integer digits) := by
  rw [Session.takeFrom_of_closed rfl, scanNumber, state_bind,
    bind_of_ok (numeric_run_integer h hdigits hstop hpoint), bind_of_ok (textSince_skip h)]
  rfl

theorem floatItem_append {whole fraction : List Char}
    (hwhole : ∀ c ∈ whole, Text.isDigit c = true)
    (hfraction : ∀ c ∈ fraction, Text.isDigit c = true) :
    floatItem (whole ++ '.' :: fraction) =
      if whole = [] ∧ fraction = [] then .error (.notANumber ".")
      else .ok (.float whole fraction) := by
  have hstop : Stops Text.isDigit ('.' :: fraction) := stops_cons.mpr (by decide)
  rw [floatItem, takeWhile_append_eq hwhole hstop, dropWhile_append_eq hwhole hstop]
  by_cases hempty : whole = [] ∧ fraction = []
  · obtain ⟨rfl, rfl⟩ := hempty
    decide
  · have hdigit : (whole ++ '.' :: fraction).any Text.isDigit = true := by
      rw [List.any_append, List.any_cons]
      cases whole with
      | cons c whole => simp [hwhole c]
      | nil =>
        cases fraction with
        | cons c fraction => simp [hfraction c]
        | nil => exact absurd ⟨rfl, rfl⟩ hempty
    rw [if_pos hdigit, if_neg hempty]
    rfl

theorem scanNumber_float {whole fraction : List Char}
    (h : s.remaining = whole ++ '.' :: (fraction ++ text))
    (hwhole : ∀ c ∈ whole, Text.isDigit c = true)
    (hfraction : ∀ c ∈ fraction, Text.isDigit c = true) (hstop : Stops Text.isDigit text)
    (start : Location) :
    scanNumber start s =
      if whole = [] ∧ fraction = [] then (s.skip ['.'], .error (.notANumber "."))
      else s.takeFrom start (.float whole fraction) := by
  have hsplit : s.remaining = (whole ++ '.' :: fraction) ++ text := by
    rw [h, List.append_assoc, List.cons_append]
  rw [Session.takeFrom_of_closed rfl, scanNumber, state_bind,
    bind_of_ok (numeric_run_float h hwhole hfraction hstop), bind_of_ok (textSince_skip hsplit),
    if_pos rfl, floatItem_append hwhole hfraction]
  split
  · rename_i hempty
    obtain ⟨rfl, rfl⟩ := hempty
    rfl
  · rfl

/-- A number is scanned as it is read, except that a point without digits is passed over and
refused. -/
theorem scanNumber_eq (start : Location) (s : Session) :
    scanNumber start s =
      if (Item.readNumber s.remaining).1 = .float [] [] then
        (s.skip ['.'], .error (.notANumber "."))
      else s.takeFrom start (Item.readNumber s.remaining).1 := by
  have hsplit : s.remaining = s.remaining.takeWhile Text.isDigit ++
      s.remaining.dropWhile Text.isDigit := List.takeWhile_append_dropWhile.symm
  have hwhole : ∀ c ∈ s.remaining.takeWhile Text.isDigit, Text.isDigit c = true :=
    fun c hc => List.mem_takeWhile_imp hc
  have hstop := stops_dropWhile Text.isDigit s.remaining
  unfold Item.readNumber
  split
  · rename_i rest hrest
    rw [hrest, ← @List.takeWhile_append_dropWhile _ Text.isDigit rest] at hsplit
    rw [scanNumber_float hsplit hwhole (fun c hc => List.mem_takeWhile_imp hc)
      (stops_dropWhile _ _)]
    simp only [Item.float.injEq]
  · rename_i hpoint
    rw [if_neg (by simp)]
    refine scanNumber_integer hsplit hwhole hstop (fun hhead => ?_) start
    obtain ⟨rest, hrest⟩ := List.head?_eq_some_iff.mp hhead
    exact hpoint rest hrest

/-! ## String literals -/

/-- Consumes the quote that closes a literal, or reports that there is none. -/
def closeLiteral (quote : List Char) (start : Location) : Act Session Unit :=
  ifEnd (change (·.report (Fault.diagnostic (.unterminatedString (String.ofList quote)) start))) do
    let _ ← advance
    return ()

theorem closeLiteral_nil (h : s.remaining = []) (quote : List Char) (start : Location) :
    closeLiteral quote start s =
      (s.report (Fault.diagnostic (.unterminatedString (String.ofList quote)) start), .ok ()) := by
  rw [closeLiteral, ifEnd_nil h]
  rfl

theorem closeLiteral_cons (h : s.remaining = c :: text) (quote : List Char) (start : Location) :
    closeLiteral quote start s = (s.skip [c], .ok ()) := by
  rw [closeLiteral, ifEnd_cons h, bind_of_ok (advance_cons h)]
  rfl

/-- Scans a string literal that the given quote closes, whatever character opens it. -/
def scanLiteral (quote : List Char) (start : Location) : Act Session Token := do
  let _ ← advance
  let content ← (fragments quote).run []
  closeLiteral quote start
  return ⟨.string, String.ofList content, .text (String.ofList content), start⟩

theorem scanLiteral_nil (h : s.remaining = []) (quote : List Char) (start : Location) :
    scanLiteral quote start s = (s, .error .outsideText) :=
  bind_of_error (advance_nil h) _

/-- A literal is scanned as it is read. -/
theorem scanLiteral_cons (h : s.remaining = c :: text) (quote : List Char) (start : Location) :
    scanLiteral quote start s = s.takeFrom start (Item.readString quote c text).1 := by
  have hinside := Session.remaining_skip_cons h
  have hraw := StringBody.raw_append_rest quote text
  rw [StringBody.raw, List.append_assoc] at hraw
  have hbehind := Session.remaining_skip (hinside.trans hraw.symm)
  rw [scanLiteral, bind_of_ok (advance_cons h), bind_of_ok (fragments_run quote text _ _ hinside),
    List.nil_append]
  rcases StringBody.readInto_ends quote [] text with ⟨hclosed, q, rfl⟩ | ⟨hopen, hrest⟩
  · have hread : (StringBody.read [q] text).closed = true := hclosed
    rw [hread, if_pos rfl] at hbehind
    have hitem : (Item.readString [q] c text).1.isOpen = false := by
      rw [Item.readString, Item.isOpen, hread]
      rfl
    rw [bind_of_ok (closeLiteral_cons hbehind _ _), Session.skip_skip, Session.skip_skip,
      Session.takeFrom_of_closed hitem, Item.readString, Item.raw, hread, if_pos rfl]
    rfl
  · have hread : (StringBody.read quote text).closed = false := hopen
    have hrest' : (StringBody.read quote text).rest = [] := hrest
    rw [hread, hrest', if_neg Bool.false_ne_true] at hbehind
    rw [bind_of_ok (closeLiteral_nil hbehind _ _), Session.skip_skip, Session.takeFrom,
      Item.readString, Item.raw, hread, if_neg Bool.false_ne_true, List.append_nil]
    rfl

/-! ## Signs, and any item -/

/-- Scans a line break, a symbol or an invalid character. -/
def scanSign (start : Location) : Act Session Token := do
  let c ← advance
  if c = '\n' then return Item.newline.token start
  else
    match Compound.ofChar? c with
    | none => return (Item.ofSign c (Symbol.ofChars? [c])).token start
    | some op =>
      let next ← peek 0
      if next = '=' ∨ next = op.first ∧ op.doubled.isSome then
        let _ ← advance
        return (Item.ofSign c (op.resolve (some next))).token start
      else return (Item.ofSign c op.single).token start

theorem scanSign_nil (h : s.remaining = []) (start : Location) :
    scanSign start s = (s, .error .outsideText) :=
  bind_of_error (advance_nil h) _

/-- A sign is scanned as it is read. -/
theorem scanSign_cons (h : s.remaining = c :: text) (start : Location) :
    scanSign start s = s.takeFrom start (Item.readSign c text).1 := by
  have hbehind := Session.remaining_skip_cons h
  rw [Session.takeFrom_of_closed (Item.isOpen_readSign c text), scanSign,
    bind_of_ok (advance_cons h)]
  by_cases hc : c = '\n'
  · subst hc
    rfl
  rw [if_neg hc]
  cases hop : Compound.ofChar? c with
  | none =>
    have hread : Symbol.read? (c :: text) = Symbol.ofChars? [c] := by
      simp only [Symbol.read?, hop]
    rw [Item.raw_readSign_single hop, Item.readSign_eq_ofSign hc, hread]
    rfl
  | some op =>
    have hread : Symbol.read? (c :: text) = op.resolve text.head? := by
      simp only [Symbol.read?, hop]
    have hfirst : op.first ≠ Session.endMark := by
      have hall : ∀ op ∈ Compound.all, op.first ≠ Session.endMark := by decide
      exact hall op (List.mem_of_find?_eq_some hop)
    rw [Item.raw_readSign_compound hop, Item.readSign_eq_ofSign hc, hread]
    show (peek 0 >>= _) (s.skip [c]) = _
    rw [bind_of_ok (peek_zero _), hbehind]
    simp only [Session.getD_endMark_eq_iff hfirst,
      Session.getD_endMark_eq_iff (show '=' ≠ Session.endMark by decide)]
    split
    · rename_i hnext
      cases text with
      | nil => simp at hnext
      | cons d rest =>
        rw [bind_of_ok (advance_cons hbehind), Session.skip_skip]
        rfl
    · rename_i hnext
      obtain ⟨hequal, hsame⟩ := not_or.mp hnext
      rw [Compound.resolve, if_neg hequal, if_neg hsame]
      rfl

/-- Scans the item that a character opens. -/
def scanner (opening : Opening) (c : Char) (start : Location) : Act Session Token :=
  match opening with
  | .comment => scanRun (· != '\n') .comment start
  | .word => scanRun Text.isWordPart .word start
  | .number => scanNumber start
  | .string => scanLiteral [c] start
  | .sign => scanSign start

/-- Scans the item at the cursor, by its first character. -/
def scanItem : Act Session Token := do
  let s ← state
  let c ← current
  scanner (Opening.of c) c s.here

theorem scanRun_word (start : Location) (s : Session) :
    scanRun Text.isWordPart .word start s = s.takeFrom start (Item.readWord s.remaining).1 :=
  scanRun_eq (fun _ => rfl) (fun _ => rfl) start s

theorem scanRun_comment (start : Location) (s : Session) :
    scanRun (· != '\n') .comment start s = s.takeFrom start (Item.readComment s.remaining).1 :=
  scanRun_eq (fun _ => rfl) (fun _ => rfl) start s

theorem scanItem_nil (h : s.remaining = []) : scanItem s = (s, .error .outsideText) := by
  rw [scanItem, state_bind, bind_of_error (current_nil h)]

/-- The item at the cursor is scanned as it is read, and its scanner does not fail. -/
theorem scanItem_cons (h : s.remaining = c :: text) :
    scanItem s = s.takeFrom s.here ((Opening.of c).read c text).1 := by
  rw [scanItem, state_bind, bind_of_ok (current_cons h)]
  rcases Opening.of_spec c with ⟨hof, -⟩ | ⟨hof, -⟩ | ⟨hof, hdigit⟩ | ⟨hof, -⟩ | hof
  · rw [hof, scanner, scanRun_comment, h]
    rfl
  · rw [hof, scanner, scanRun_word, h]
    rfl
  · -- a number that begins with a digit is not a point alone
    have hshape := Item.shape_readNumber hdigit text
    have hpoint : (Item.readNumber (c :: text)).1 ≠ .float [] [] := by
      intro hpoint
      rw [hpoint] at hshape
      exact hshape.1.1 rfl
    rw [hof, scanner, scanNumber_eq, h, if_neg hpoint]
    rfl
  · rw [hof]
    exact scanLiteral_cons h [c] s.here
  · rw [hof]
    exact scanSign_cons h s.here

end Act
end LessonLexer
