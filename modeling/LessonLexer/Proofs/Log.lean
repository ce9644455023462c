import LessonLexer.Proofs.Recording

/-!
# The log of a pass

A pass reports an error by adding it to the list of errors and an event to the log.  It does so for
an open string literal as well as for an invalid character, and every item may bring a report.  So
the two lists are in step after every item (`Record.InStep`), and in the end the log consists of an
event for the beginning, one event for each error in the order of the errors, and an event for the
end.

The lines of the log come from patterns with places for the file name, for numbers and for the text
of an error, which is itself made from a pattern.  The texts that are put into the places may look
like places themselves.  `fillPlaces` and `fillFields` go through a pattern once and never look at
what they have put in, so the texts stand in the line as they are (`Event.toList_message`,
`Diagnostic.toList_line`).
-/

namespace LessonLexer

/-! ## Places in order -/

/-- Fills the places of a pattern with texts in their order.  A place is a percent sign and a letter
for the sort of text. -/
def fillPlaces : List Char → List (List Char) → List Char
  | [], _ => []
  | [c], _ => [c]
  | c :: d :: rest, texts =>
    if c = '%' then texts.headD [] ++ fillPlaces rest texts.tail
    else c :: fillPlaces (d :: rest) texts

/-- What is not a place stays. -/
theorem fillPlaces_append {front : List Char} (h : '%' ∉ front) (back : List Char)
    (texts : List (List Char)) :
    fillPlaces (front ++ back) texts = front ++ fillPlaces back texts := by
  induction front with
  | nil => rfl
  | cons c front ih =>
    obtain ⟨hc, hfront⟩ := not_or.mp (mt List.mem_cons.mpr h)
    have hstay :
        fillPlaces (c :: (front ++ back)) texts = c :: fillPlaces (front ++ back) texts := by
      cases front ++ back with
      | nil => rfl
      | cons d rest => rw [fillPlaces, if_neg (Ne.symm hc)]
    rw [List.cons_append, hstay, ih hfront, List.cons_append]

theorem fillPlaces_of_not_mem {front : List Char} (h : '%' ∉ front) (texts : List (List Char)) :
    fillPlaces front texts = front := by
  have happend := fillPlaces_append h [] texts
  rwa [List.append_nil, fillPlaces, List.append_nil] at happend

/-- The first place is filled with the first text, and the others are left for the rest. -/
theorem fillPlaces_place {front : List Char} (h : '%' ∉ front) (sort : Char)
    (back text : List Char) (texts : List (List Char)) :
    fillPlaces (front ++ '%' :: sort :: back) (text :: texts) =
      front ++ (text ++ fillPlaces back texts) := by
  rw [fillPlaces_append h, fillPlaces, if_pos rfl]
  rfl

/-- The pattern of the line of an event. -/
def Event.pattern : Event → String
  | .began _ _ => "Tokenizing %s (%d characters)"
  | .reported _ _ => "%s: %s"
  | .ended _ _ _ => "Tokenized %s: %d tokens, %d errors"

/-- The texts for the places of the pattern. -/
def Event.texts : Event → List String
  | .began file characters => [file, characters.repr]
  | .reported file diagnostic => [file, diagnostic.line]
  | .ended file tokens errors => [file, tokens.repr, errors.repr]

/-- What an event has to tell is its pattern with the places filled. -/
theorem Event.toList_message (event : Event) :
    event.message.toList = fillPlaces event.pattern.toList (event.texts.map String.toList) := by
  cases event with
  | began file characters =>
    have hpattern : "Tokenizing %s (%d characters)".toList = "Tokenizing ".toList ++
        '%' :: 's' :: (" (".toList ++ '%' :: 'd' :: " characters)".toList) := by
      decide
    rw [pattern, hpattern, texts, List.map_cons, List.map_cons, fillPlaces_place (by decide),
      fillPlaces_place (by decide), fillPlaces_of_not_mem (by decide)]
    show ("Tokenizing " ++ file ++ " (" ++ characters.repr ++ " characters)").toList = _
    simp only [String.toList_append, List.append_assoc]
  | reported file diagnostic =>
    have hpattern : "%s: %s".toList = [] ++ '%' :: 's' :: (": ".toList ++ ['%', 's']) := by
      decide
    rw [pattern, hpattern, texts, List.map_cons, List.map_cons, fillPlaces_place (by decide),
      fillPlaces_place (by decide), fillPlaces_of_not_mem (by decide)]
    show (file ++ ": " ++ diagnostic.line).toList = _
    simp only [String.toList_append, List.append_assoc, List.nil_append, List.append_nil]
  | ended file tokens errors =>
    have hpattern : "Tokenized %s: %d tokens, %d errors".toList = "Tokenized ".toList ++
        '%' :: 's' :: (": ".toList ++ '%' :: 'd' :: (" tokens, ".toList ++
          '%' :: 'd' :: " errors".toList)) := by
      decide
    rw [pattern, hpattern, texts, List.map_cons, List.map_cons, List.map_cons,
      fillPlaces_place (by decide), fillPlaces_place (by decide), fillPlaces_place (by decide),
      fillPlaces_of_not_mem (by decide)]
    show ("Tokenized " ++ file ++ ": " ++ tokens.repr ++ " tokens, " ++ errors.repr ++
      " errors").toList = _
    simp only [String.toList_append, List.append_assoc]

/-- A file name that looks like a place. -/
example :
    fillPlaces "%s: %s".toList ["100%s".toList, "{line}".toList] = "100%s: {line}".toList := by
  decide

/-! ## Places by name -/

/-- Fills the places of a pattern, which are names in braces, with the texts of the names.  What has
been read of a name is carried along. -/
def fillFields (texts : String → String) : Option (List Char) → List Char → List Char
  | _, [] => []
  | none, c :: rest =>
    if c = '\x7b' then fillFields texts (some []) rest else c :: fillFields texts none rest
  | some name, c :: rest =>
    if c = '\x7d' then (texts (String.ofList name)).toList ++ fillFields texts none rest
    else fillFields texts (some (name ++ [c])) rest

/-- What is not a place stays. -/
theorem fillFields_append (texts : String → String) {front : List Char} (h : '\x7b' ∉ front)
    (back : List Char) :
    fillFields texts none (front ++ back) = front ++ fillFields texts none back := by
  induction front with
  | nil => rfl
  | cons c front ih =>
    obtain ⟨hc, hfront⟩ := not_or.mp (mt List.mem_cons.mpr h)
    rw [List.cons_append, fillFields, if_neg (Ne.symm hc), ih hfront, List.cons_append]

/-- A name is read up to the closing brace. -/
theorem fillFields_name (texts : String → String) {name : List Char} (h : '\x7d' ∉ name)
    (before back : List Char) :
    fillFields texts (some before) (name ++ '\x7d' :: back) =
      (texts (String.ofList (before ++ name))).toList ++ fillFields texts none back := by
  induction name generalizing before with
  | nil => rw [List.nil_append, fillFields, if_pos rfl, List.append_nil]
  | cons c name ih =>
    obtain ⟨hc, hname⟩ := not_or.mp (mt List.mem_cons.mpr h)
    rw [List.cons_append, fillFields, if_neg (Ne.symm hc), ih hname, List.append_assoc,
      List.singleton_append]

/-- The first place is filled with the text of its name. -/
theorem fillFields_place (texts : String → String) {front : List Char} (hfront : '\x7b' ∉ front)
    {name : String} (hname : '\x7d' ∉ name.toList) (back : List Char) :
    fillFields texts none (front ++ '\x7b' :: (name.toList ++ '\x7d' :: back)) =
      front ++ ((texts name).toList ++ fillFields texts none back) := by
  rw [fillFields_append texts hfront, fillFields, if_pos rfl, fillFields_name texts hname,
    List.nil_append, String.ofList_toList]

/-- The texts for the places of the pattern of a diagnostic. -/
def Diagnostic.field (d : Diagnostic) (name : String) : String :=
  if name = "line" then d.location.line.repr
  else if name = "column" then d.location.column.repr
  else if name = "message" then d.message
  else ""

theorem Diagnostic.field_line (d : Diagnostic) : d.field "line" = d.location.line.repr := if_pos rfl

theorem Diagnostic.field_column (d : Diagnostic) : d.field "column" = d.location.column.repr :=
  (if_neg (by decide)).trans (if_pos rfl)

theorem Diagnostic.field_message (d : Diagnostic) : d.field "message" = d.message :=
  (if_neg (by decide)).trans ((if_neg (by decide)).trans (if_pos rfl))

theorem Diagnostic.toList_pattern (line column message : String) :
    (pattern line column message).toList =
      "Erreur lexicale ligne ".toList ++ (line.toList ++ (", colonne ".toList ++
        (column.toList ++ (": ".toList ++ message.toList)))) := by
  unfold pattern
  simp only [String.toList_append, List.append_assoc]

/-- The form of one line is the pattern with the places filled. -/
theorem Diagnostic.toList_line (d : Diagnostic) :
    d.line.toList =
      fillFields d.field none (pattern "{line}" "{column}" "{message}").toList := by
  have hline : "{line}".toList = '\x7b' :: ("line".toList ++ ['\x7d']) := by decide
  have hcolumn : "{column}".toList = '\x7b' :: ("column".toList ++ ['\x7d']) := by decide
  have hmessage : "{message}".toList = '\x7b' :: ("message".toList ++ ['\x7d']) := by decide
  rw [toList_pattern, hline, hcolumn, hmessage]
  simp only [List.append_assoc, List.cons_append, List.nil_append]
  rw [fillFields_place _ (by decide) (by decide), fillFields_place _ (by decide) (by decide),
    fillFields_place _ (by decide) (by decide), field_line, field_column, field_message,
    fillFields, List.append_nil]
  exact toList_pattern _ _ _

/-! ## Reports and errors in step -/

/-- The log holds the event for the beginning, and then the report of every error so far. -/
structure Record.InStep (file : String) (opening : Event) (r : Record) : Prop where
  log_eq : r.log.toList = opening :: r.errors.toList.map (.reported file)

namespace Record.InStep

variable {file : String} {opening : Event} {r : Record}

theorem report (h : r.InStep file opening) (diagnostic : Diagnostic) :
    (r.report file diagnostic).InStep file opening where
  log_eq := by
    simp only [Record.report, Array.toList_push, h.log_eq, List.map_append, List.map_cons,
      List.map_nil, List.cons_append]

theorem emit (h : r.InStep file opening) (token : Token) : (r.emit token).InStep file opening :=
  ⟨h.log_eq⟩

/-- A faulty item is reported to both, and any other to none. -/
theorem check (h : r.InStep file opening) (placed : Placed) :
    (r.check file placed).InStep file opening := by
  unfold Record.check
  split
  · exact h.report _
  · exact h

/-- Every item leaves them in step. -/
theorem add (h : r.InStep file opening) (placed : Placed) :
    (r.add file placed).InStep file opening := by
  unfold Record.add
  split
  · exact h.check placed
  · exact (h.check placed).emit _

/-- And so do all items. -/
theorem foldl_add (items : List Placed) (h : r.InStep file opening) :
    (items.foldl (Record.add file) r).InStep file opening := by
  induction items generalizing r with
  | nil => exact h
  | cons placed items ih => exact ih (h.add placed)

end Record.InStep

/-- The events of a pass. -/
theorem pass_log (source file : String) :
    (pass source file).log =
      .began file source.length :: (pass source file).errors.map (.reported file) ++
        [.ended file (pass source file).tokens.length (pass source file).errors.length] := by
  have hopened : Record.InStep file (.began file source.length)
      { tokens := #[], errors := #[], log := #[.began file source.length] } := ⟨rfl⟩
  have hstep := (hopened.foldl_add (scan .start source.toList).items).emit
    (endToken ((scan .start source.toList).finish.within file))
  show (Array.push _ _).toList = _
  rw [Array.toList_push, hstep.log_eq]
  simp only [pass, Array.length_toList]

/-- **The log follows the pass.**  Its lines are one for the beginning, with the number of
characters; one for each error, in the order of the errors; and one for the end, with the numbers of
tokens and errors.  The file name and the message of an error stand in them as they are, whatever
they hold: that is also what comes out when they are put into the places of the patterns. -/
theorem pass_log_follows (source file : String) :
    (pass source file).log.map Event.line =
      (("Tokenizing " ++ file ++ " (" ++ source.length.repr ++ " characters)") ::
        ((pass source file).errors.map fun d => file ++ ": " ++ d.line) ++
        ["Tokenized " ++ file ++ ": " ++ (pass source file).tokens.length.repr ++ " tokens, " ++
          (pass source file).errors.length.repr ++ " errors"]).map
        ("DEBUG:minipy.lexer.lexer:" ++ ·) ∧
      (∀ event : Event, event.message.toList =
        fillPlaces event.pattern.toList (event.texts.map String.toList)) ∧
      ∀ d : Diagnostic, d.line.toList =
        fillFields d.field none (Diagnostic.pattern "{line}" "{column}" "{message}").toList := by
  refine ⟨?_, Event.toList_message, Diagnostic.toList_line⟩
  rw [pass_log]
  simp only [List.map_append, List.map_cons, List.map_map, List.map_nil]
  rfl

end LessonLexer
