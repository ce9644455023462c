import LessonLexer.Proofs.PositionLaw

/-!
# Texts in other places

What is found in a text does not depend on the position where the text begins: the items are the
same, and each stands where the text in front of it ends (`exists_found`).  So the tokens and the
diagnostics of a text from one position on are those from another, moved (`tokensFrom_move`,
`errorsFrom_move`).

How they are moved is said by a function on locations that carries the places of a text from one
position to the other (`Carries`).  It need not be the same function for all texts.  There are two
of them here.

* `Location.relativeTo`: the location in a text of its own that begins at the origin.  Offsets and
  lines are counted from the origin, and columns only on the line of the origin.
* `Location.below`: the location after so many characters that make up so many lines.  No column
  changes.
-/

namespace LessonLexer

/-! ## From any position on -/

/-- The position after some text, by counting from a position on.  The first line of the text goes
on where the position stands. -/
theorem Position.after_eq (p : Position) (text : List Char) :
    p.after text = ⟨p.offset + text.length, p.line + text.count '\n',
      if text.count '\n' = 0 then p.column + text.length else 1 + (lastLine text).length⟩ := by
  induction text using List.reverseRecOn with
  | nil => rfl
  | append_singleton text c ih =>
    rw [Position.after_append, ih, Position.after_cons, Position.after_nil, List.length_append,
      List.count_append]
    by_cases hc : c = '\n'
    · subst hc
      rw [lastLine_newline]
      rfl
    · have hcount : [c].count '\n' = 0 :=
        List.count_eq_zero_of_not_mem fun hmem => hc (List.mem_singleton.mp hmem).symm
      rw [lastLine_append hc, hcount, Nat.add_zero, Position.next, if_neg hc, List.length_append]
      split <;> rfl

/-- Behind a text without line breaks, and only there, the line is the same. -/
theorem Position.line_after_eq_iff (p : Position) (text : List Char) (file : String) :
    ((p.after text).within file).line = (p.within file).line ↔ text.count '\n' = 0 := by
  rw [Position.after_eq]
  show ((p.line + text.count '\n' : Nat) : Int) = p.line ↔ _
  omega

/-- The items of a text are found behind the same beginnings of it, from wherever it is scanned. -/
theorem exists_found (text : List Char) : ∃ found : List (List Char × Item), ∀ position : Position,
    (scan position text).items = found.map fun entry => ⟨position.after entry.1, entry.2⟩ := by
  induction Position.start, text using scanInduction with
  | blank _ text hblank => exact ⟨[], fun position => by rw [scan_blank _ hblank]; rfl⟩
  | lead _ blanks item rest hblanks hlead ih =>
    obtain ⟨found, hfound⟩ := ih
    refine ⟨(blanks, item) :: found.map fun entry => (blanks ++ (item.raw ++ entry.1), entry.2),
      fun position => ?_⟩
    rw [scan_lead _ hblanks hlead, Scan.prepend, hfound, List.map_cons, List.map_map]
    simp only [Function.comp_def, Position.after_append, List.singleton_append]

/-! ## Moving tokens and diagnostics -/

/-- A token in another place. -/
def Token.move (move : Location → Location) (token : Token) : Token :=
  { token with location := move token.location }

/-- A diagnostic in another place. -/
def Diagnostic.move (move : Location → Location) (diagnostic : Diagnostic) : Diagnostic :=
  { diagnostic with location := move diagnostic.location }

/-- The place after some text from one position on is carried to the place after it from the
other. -/
def Carries (file : String) (move : Location → Location) (p q : Position) : Prop :=
  ∀ front : List Char, move ((p.after front).within file) = (q.after front).within file

theorem Placed.token?_move {file : String} {move : Location → Location} {p q : Position}
    (h : move (p.within file) = q.within file) (item : Item) :
    Placed.token? file ⟨q, item⟩ = (Placed.token? file ⟨p, item⟩).map (Token.move move) := by
  cases item with
  | comment text => rfl
  | _ => exact congrArg (fun location => some (Item.token _ location)) h.symm

theorem Placed.diagnostic?_move {file : String} {move : Location → Location} {p q : Position}
    (h : move (p.within file) = q.within file) (item : Item) :
    Placed.diagnostic? file ⟨q, item⟩ =
      (Placed.diagnostic? file ⟨p, item⟩).map (Diagnostic.move move) := by
  rw [Placed.diagnostic?, Placed.diagnostic?, Option.map_map, ← h]
  congr 1
  funext fault
  cases fault <;> rfl

/-- What is given for every item of a text is moved, if it is moved for every item. -/
theorem filterMap_scan_move {α : Type} {given : Placed → Option α} {change : α → α}
    {p q : Position} (h : ∀ (front : List Char) (item : Item),
      given ⟨q.after front, item⟩ = (given ⟨p.after front, item⟩).map change) (text : List Char) :
    (scan q text).items.filterMap given = ((scan p text).items.filterMap given).map change := by
  obtain ⟨found, hfound⟩ := exists_found text
  rw [hfound, hfound, List.filterMap_map, List.filterMap_map, List.map_filterMap]
  exact List.filterMap_congr fun entry _ => h entry.1 entry.2

/-- Tokens are moved with their text. -/
theorem tokensFrom_move {file : String} {move : Location → Location} {p q : Position}
    (h : Carries file move p q) (text : List Char) :
    tokensFrom file q text = (tokensFrom file p text).map (Token.move move) := by
  rw [tokensFrom, tokensFrom, List.map_append,
    filterMap_scan_move (fun front item => Placed.token?_move (h front) item) text, ← h text]
  rfl

/-- Diagnostics are moved with their text. -/
theorem errorsFrom_move {file : String} {move : Location → Location} {p q : Position}
    (h : Carries file move p q) (text : List Char) :
    errorsFrom file q text = (errorsFrom file p text).map (Diagnostic.move move) :=
  filterMap_scan_move (fun front item => Placed.diagnostic?_move (h front) item) text

/-! ## Two ways to move -/

/-- The location in a text of its own that begins at the origin. -/
def Location.relativeTo (origin location : Location) : Location :=
  { location with
    offset := location.offset - origin.offset
    line := location.line - (origin.line - 1)
    column :=
      if location.line = origin.line then location.column - (origin.column - 1)
      else location.column }

theorem carries_relativeTo (file : String) (p : Position) :
    Carries file (Location.relativeTo (p.within file)) p .start := by
  intro front
  have hline := p.line_after_eq_iff front file
  by_cases hcount : front.count '\n' = 0
  · rw [Location.relativeTo, if_pos (hline.mpr hcount), Position.after_eq, Position.after_eq,
      if_pos hcount, if_pos hcount]
    simp only [Position.within, Position.start, Location.mk.injEq, true_and]
    omega
  · rw [Location.relativeTo, if_neg (mt hline.mp hcount), Position.after_eq, Position.after_eq,
      if_neg hcount, if_neg hcount]
    simp only [Position.within, Position.start, Location.mk.injEq, true_and]
    omega

/-- The location after so many characters that make up so many lines. -/
def Location.below (characters lines : Nat) (location : Location) : Location :=
  { location with
    offset := location.offset + characters
    line := location.line + lines }

theorem carries_below (file : String) (characters lines : Nat) :
    Carries file (Location.below characters lines) .start ⟨characters, 1 + lines, 1⟩ := by
  intro front
  rw [Position.after_eq, Position.after_eq, Position.start, Location.below]
  simp only [Position.within, Location.mk.injEq, true_and]
  omega

end LessonLexer
