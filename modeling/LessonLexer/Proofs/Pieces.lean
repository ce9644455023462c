import LessonLexer.Proofs.Seams

/-!
# The texts without errors

The strict form of a pass accepts a text if the text can be split into pieces: blanks, comments that
go on to the end of their line, and the other units of the grammar (`Splits`).  The pieces need not
be the items that a scan takes.  Where a scan takes the longest unit, another way of splitting may
stop in the middle of it, as in `a` and `1.5` for the items `a1`, `.` and `5`, or in `=` and `==`
for `==` and `=`.

## Why it makes no difference

What is left of a piece can be split again.  If a piece is neither a comment nor a string literal,
then without its first character it falls into pieces of one character each (`LexicalUnit.tail`).
So a text that can be split can be split from any later place on as well, unless a comment or a
string literal is passed on the way (`Splits.drop`); and those have only one end, so there the piece
and the item are the same (`Item.Leads.splits_rest`).

## Main names

* `Splits`: the texts that can be split.
* `splits_iff`: they are the texts without faulty items.
* `strictTokens_iff_splits`: they are what the strict form accepts, and up to its first error every
  text is one of them.
-/

namespace LessonLexer

/-- The texts that can be split into pieces: blanks, comments that end where their line ends, and
other units. -/
inductive Splits : List Char → Prop
  | nil : Splits []
  | blank {c : Char} {rest : List Char} (hblank : Text.isBlank c = true) (hrest : Splits rest) :
      Splits (c :: rest)
  | comment {line rest : List Char} (hline : '\n' ∉ line)
      (hends : rest = [] ∨ ∃ next, rest = '\n' :: next) (hrest : Splits rest) :
      Splits ('#' :: (line ++ rest))
  | unit {unit rest : List Char} {kind : Kind} (hunit : LexicalUnit unit kind)
      (hkind : kind ≠ .comment) (hrest : Splits rest) : Splits (unit ++ rest)

theorem stops_newline_iff {rest : List Char} :
    Stops (· != '\n') rest ↔ rest = [] ∨ ∃ next, rest = '\n' :: next := by
  cases rest with
  | nil => simp [stops_nil]
  | cons c rest => simp [stops_cons]

/-- What a text that can be split begins with. -/
theorem Splits.cons_inv {c : Char} {text : List Char} (h : Splits (c :: text)) :
    Text.isBlank c = true ∧ Splits text ∨
      (c = '#' ∧ ∃ line rest, text = line ++ rest ∧ '\n' ∉ line ∧ Stops (· != '\n') rest ∧
        Splits rest) ∨
      ∃ (unit rest : List Char) (kind : Kind), LexicalUnit (c :: unit) kind ∧ kind ≠ .comment ∧
        text = unit ++ rest ∧ Splits rest := by
  generalize hwhole : c :: text = whole at h
  cases h with
  | nil => cases hwhole
  | blank hblank hrest =>
    obtain ⟨rfl, rfl⟩ := List.cons.inj hwhole
    exact Or.inl ⟨hblank, hrest⟩
  | comment hline hends hrest =>
    obtain ⟨rfl, rfl⟩ := List.cons.inj hwhole
    exact Or.inr (Or.inl ⟨rfl, _, _, rfl, hline, stops_newline_iff.mpr hends, hrest⟩)
  | unit hunit hkind hrest =>
    obtain ⟨d, unit, rfl, -⟩ := hunit.exists_cons
    obtain ⟨rfl, rfl⟩ := List.cons.inj hwhole
    exact Or.inr (Or.inr ⟨unit, _, _, hunit, hkind, rfl, hrest⟩)

/-! ## Losing the first character -/

/-- A character that opens neither a comment nor a string literal. -/
def isLoose (c : Char) : Bool := c != '#' && !Item.isQuote c

theorem isLoose_of_blank {c : Char} (h : Text.isBlank c = true) : isLoose c = true := by
  simp only [Text.isBlank, Bool.or_eq_true, beq_iff_eq] at h
  rcases h with (rfl | rfl) | rfl <;> decide

theorem isLoose_of_wordPart {c : Char} (h : Text.isWordPart c = true) : isLoose c = true := by
  refine Bool.and_eq_true_iff.mpr ⟨bne_iff_ne.mpr ?_, ?_⟩
  · rintro rfl
    exact absurd h (by decide)
  · cases hquote : Item.isQuote c with
    | false => rfl
    | true =>
      rcases Bool.or_eq_true_iff.mp hquote with hdouble | hsingle
      · rw [eq_of_beq hdouble] at h
        exact absurd h (by decide)
      · rw [eq_of_beq hsingle] at h
        exact absurd h (by decide)

theorem isLoose_of_symbol {sign : Symbol} {c : Char} (h : c ∈ sign.chars) : isLoose c = true := by
  have hall : ∀ sign ∈ Symbol.all, sign.chars.all isLoose = true := by decide
  exact List.all_eq_true.mp (hall sign (Symbol.mem_all sign)) c h

/-- A character of a word is a piece of its own. -/
theorem Splits.wordPart {c : Char} {rest : List Char} (hc : Text.isWordPart c = true)
    (h : Splits rest) : Splits (c :: rest) := by
  by_cases hdigit : Text.isDigit c = true
  · have hunit : LexicalUnit [c] .integer :=
      LexicalUnit.integer ⟨List.cons_ne_nil _ _, by simpa using hdigit⟩
    exact Splits.unit hunit (by decide) h
  · have hstart : Text.isWordStart c = true := by
      simpa [Text.isWordPart, Text.isWordStart, hdigit] using hc
    have hunit := LexicalUnit.word hstart (List.forall_mem_nil _)
    exact Splits.unit hunit (Kind.ofWord_ne rfl _) h

/-- A point is a piece of its own. -/
theorem Splits.point {rest : List Char} (h : Splits rest) : Splits ('.' :: rest) :=
  Splits.unit (LexicalUnit.symbol .dot) (by decide) h

theorem Splits.wordParts {part rest : List Char} (hpart : ∀ c ∈ part, Text.isWordPart c = true)
    (h : Splits rest) : Splits (part ++ rest) := by
  induction part with
  | nil => exact h
  | cons c part ih =>
    obtain ⟨hc, hlater⟩ := List.forall_mem_cons.mp hpart
    exact Splits.wordPart hc (ih hlater)

/-- A symbol without its first character is nothing, or a symbol again. -/
theorem Symbol.tail_chars (sign : Symbol) :
    sign.chars.tail = [] ∨ ∃ single : Symbol, sign.chars.tail = single.chars := by
  have hall : ∀ sign ∈ all,
      sign.chars.tail = [] ∨ ∃ single ∈ all, sign.chars.tail = single.chars := by decide
  rcases hall sign (mem_all sign) with hnil | ⟨single, -, hsingle⟩
  · exact Or.inl hnil
  · exact Or.inr ⟨single, hsingle⟩

/-- A unit without its first character can be split, unless it is a comment or a string literal. -/
theorem LexicalUnit.tail {c : Char} {unit rest : List Char} {kind : Kind}
    (hunit : LexicalUnit (c :: unit) kind) (hcomment : kind.opening ≠ .comment)
    (hstring : kind.opening ≠ .string) (h : Splits rest) : Splits (unit ++ rest) := by
  cases hopening : kind.opening with
  | comment => exact absurd hopening hcomment
  | string => exact absurd hopening hstring
  | word =>
    exact Splits.wordParts (List.forall_mem_cons.mp (hunit.word_inv hopening).2).2 h
  | number =>
    rcases hunit.number_inv hopening with
      ⟨-, -, hdigits⟩ | ⟨-, whole, fraction, hfloat, hwhole, hfraction⟩
    · have hparts := fun d hd => Text.isWordPart_of_isDigit (hdigits d hd)
      exact Splits.wordParts (List.forall_mem_cons.mp hparts).2 h
    · obtain ⟨d, whole, rfl, -⟩ := hwhole.exists_cons
      rw [List.cons_append] at hfloat
      obtain ⟨rfl, rfl⟩ := List.cons.inj hfloat
      have hparts := fun d hd => Text.isWordPart_of_isDigit (hwhole.2 d hd)
      rw [List.append_assoc, List.cons_append]
      refine Splits.wordParts (List.forall_mem_cons.mp hparts).2 (Splits.point ?_)
      exact Splits.wordParts (fun d hd => Text.isWordPart_of_isDigit (hfraction d hd)) h
  | sign =>
    rcases hunit.sign_inv hopening with ⟨sign, -, hsign⟩ | ⟨-, hnewline⟩
    · have htail : unit = sign.chars.tail := by rw [← hsign]; rfl
      rcases sign.tail_chars with hnil | ⟨single, hsingle⟩
      · rw [htail, hnil]
        exact h
      · rw [htail, hsingle]
        exact Splits.unit (LexicalUnit.symbol single) (fun heq => by cases heq) h
    · obtain ⟨-, rfl⟩ := List.cons.inj hnewline
      exact h

/-- A text that can be split can be split without its first character. -/
theorem Splits.tail {c : Char} {text : List Char} (h : Splits (c :: text))
    (hc : isLoose c = true) : Splits text := by
  have hopening : Opening.of c ≠ .comment ∧ Opening.of c ≠ .string := by
    rw [isLoose, Bool.and_eq_true, bne_iff_ne, Bool.not_eq_true'] at hc
    rcases Opening.of_spec c with ⟨hof, rfl⟩ | ⟨hof, -⟩ | ⟨hof, -⟩ | ⟨hof, hquote⟩ | hof
    · exact absurd rfl hc.1
    · simp [hof]
    · simp [hof]
    · rw [hquote] at hc
      exact Bool.noConfusion hc.2
    · simp [hof]
  rcases h.cons_inv with ⟨-, hrest⟩ | ⟨rfl, -⟩ | ⟨unit, rest, kind, hunit, -, rfl, hrest⟩
  · exact hrest
  · exact absurd hc (by decide)
  · have hkind := hunit.opening_of_begins (List.prefix_append _ rest)
    rw [← hkind] at hopening
    exact hunit.tail hopening.1 hopening.2 hrest

/-- A text that can be split can be split from any later place on, if no comment or string literal
is passed on the way. -/
theorem Splits.drop {front rest : List Char} (h : Splits (front ++ rest))
    (hfront : ∀ c ∈ front, isLoose c = true) : Splits rest := by
  induction front with
  | nil => exact h
  | cons c front ih =>
    obtain ⟨hc, hlater⟩ := List.forall_mem_cons.mp hfront
    exact ih (h.tail hc) hlater

/-! ## Pieces and items -/

/-- A text that can be split begins with a blank or with a unit. -/
theorem Splits.blank_or_unit {c : Char} {text : List Char} (h : Splits (c :: text)) :
    Text.isBlank c = true ∨ ¬ NoUnit (c :: text) := by
  rcases h.cons_inv with ⟨hblank, -⟩ | ⟨rfl, -⟩ | ⟨unit, rest, kind, hunit, -, rfl, -⟩
  · exact Or.inl hblank
  · have hunit : LexicalUnit ['#'] .comment := LexicalUnit.comment (by simp)
    exact Or.inr fun hnone => hnone _ _ hunit (List.prefix_append _ text)
  · exact Or.inr fun hnone => hnone _ _ hunit (List.prefix_append _ rest)

namespace Item

/-- The characters of an item that is neither a comment nor a string literal. -/
theorem Shape.forall_isLoose {item : Item} {rest : List Char} (h : item.Shape rest)
    (hfault : item.fault? = none) (hcomment : item.kind ≠ .comment)
    (hstring : item.kind ≠ .string) : ∀ c ∈ item.raw, isLoose c = true := by
  intro c hc
  rcases h.of_mem_raw hcomment hstring hc with hpart | ⟨sign, hsign⟩ | rfl | rfl
  · exact isLoose_of_wordPart hpart
  · exact isLoose_of_symbol hsign
  · rw [List.mem_singleton.mp hc]
    decide
  · cases hfault

namespace Leads

variable {item : Item} {rest : List Char}

/-- A piece that begins with the sign of a comment is the comment that is read. -/
theorem splits_rest_comment {text : List Char} (hlead : (Item.comment text).Leads rest)
    (h : Splits ((Item.comment text).raw ++ rest)) : Splits rest := by
  obtain ⟨⟨line, rfl, hline⟩, hstop⟩ := hlead.shape
  rw [raw, List.cons_append] at h
  rcases h.cons_inv with ⟨hblank, -⟩ | ⟨-, line', rest', hsplit, hline', hstop', hrest⟩ |
    ⟨unit, rest', kind, hunit, hkind, -, -⟩
  · exact absurd hblank (by decide)
  · have hinside {run : List Char} (hrun : '\n' ∉ run) : ∀ c ∈ run, (c != '\n') = true :=
      fun c hc => bne_iff_ne.mpr fun heq => hrun (heq ▸ hc)
    obtain ⟨-, rfl⟩ := run_unique (hinside hline) hstop (hinside hline') hstop' hsplit
    exact hrest
  · have hopening := hunit.opening_of_begins (List.prefix_append _ rest')
    exact absurd (hunit.comment_inv (hopening.trans (by decide))).1 hkind

/-- A piece that begins with a quote is the string literal that is read. -/
theorem splits_rest_string {quote : List Char} {opening : Char} {body : List Fragment}
    (hlead : (Item.string quote opening body true).Leads rest)
    (h : Splits ((Item.string quote opening body true).raw ++ rest)) : Splits rest := by
  obtain ⟨hquote, rfl, fragments, hinside, ⟨-, rfl⟩ | ⟨hopen, -⟩⟩ := hlead.shape
  · rw [raw, List.cons_append, if_pos rfl, List.append_assoc, List.singleton_append] at h
    rcases h.cons_inv with ⟨hblank, -⟩ | ⟨rfl, -⟩ | ⟨unit, rest', kind, hunit, -, hsplit, hrest⟩
    · have hsolid := stops_cons.mp hlead.solid
      exact Bool.noConfusion (hblank.symm.trans hsolid)
    · exact absurd hquote (by decide)
    · have hopening := hunit.opening_of_begins (List.prefix_append _ rest')
      obtain ⟨-, quote, fragments', hliteral, hinside'⟩ :=
        hunit.string_inv (hopening.trans (Opening.of_quote hquote))
      obtain ⟨rfl, rfl⟩ := List.cons.inj hliteral
      rw [List.append_assoc, List.singleton_append] at hsplit
      obtain ⟨-, rfl⟩ :=
        StringBody.closed_unique (ne_backslash_of_isQuote hquote) hinside hinside' hsplit
      exact hrest
  · cases hopen

/-- If a text that begins with an item can be split, the item is not faulty, and what follows it can
be split. -/
theorem splits_rest (hlead : item.Leads rest) (h : Splits (item.raw ++ rest)) :
    item.fault? = none ∧ Splits rest := by
  have hfault : item.fault? = none := by
    cases hfault : item.fault? with
    | none => rfl
    | some fault =>
      have hnone := hlead.shape.noUnit hfault
      have hsolid := hlead.solid
      cases htext : item.raw ++ rest with
      | nil => exact absurd (List.append_eq_nil_iff.mp htext).1 hlead.raw_ne_nil
      | cons c text =>
        rw [htext] at h hnone hsolid
        rcases h.blank_or_unit with hblank | hunit
        · exact Bool.noConfusion (hblank.symm.trans (stops_cons.mp hsolid))
        · exact absurd hnone hunit
  refine ⟨hfault, ?_⟩
  have hloose := hlead.shape.forall_isLoose hfault
  cases item with
  | comment text => exact hlead.splits_rest_comment h
  | string quote opening body closed =>
    cases closed with
    | true => exact hlead.splits_rest_string h
    | false => cases hfault
  | word text => exact h.drop (hloose (Kind.ofWord_ne rfl _) (Kind.ofWord_ne rfl _))
  | _ => exact h.drop (hloose (fun heq => by cases heq) (fun heq => by cases heq))

/-- An item that is not faulty, with the blanks before it, is split off. -/
theorem splits {blanks : List Char} (hblanks : IsBlankText blanks) (hlead : item.Leads rest)
    (hfault : item.fault? = none) (hrest : Splits rest) :
    Splits (blanks ++ (item.raw ++ rest)) := by
  induction blanks with
  | nil =>
    rw [List.nil_append]
    by_cases hcomment : ∃ text, item = .comment text
    · obtain ⟨text, rfl⟩ := hcomment
      obtain ⟨⟨line, rfl, hline⟩, hstop⟩ := hlead.shape
      exact Splits.comment hline (stops_newline_iff.mp hstop) hrest
    · have hitem : ∀ text, item ≠ .comment text := fun text h => hcomment ⟨text, h⟩
      exact Splits.unit (hlead.shape.isUnit hfault) (kind_ne_comment hitem) hrest
  | cons c blanks ih =>
    obtain ⟨hc, hlater⟩ := List.forall_mem_cons.mp hblanks
    exact Splits.blank hc (ih hlater)

end Leads
end Item

/-- The texts that can be split are those without faulty items. -/
theorem splits_iff (position : Position) (text : List Char) :
    Splits text ↔ ∀ placed ∈ (scan position text).items, placed.item.fault? = none := by
  induction position, text using scanInduction with
  | blank position text hblank =>
    rw [scan_blank _ hblank]
    refine iff_of_true ?_ (by simp)
    induction text with
    | nil => exact Splits.nil
    | cons c text ih =>
      obtain ⟨hc, hlater⟩ := List.forall_mem_cons.mp hblank
      exact Splits.blank hc (ih hlater)
  | lead position blanks item rest hblanks hlead ih =>
    rw [scan_lead _ hblanks hlead, Scan.prepend, List.singleton_append, List.forall_mem_cons, ← ih]
    constructor
    · intro h
      exact hlead.splits_rest (h.drop fun c hc => isLoose_of_blank (hblanks c hc))
    · rintro ⟨hfault, hrest⟩
      exact hlead.splits hblanks hfault hrest

/-! ## The strict form -/

theorem Placed.diagnostic?_eq_none_iff {file : String} {placed : Placed} :
    placed.diagnostic? file = none ↔ placed.item.fault? = none :=
  Option.map_eq_none_iff

/-- A text without diagnostics is one that can be split. -/
theorem errorsFrom_eq_nil_iff (file : String) (position : Position) (text : List Char) :
    errorsFrom file position text = [] ↔ Splits text := by
  rw [errorsFrom, List.filterMap_eq_nil_iff, splits_iff position]
  simp only [Placed.diagnostic?_eq_none_iff]

/-- The strict form gives the tokens of a text without diagnostics. -/
theorem strictTokens_of_splits {source : String} (h : Splits source.toList) (file : String) :
    strictTokens source file = .ok (pass source file).tokens := by
  rw [strictTokens, pass_errors, (errorsFrom_eq_nil_iff file .start source.toList).mpr h]

/-- The strict form gives the first diagnostic of any other text. -/
theorem strictTokens_of_not_splits {source : String} (h : ¬ Splits source.toList) (file : String) :
    ∃ first rest, (pass source file).errors = first :: rest ∧
      strictTokens source file = .error first := by
  cases herrors : (pass source file).errors with
  | nil =>
    rw [pass_errors, errorsFrom_eq_nil_iff] at herrors
    exact absurd herrors h
  | cons first rest => exact ⟨first, rest, rfl, by rw [strictTokens, herrors]⟩

/-- Up to its first diagnostic a text can be split. -/
theorem splits_take_of_errors {source file : String} {first : Diagnostic} {rest : List Diagnostic}
    (h : (pass source file).errors = first :: rest) :
    first.location.file = file ∧ Splits (source.toList.take first.location.offset.toNat) := by
  rw [pass_errors] at h
  obtain ⟨before, placed, after, hitems, hbefore, hfirst, -⟩ := List.filterMap_eq_cons_iff.mp h
  obtain ⟨front, back, hsource, hcut⟩ := exists_cut .start source.toList _ _ _ hitems
  rw [Placed.location_of_diagnostic? hfirst, hcut.position_eq, Position.start_after]
  refine ⟨rfl, ?_⟩
  show Splits (source.toList.take front.length)
  rw [hsource, List.take_left, splits_iff .start, hcut.items_front]
  exact fun other hother => Placed.diagnostic?_eq_none_iff.mp (hbefore other hother)

/-- **The strict form accepts exactly the texts that can be split.**  For those it gives the tokens
of the pass.  For any other text it gives the diagnostic of the pass that comes first in the text,
about the file at hand, and the text up to there is accepted. -/
theorem strictTokens_iff_splits (source file : String) :
    ((∃ tokens, strictTokens source file = .ok tokens) ↔ Splits source.toList) ∧
    (∀ tokens, strictTokens source file = .ok tokens → tokens = (pass source file).tokens) ∧
    ∀ first, strictTokens source file = .error first →
      first ∈ (pass source file).errors ∧
      (∀ other ∈ (pass source file).errors, other ≠ first →
        first.location.offset < other.location.offset) ∧
      first.location.file = file ∧
      ∃ tokens, strictTokens
        (String.ofList (source.toList.take first.location.offset.toNat)) file = .ok tokens := by
  by_cases hsplits : Splits source.toList
  · have hstrict := strictTokens_of_splits hsplits file
    refine ⟨iff_of_true ⟨_, hstrict⟩ hsplits, fun tokens htokens => ?_, fun first hfirst => ?_⟩
    · exact (Except.ok.inj (hstrict.symm.trans htokens)).symm
    · cases hstrict.symm.trans hfirst
  · obtain ⟨first, rest, herrors, hstrict⟩ := strictTokens_of_not_splits hsplits file
    refine ⟨iff_of_false ?_ hsplits, fun tokens htokens => ?_, fun other hother => ?_⟩
    · rintro ⟨tokens, htokens⟩
      cases hstrict.symm.trans htokens
    · cases hstrict.symm.trans htokens
    · obtain rfl := Except.error.inj (hstrict.symm.trans hother)
      obtain ⟨hfile, htake⟩ := splits_take_of_errors herrors
      have hordered := pairwise_offset_errorsFrom file .start source.toList
      rw [← pass_errors, herrors] at hordered
      rw [herrors]
      refine ⟨List.mem_cons_self, fun other hother hne => ?_, hfile, _,
        strictTokens_of_splits (by rwa [String.toList_ofList]) file⟩
      rcases List.mem_cons.mp hother with rfl | hlater
      · exact absurd rfl hne
      · exact (List.pairwise_cons.mp hordered).1 other hlater

end LessonLexer
