import LessonLexer.Proofs.Cutting
import LessonLexer.Proofs.Gaps
import LessonLexer.Proofs.Tiling

/-!
# Layout

More blanks may be put before any token of a source, and a comment as well if the token is a line
break or the one for the end.  The tokens remain what they are, and so do the diagnostics; only
their places change, and their columns only on the line of the insertion.

## Where the insertion goes

The place of a token is a seam, and the inserted text joins the part in front of it
(`Seam.insert`).  What becomes of it there depends on the item that the part ends with.

* Behind blanks, and behind an item with more text to follow, nothing changes for the items there.
* An item at the very end has stopped because of the token, and now has the insertion behind it.
  All items stop there as well (`Item.Leads.before_gap`), but for two.
* A comment takes the insertion in.  It was there to the end of its line and still is.
* A string literal that is not closed would take it in, too.  But the seam behind it is the one for
  the end of the text, and there such a literal is ruled out.

In all cases the items that give tokens or diagnostics are the same at the same positions.  What is
behind the seam moves as a whole (`Location.pushed`).
-/

namespace LessonLexer

/-! ## What may be inserted -/

/-- The text may be inserted at a seam in front of the given text: it is made of blanks, with a
comment behind them if a line ends there. -/
inductive IsLayout (back : List Char) : List Char → Prop
  | blanks {text : List Char} (htext : IsBlankText text) : IsLayout back text
  | comment {blanks line : List Char} (hblanks : IsBlankText blanks) (hline : '\n' ∉ line)
      (hstop : Stops (· != '\n') back) : IsLayout back (blanks ++ '#' :: line)

/-- What may stand before a token may be inserted before it. -/
theorem IsGap.isLayout {token : Token} {layout back : List Char} (h : IsGap token.kind layout)
    (hbegins : token.Begins back) : IsLayout back layout := by
  cases h with
  | blanks htext => exact IsLayout.blanks htext
  | comment hblanks hline hkind =>
    refine IsLayout.comment hblanks hline ?_
    cases hbegins with
    | finish => exact stops_nil _
    | @item item rest hlead hitem =>
      rcases hkind with hnewline | heof
      · obtain rfl := Item.eq_newline_of_kind (hitem.symm.trans hnewline)
        exact stops_cons.mpr (by decide)
      · exact absurd (hitem.symm.trans heof) item.kind_ne_eof

theorem IsBlankText.not_newline_mem {text : List Char} (h : IsBlankText text) : '\n' ∉ text := by
  intro hmem
  exact absurd (h '\n' hmem) (by decide)

theorem IsLayout.not_newline_mem {back layout : List Char} (h : IsLayout back layout) :
    '\n' ∉ layout := by
  cases h with
  | blanks htext => exact htext.not_newline_mem
  | comment hblanks hline =>
    intro hmem
    rcases List.mem_append.mp hmem with hfront | hcomment
    · exact hblanks.not_newline_mem hfront
    · rcases List.mem_cons.mp hcomment with hsign | hback
      · exact absurd hsign (by decide)
      · exact hline hback

theorem IsBlankText.beginsGap {text : List Char} (h : IsBlankText text) (htext : text ≠ [])
    (rest : List Char) : BeginsGap (text ++ rest) := by
  cases text with
  | nil => exact absurd rfl htext
  | cons c text => exact beginsGap_cons.mpr (mem_gapSigns_of_isBlank (h c List.mem_cons_self))

/-- If there is something to insert, a gap begins with it. -/
theorem IsLayout.beginsGap {back layout : List Char} (h : IsLayout back layout)
    (hlayout : layout ≠ []) : BeginsGap (layout ++ back) := by
  cases h with
  | blanks htext => exact htext.beginsGap hlayout back
  | @comment blanks line hblanks =>
    rw [List.append_assoc]
    by_cases hnil : blanks = []
    · rw [hnil]
      exact beginsGap_cons.mpr (by decide)
    · exact hblanks.beginsGap hnil _

/-! ## The items in front of the seam -/

/-- A comment up to the end of its line is read as such. -/
theorem leads_comment {line rest : List Char} (hline : '\n' ∉ line)
    (hstop : Stops (· != '\n') rest) : (Item.comment ('#' :: line)).Leads rest where
  next := Item.next?_of_shape ⟨⟨line, rfl, hline⟩, hstop⟩
  solid := stops_cons.mpr (by decide)

/-- A comment behind blanks goes up to a seam. -/
theorem seam_comment {blanks line back : List Char} (hblanks : IsBlankText blanks)
    (hline : '\n' ∉ line) (hstop : Stops (· != '\n') back) :
    Seam (blanks ++ '#' :: line) back := by
  have hseam := @Seam.lead blanks [] back _ hblanks (leads_comment hline hstop)
    (Seam.blank isBlankText_nil)
  rwa [List.append_nil] at hseam

/-- What comments do not give is not found in blanks with a comment. -/
theorem filterMap_scan_comment {α : Type} {given : Placed → Option α}
    (hgiven : ∀ position text, given ⟨position, .comment text⟩ = none) (position : Position)
    {blanks line : List Char} (hblanks : IsBlankText blanks) (hline : '\n' ∉ line) :
    (scan position (blanks ++ '#' :: line)).items.filterMap given = [] := by
  have hscan := scan_lead position hblanks (leads_comment hline (stops_nil _))
  rw [List.append_nil] at hscan
  show (scan position (blanks ++ (Item.comment ('#' :: line)).raw)).items.filterMap given = []
  rw [hscan, filterMap_prepend, hgiven, scan_blank _ isBlankText_nil]
  rfl

/-- An item in front of the seam is still read there with the insertion behind it, unless it is a
comment that the insertion follows at once. -/
theorem Item.Leads.insert {item : Item} {rest back layout : List Char}
    (h : item.Leads (rest ++ back)) (hlayout : IsLayout back layout) (hopen : item.isOpen = false)
    (hcomment : rest = [] → ∀ text, item ≠ .comment text) :
    item.Leads ((rest ++ layout) ++ back) := by
  by_cases hrest : rest = []
  · subst hrest
    by_cases hnil : layout = []
    · rwa [hnil]
    · exact h.before_gap (hcomment rfl) hopen (hlayout.beginsGap hnil)
  · refine h.congr_head ?_
    rw [List.append_assoc, List.head?_append_of_ne_nil _ hrest, List.head?_append_of_ne_nil _ hrest]

/-- **Text inserted at a seam joins the first part.**  The seam moves behind it, and what the items
of the first part give stays the same, if comments give nothing. -/
theorem Seam.insert {front back layout : List Char} (h : Seam front back)
    (hlayout : IsLayout back layout) : ∀ position : Position,
      (back = [] → ∀ placed ∈ (scan position front).items, placed.item.isOpen = false) →
      Seam (front ++ layout) back ∧
        ∀ {α : Type} (given : Placed → Option α),
          (∀ position text, given ⟨position, .comment text⟩ = none) →
          (scan position (front ++ layout)).items.filterMap given =
            (scan position front).items.filterMap given := by
  induction h with
  | @blank front back hfront =>
    intro position _
    cases hlayout with
    | blanks htext =>
      refine ⟨Seam.blank (hfront.append htext), fun given _ => ?_⟩
      rw [scan_blank _ (hfront.append htext), scan_blank _ hfront]
    | comment hblanks hline hstop =>
      rw [← List.append_assoc]
      refine ⟨seam_comment (hfront.append hblanks) hline hstop, fun given hgiven => ?_⟩
      rw [filterMap_scan_comment hgiven position (hfront.append hblanks) hline,
        scan_blank _ hfront]
      rfl
  | @lead blanks rest back item hblanks hlead hrest ih =>
    intro position hclosed
    rw [scan_lead _ hblanks hlead.of_append] at hclosed
    obtain ⟨hseam, hitems⟩ := ih hlayout _ fun hback =>
      (List.forall_mem_cons.mp (hclosed hback)).2
    by_cases hends : rest = [] ∧ ∃ text, item = .comment text
    · -- the comment takes the insertion in
      obtain ⟨rfl, text, rfl⟩ := hends
      obtain ⟨⟨line, rfl, hline⟩, hstop⟩ := hlead.shape
      have hline' : '\n' ∉ line ++ layout := by
        rw [List.mem_append, not_or]
        exact ⟨hline, hlayout.not_newline_mem⟩
      have hsplit : (blanks ++ ((Item.comment ('#' :: line)).raw ++ [])) ++ layout =
          blanks ++ '#' :: (line ++ layout) := by
        simp [Item.raw]
      rw [hsplit]
      refine ⟨seam_comment hblanks hline' hstop, fun given hgiven => ?_⟩
      rw [filterMap_scan_comment hgiven position hblanks hline', List.append_nil]
      exact (filterMap_scan_comment hgiven position hblanks hline).symm
    · have hopen : item.isOpen = false := by
        refine Bool.eq_false_iff.mpr fun hopen => ?_
        have hback := (List.append_eq_nil_iff.mp (hlead.shape.rest_eq_nil hopen)).2
        have hfirst := (List.forall_mem_cons.mp (hclosed hback)).1
        exact Bool.noConfusion (hopen.symm.trans hfirst)
      have hlead' : item.Leads ((rest ++ layout) ++ back) := by
        refine hlead.insert hlayout hopen fun hnil text hitem => ?_
        exact hends ⟨hnil, text, hitem⟩
      rw [List.append_assoc, List.append_assoc]
      refine ⟨Seam.lead hblanks hlead' hseam, fun given hgiven => ?_⟩
      rw [scan_lead _ hblanks hlead'.of_append, scan_lead _ hblanks hlead.of_append,
        filterMap_prepend, filterMap_prepend, hitems given hgiven]

/-! ## What is behind the seam -/

/-- The location behind an insertion of the given width at the origin, if the insertion makes up no
line: columns change on the line of the origin only. -/
def Location.pushed (origin : Location) (width : Nat) (location : Location) : Location :=
  { location with
    offset := location.offset + width
    column :=
      if location.line = origin.line then location.column + width else location.column }

/-- A location in a text with such an insertion: what is before the origin stays. -/
def Location.pushedFrom (origin : Location) (width : Nat) (location : Location) : Location :=
  if location.offset < origin.offset then location else Location.pushed origin width location

theorem Position.after_of_not_newline_mem {text : List Char} (h : '\n' ∉ text) (p : Position) :
    p.after text = ⟨p.offset + text.length, p.line, p.column + text.length⟩ := by
  rw [Position.after_eq, List.count_eq_zero_of_not_mem h]
  rfl

theorem carries_pushed (file : String) (p : Position) {layout : List Char} (h : '\n' ∉ layout) :
    Carries file (Location.pushed (p.within file) layout.length) p (p.after layout) := by
  intro front
  rw [Position.after_of_not_newline_mem h]
  have hline := p.line_after_eq_iff front file
  by_cases hcount : front.count '\n' = 0
  · rw [Location.pushed, if_pos (hline.mpr hcount), Position.after_eq, Position.after_eq,
      if_pos hcount, if_pos hcount]
    simp only [Position.within, Location.mk.injEq, true_and]
    omega
  · rw [Location.pushed, if_neg (mt hline.mp hcount), Position.after_eq, Position.after_eq,
      if_neg hcount, if_neg hcount]
    simp only [Position.within, Location.mk.injEq, true_and]
    omega

/-! ## The whole source -/

/-- At a seam the diagnostics in front of it stay and those behind it are pushed on. -/
theorem map_pushedFrom_errorsFrom {front back : List Char} (h : Seam front back) (file : String)
    {position : Position} {origin : Location} (width : Nat)
    (horigin : origin.offset = (position.after front).offset) :
    (errorsFrom file position (front ++ back)).map
        (Diagnostic.move (Location.pushedFrom origin width)) =
      errorsFrom file position front ++ (errorsFrom file (position.after front) back).map
        (Diagnostic.move (Location.pushed origin width)) := by
  rw [errorsFrom_append h, List.map_append]
  congr 1
  · refine (List.map_congr_left fun d hd => ?_).trans (List.map_id _)
    have hoffset := (offset_of_mem_errorsFrom hd).2
    rw [Position.offset_after] at horigin
    rw [Diagnostic.move, Location.pushedFrom, if_pos (by omega)]
    rfl
  · refine List.map_congr_left fun d hd => ?_
    have hoffset := (offset_of_mem_errorsFrom hd).1
    rw [Diagnostic.move, Location.pushedFrom, if_neg (by omega)]
    rfl

/-- Where the text ends without an open literal, as the diagnostics tell, no item in front of the
end is open. -/
theorem forall_closed_of_codes {file : String} {front back : List Char} {token : Token}
    {after : List Token}
    (hback : tokensFrom file (Position.start.after front) back = token :: after)
    (hclosed : token.kind = .eof → ∀ d ∈ errorsFrom file .start (front ++ back),
      d.code ≠ some "L002") (hnil : back = []) :
    ∀ placed ∈ (scan .start front).items, placed.item.isOpen = false := by
  subst hnil
  rw [tokensFrom_blank file _ isBlankText_nil] at hback
  rw [List.append_nil] at hclosed
  have hkind : token.kind = .eof := by
    rw [← (List.cons.inj hback).1]
    rfl
  exact isOpen_eq_false_of_codes (hclosed hkind)

/-- **Layout insensitivity.**  Before any token of a source there may be more blanks, and, before a
line break or the end, another comment; at the end only if no string literal is open there.  The
tokens before the insertion stay as they are, and the token and those after it are pushed on.  The
same holds of the diagnostics, by their places. -/
theorem pass_insert_layout {source file layout : String} {before after : List Token} {token : Token}
    (htokens : (pass source file).tokens = before ++ token :: after)
    (hclosed : token.kind = .eof → ∀ d ∈ (pass source file).errors, d.code ≠ some "L002")
    (hlayout : IsGap token.kind layout.toList) :
    let changed := token.textBefore source ++ layout ++ token.textFrom source
    (pass changed file).tokens = before ++
        (token :: after).map (Token.move (Location.pushed token.location layout.length)) ∧
      (pass changed file).errors = (pass source file).errors.map
        (Diagnostic.move (Location.pushedFrom token.location layout.length)) := by
  intro changed
  rw [pass_tokens] at htokens
  rw [pass_errors] at hclosed
  obtain ⟨front, back, hsource, hseam, hbegins, hlocation, hfront, hback⟩ :=
    exists_seam_begins_of_tokensFrom file .start source.toList before token after htokens
  have hplace : token.location.offset.toNat = front.length := by
    rw [hlocation, Position.start_after]
    rfl
  have hchanged : changed.toList = (front ++ layout.toList) ++ back := by
    simp only [changed, Token.textBefore, Token.textFrom, String.toList_append,
      String.toList_ofList, hplace, hsource, List.take_left, List.drop_left]
  have hcarries := carries_pushed file (Position.start.after front)
    (hlayout.isLayout hbegins).not_newline_mem
  rw [← hlocation, String.length_toList, ← Position.after_append] at hcarries
  rw [hsource] at hclosed
  obtain ⟨hseam', hsame⟩ :=
    hseam.insert (hlayout.isLayout hbegins) .start (forall_closed_of_codes hback hclosed)
  constructor
  · rw [pass_tokens, hchanged, tokensFrom_append hseam', wordsFrom,
      hsame (Placed.token? file) fun _ _ => rfl, tokensFrom_move hcarries, hback, ← hfront]
    rfl
  · have hpushed := map_pushedFrom_errorsFrom hseam file layout.length
      (by rw [hlocation]; rfl : token.location.offset = (Position.start.after front).offset)
    rw [pass_errors, pass_errors, hsource, hpushed, hchanged, errorsFrom_append hseam', errorsFrom,
      hsame (Placed.diagnostic? file) fun _ _ => rfl, errorsFrom_move hcarries]
    rfl

/-- A second comment behind the first, on the second line of a literal.  The line break is pushed
on, and what follows it keeps its column. -/
theorem pass_insert_layout_second_comment :
    let before : List Token :=
      [⟨.string, "a\nb", .text "a\nb", ⟨"f", 1, 1, 0⟩⟩,
        ⟨.identifier, "x", .text "x", ⟨"f", 2, 4, 6⟩⟩]
    let lineBreak : Token := ⟨.newline, "\\n", .none, ⟨"f", 2, 7, 9⟩⟩
    let after : List Token :=
      [⟨.error, "!", .none, ⟨"f", 3, 1, 10⟩⟩, ⟨.eof, "", .none, ⟨"f", 3, 2, 11⟩⟩]
    (pass "'a\nb' x#c\n!" "f").tokens = before ++ lineBreak :: after ∧
      (lineBreak.kind = .eof →
        ∀ d ∈ (pass "'a\nb' x#c\n!" "f").errors, d.code ≠ some "L002") ∧
      IsGap lineBreak.kind " #d".toList ∧
      (pass "'a\nb' x#c #d\n!" "f").tokens = before ++
        [⟨.newline, "\\n", .none, ⟨"f", 2, 10, 12⟩⟩, ⟨.error, "!", .none, ⟨"f", 3, 1, 13⟩⟩,
          ⟨.eof, "", .none, ⟨"f", 3, 2, 14⟩⟩] ∧
      (pass "'a\nb' x#c #d\n!" "f").errors =
        [Fault.diagnostic (.invalidCharacter '!') ⟨"f", 3, 1, 13⟩] := by
  intro before lineBreak after
  have htokens : (pass "'a\nb' x#c\n!" "f").tokens = before ++ lineBreak :: after := by
    decide +kernel
  have herrors : (pass "'a\nb' x#c\n!" "f").errors =
      [Fault.diagnostic (.invalidCharacter '!') ⟨"f", 3, 1, 10⟩] := by
    decide +kernel
  have hclosed : lineBreak.kind = .eof →
      ∀ d ∈ (pass "'a\nb' x#c\n!" "f").errors, d.code ≠ some "L002" := by
    intro hkind
    cases hkind
  have hlayout : IsGap lineBreak.kind " #d".toList := by
    have hblanks : IsBlankText [' '] := by
      intro c hc
      rw [List.mem_singleton.mp hc]
      rfl
    exact @IsGap.comment _ [' '] ['d'] hblanks (by decide) (Or.inl rfl)
  have hchanged : lineBreak.textBefore "'a\nb' x#c\n!" ++ " #d" ++
      lineBreak.textFrom "'a\nb' x#c\n!" = "'a\nb' x#c #d\n!" := by decide
  obtain ⟨htokens', herrors'⟩ := pass_insert_layout htokens hclosed hlayout
  rw [hchanged] at htokens' herrors'
  rw [herrors] at herrors'
  exact ⟨htokens, hclosed, hlayout, htokens', herrors'⟩

end LessonLexer
