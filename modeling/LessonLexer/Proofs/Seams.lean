import LessonLexer.Proofs.Lookahead
import LessonLexer.Proofs.PositionLaw

/-!
# Seams

A text can be scanned in two parts where no item lies across the border between them and none would
be longer, or shorter, for what stands on the other side: there is a seam.  The first part is
described as scans are, by blanks and leading items, but its last item is asked to lead all of the
text and not only the first part of it (`Seam.lead`).

## Where seams are

* Before every item of a scan, and behind the whole text (`exists_cut`, `seam_nil`).
* Before every token of a text, the one for the end included (`exists_seam_of_tokensFrom`).

## What they are good for

* `scan_append`: the scan of the whole is the scan of the first part, and then that of the second
  part from the position where the first ends.
* `tokensFrom_append`, `errorsFrom_append`: the same of tokens and of diagnostics.
* `pairwise_offset_scan`, `pairwise_offset_errorsFrom`: items and diagnostics come in the order of
  their places.
-/

namespace LessonLexer

/-- Between two texts there is a seam: no item of the first looks or reaches into the second. -/
inductive Seam : List Char → List Char → Prop
  | blank {front back : List Char} (hfront : IsBlankText front) : Seam front back
  | lead {blanks rest back : List Char} {item : Item} (hblanks : IsBlankText blanks)
      (hlead : item.Leads (rest ++ back)) (hrest : Seam rest back) :
      Seam (blanks ++ (item.raw ++ rest)) back

theorem isBlankText_nil : IsBlankText [] := fun _ hc => absurd hc List.not_mem_nil

theorem IsBlankText.append {front back : List Char} (hfront : IsBlankText front)
    (hback : IsBlankText back) : IsBlankText (front ++ back) :=
  List.forall_mem_append.mpr ⟨hfront, hback⟩

/-- Blanks in front of a text are only passed over. -/
theorem scan_blanks_append (position : Position) {blanks : List Char} (hblanks : IsBlankText blanks)
    (text : List Char) : scan position (blanks ++ text) = scan (position.after blanks) text := by
  rcases isBlankText_or_lead text with htext | ⟨more, item, rest, hmore, hlead, rfl⟩
  · rw [scan_blank _ (hblanks.append htext), scan_blank _ htext, Position.after_append]
  · rw [← List.append_assoc, scan_lead _ (hblanks.append hmore) hlead, scan_lead _ hmore hlead,
      Position.after_append]

/-- **At a seam a text is scanned in two parts.** -/
theorem scan_append {front back : List Char} (h : Seam front back) (position : Position) :
    scan position (front ++ back) =
      (scan (position.after front) back).prepend (scan position front).items := by
  induction h generalizing position with
  | blank hfront => rw [scan_blanks_append _ hfront, scan_blank _ hfront]; rfl
  | @lead blanks rest back item hblanks hlead hrest ih =>
    rw [List.append_assoc, List.append_assoc, scan_lead _ hblanks hlead, ih,
      scan_lead _ hblanks hlead.of_append, Position.after_blanks_raw]
    simp only [Scan.prepend, List.append_assoc]

/-- Behind the whole of a text there is a seam. -/
theorem seam_nil (text : List Char) : Seam text [] := by
  induction Position.start, text using scanInduction with
  | blank _ text hblank => exact Seam.blank hblank
  | lead _ blanks item rest hblanks hlead ih =>
    exact Seam.lead hblanks (by rwa [List.append_nil]) ih

/-! ## Before an item -/

/-- An item of a scan cuts the text in two: its place is a seam, what is found in front of it is
found in the first part, and what is found behind it is found in what follows the item. -/
structure CutsAt (position : Position) (before : List Placed) (placed : Placed)
    (after : List Placed) (front rest : List Char) : Prop where
  seam : Seam front (placed.item.raw ++ rest)
  leads : placed.item.Leads rest
  position_eq : placed.position = position.after front
  items_front : (scan position front).items = before
  items_rest : (scan ((position.after front).after placed.item.raw) rest).items = after

/-- Every item of a scan cuts the text. -/
theorem exists_cut (position : Position) (text : List Char) :
    ∀ (before : List Placed) (placed : Placed) (after : List Placed),
      (scan position text).items = before ++ placed :: after → ∃ front rest,
        text = front ++ (placed.item.raw ++ rest) ∧
          CutsAt position before placed after front rest := by
  induction position, text using scanInduction with
  | blank position text hblank =>
    intro before placed after h
    rw [scan_blank _ hblank] at h
    cases before <;> cases h
  | lead position blanks item rest hblanks hlead ih =>
    intro before placed after h
    rw [scan_lead _ hblanks hlead] at h
    cases before with
    | nil =>
      obtain ⟨rfl, rfl⟩ := List.cons.inj h
      refine ⟨blanks, rest, rfl, Seam.blank hblanks, hlead, rfl, ?_, rfl⟩
      rw [scan_blank _ hblanks]
    | cons first before =>
      obtain ⟨rfl, hlater⟩ := List.cons.inj h
      obtain ⟨front, rest, rfl, hcut⟩ := ih before placed after hlater
      refine ⟨blanks ++ (item.raw ++ front), rest, by simp only [List.append_assoc],
        Seam.lead hblanks hlead hcut.seam, hcut.leads, ?_, ?_, ?_⟩
      · rw [hcut.position_eq, Position.after_blanks_raw]
      · rw [scan_lead _ hblanks hlead.of_append, ← hcut.items_front]
        rfl
      · rw [Position.after_blanks_raw, hcut.items_rest]

/-- The items of a scan are those that cut the text. -/
theorem exists_cut_of_mem {position : Position} {text : List Char} {placed : Placed}
    (h : placed ∈ (scan position text).items) : ∃ before after front rest,
      (scan position text).items = before ++ placed :: after ∧
        text = front ++ (placed.item.raw ++ rest) ∧
        CutsAt position before placed after front rest := by
  obtain ⟨before, after, hsplit⟩ := List.append_of_mem h
  obtain ⟨front, rest, htext, hcut⟩ := exists_cut position text before placed after hsplit
  exact ⟨before, after, front, rest, hsplit, htext, hcut⟩

/-- The scan of what begins with an item that cuts the text. -/
theorem CutsAt.items_back {position : Position} {before after : List Placed} {placed : Placed}
    {front rest : List Char} (h : CutsAt position before placed after front rest) :
    (scan (position.after front) (placed.item.raw ++ rest)).items = placed :: after := by
  have hscan := scan_lead (position.after front) isBlankText_nil h.leads
  rw [List.nil_append, Position.after_nil] at hscan
  rw [hscan, Scan.prepend, h.items_rest, ← h.position_eq]
  rfl

/-! ## The order of places -/

/-- Every item stands inside the text. -/
theorem offset_of_mem_scan {position : Position} {text : List Char} {placed : Placed}
    (h : placed ∈ (scan position text).items) : position.offset ≤ placed.position.offset ∧
      placed.position.offset < position.offset + text.length := by
  obtain ⟨before, after, front, rest, -, rfl, hcut⟩ := exists_cut_of_mem h
  have hpos := List.length_pos_iff.mpr hcut.leads.raw_ne_nil
  rw [hcut.position_eq, Position.offset_after, List.length_append, List.length_append]
  omega

/-- Every item stands behind the items before it. -/
theorem pairwise_offset_scan (position : Position) (text : List Char) :
    (scan position text).items.Pairwise fun first second =>
      first.position.offset < second.position.offset := by
  induction position, text using scanInduction with
  | blank position text hblank =>
    rw [scan_blank _ hblank]
    exact List.Pairwise.nil
  | lead position blanks item rest hblanks hlead ih =>
    rw [scan_lead _ hblanks hlead]
    refine List.Pairwise.cons (fun later hlater => ?_) ih
    have hpos := List.length_pos_iff.mpr hlead.raw_ne_nil
    have hoffset := (offset_of_mem_scan hlater).1
    rw [Position.offset_after] at hoffset
    show (position.after blanks).offset < later.position.offset
    omega

/-- Every diagnostic is about a place inside the text. -/
theorem offset_of_mem_errorsFrom {file : String} {position : Position} {text : List Char}
    {diagnostic : Diagnostic} (h : diagnostic ∈ errorsFrom file position text) :
    (position.offset : Int) ≤ diagnostic.location.offset ∧
      diagnostic.location.offset < position.offset + text.length := by
  obtain ⟨placed, hplaced, hgiven⟩ := List.mem_filterMap.mp h
  have hoffset := offset_of_mem_scan hplaced
  rw [Placed.location_of_diagnostic? hgiven]
  show (position.offset : Int) ≤ (placed.position.offset : Int) ∧
    (placed.position.offset : Int) < position.offset + text.length
  omega

/-- Every diagnostic is about a place behind those of the diagnostics before it. -/
theorem pairwise_offset_errorsFrom (file : String) (position : Position) (text : List Char) :
    (errorsFrom file position text).Pairwise fun first second =>
      first.location.offset < second.location.offset := by
  refine (pairwise_offset_scan position text).filterMap _ fun first second hlt => ?_
  intro d hd d' hd'
  rw [Placed.location_of_diagnostic? hd, Placed.location_of_diagnostic? hd']
  exact Int.ofNat_lt.mpr hlt

/-! ## Tokens and diagnostics -/

/-- The tokens of a text without the one for its end. -/
def wordsFrom (file : String) (position : Position) (text : List Char) : List Token :=
  (scan position text).items.filterMap (Placed.token? file)

theorem tokensFrom_eq (file : String) (position : Position) (text : List Char) :
    tokensFrom file position text =
      wordsFrom file position text ++ [endToken ((position.after text).within file)] := rfl

theorem tokensFrom_append {front back : List Char} (h : Seam front back) (file : String)
    (position : Position) : tokensFrom file position (front ++ back) =
      wordsFrom file position front ++ tokensFrom file (position.after front) back := by
  rw [tokensFrom, scan_append h, Scan.prepend, List.filterMap_append, Position.after_append,
    List.append_assoc]
  rfl

theorem errorsFrom_append {front back : List Char} (h : Seam front back) (file : String)
    (position : Position) : errorsFrom file position (front ++ back) =
      errorsFrom file position front ++ errorsFrom file (position.after front) back := by
  rw [errorsFrom, scan_append h, Scan.prepend, List.filterMap_append]
  rfl

/-- The text begins with what the token stands for: an item of its kind, or the end of the text. -/
inductive Token.Begins (token : Token) : List Char → Prop
  | item {item : Item} {rest : List Char} (hlead : item.Leads rest)
      (hkind : token.kind = item.kind) : token.Begins (item.raw ++ rest)
  | finish (hkind : token.kind = .eof) : token.Begins []

theorem Placed.kind_of_token? {file : String} {placed : Placed} {token : Token}
    (h : placed.token? file = some token) : token.kind = placed.item.kind := by
  obtain ⟨position, item⟩ := placed
  cases item with
  | comment text => cases h
  | _ =>
    rw [← Option.some.inj h]
    rfl

/-- Before every token there is a seam, the text behind it begins with what the token stands for,
and the token is the first one of that text. -/
theorem exists_seam_begins_of_tokensFrom (file : String) (position : Position) (text : List Char) :
    ∀ (before : List Token) (token : Token) (after : List Token),
      tokensFrom file position text = before ++ token :: after → ∃ front back,
        text = front ++ back ∧ Seam front back ∧ token.Begins back ∧
          token.location = (position.after front).within file ∧
          wordsFrom file position front = before ∧
          tokensFrom file (position.after front) back = token :: after := by
  intro before token after h
  rw [tokensFrom_eq] at h
  rcases List.eq_nil_or_concat after with rfl | ⟨later, last, rfl⟩
  · -- the token for the end: the seam is behind the whole text
    obtain ⟨hwords, hlast⟩ := List.append_inj' h rfl
    obtain rfl := (List.cons.inj hlast).1
    exact ⟨text, [], (List.append_nil text).symm, seam_nil text, Token.Begins.finish rfl, rfl,
      hwords, tokensFrom_blank file _ isBlankText_nil⟩
  · rw [List.concat_eq_append, ← List.cons_append, ← List.append_assoc] at h
    obtain ⟨hwords, hlast⟩ := List.append_inj' h rfl
    obtain rfl := (List.cons.inj hlast).1
    obtain ⟨first, second, hsplit, hfirst, hsecond⟩ := List.filterMap_eq_append_iff.mp hwords
    obtain ⟨skipped, placed, rest, rfl, hskipped, hplaced, hrest⟩ :=
      List.filterMap_eq_cons_iff.mp hsecond
    rw [← List.append_assoc] at hsplit
    obtain ⟨front, rest, rfl, hcut⟩ := exists_cut position text _ _ _ hsplit
    have hbefore : wordsFrom file position front = before := by
      rw [wordsFrom, hcut.items_front, List.filterMap_append, hfirst,
        List.filterMap_eq_nil_iff.mpr hskipped, List.append_nil]
    refine ⟨front, _, rfl, hcut.seam,
      Token.Begins.item hcut.leads (Placed.kind_of_token? hplaced), ?_, hbefore, ?_⟩
    · rw [Placed.location_of_token? hplaced, hcut.position_eq]
    · rw [tokensFrom, hcut.items_back, List.filterMap_cons_some hplaced, hrest,
        ← Position.after_append, List.concat_eq_append, List.cons_append]

/-- Before every token there is a seam, and the token is the first one behind it. -/
theorem exists_seam_of_tokensFrom (file : String) (position : Position) (text : List Char) :
    ∀ (before : List Token) (token : Token) (after : List Token),
      tokensFrom file position text = before ++ token :: after → ∃ front back,
        text = front ++ back ∧ Seam front back ∧
          token.location = (position.after front).within file ∧
          wordsFrom file position front = before ∧
          tokensFrom file (position.after front) back = token :: after := by
  intro before token after h
  obtain ⟨front, back, htext, hseam, -, hrest⟩ :=
    exists_seam_begins_of_tokensFrom file position text before token after h
  exact ⟨front, back, htext, hseam, hrest⟩

end LessonLexer
