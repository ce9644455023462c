import LessonLexer.Proofs.Recording

/-!
# The tokens of a pass tile the source text

Nothing of a source text is lost, doubled or put in another order.  Between the beginning and the
end of the text, gaps and the source texts of tokens follow one another without overlap: a gap is
made of blanks and at most one comment, which must run up to a line break or to the end, and the
source text of a token determines its lexeme.

`Tiles` says this of a list of tokens and the places where they end, for a fixed text.  The proof
goes along the scan with one more piece of information than the statement has, the comment that has
been passed but whose line is not over (`Pending`): a comment gives no token, so it has to wait for
the gap of the token that comes next.
-/

namespace LessonLexer

/-- The part of a text from one place up to another. -/
def slice (text : List Char) (start stop : Nat) : List Char := (text.take stop).drop start

/-- What may stand before a token of the given kind: blanks, and then perhaps a comment, if the
token is a line break or the end of the text. -/
inductive IsGap (kind : Kind) : List Char → Prop
  | blanks {text : List Char} (htext : IsBlankText text) : IsGap kind text
  | comment {blanks line : List Char} (hblanks : IsBlankText blanks) (hline : '\n' ∉ line)
      (hkind : kind = .newline ∨ kind = .eof) : IsGap kind (blanks ++ '#' :: line)

/-- A text is the source text of a token: the lexeme, or a line feed for a line break, or, for a
string literal, a body that means the lexeme, between two equal quotes of which the second may be
missing at the end of the text. -/
def Token.IsSource (token : Token) (atEnd : Prop) (text : List Char) : Prop :=
  match token.kind with
  | .string => ∃ quote body, Item.isQuote quote = true ∧ unescape body = token.lexeme.toList ∧
      (text = quote :: (body ++ [quote]) ∨ text = quote :: body ∧ atEnd)
  | .newline => text = ['\n']
  | _ => text = token.lexeme.toList

/-- From a place on, a text is tiled by tokens of which the last marks the end of the text and the
others end at the given places. -/
inductive Tiles (text : List Char) : Nat → List Token → List Nat → Prop
  | finish {place : Nat} {token : Token} (hkind : token.kind = .eof) (hplace : place ≤ text.length)
      (hoffset : token.location.offset = text.length)
      (hgap : IsGap .eof (slice text place text.length)) : Tiles text place [token] []
  | token {place start stop : Nat} {token : Token} {tokens : List Token} {stops : List Nat}
      (hkind : token.kind ≠ .eof) (hplace : place ≤ start) (hoffset : token.location.offset = start)
      (hstart : start < stop) (hstop : stop ≤ text.length)
      (hgap : IsGap token.kind (slice text place start))
      (hsource : token.IsSource (stop = text.length) (slice text start stop))
      (htokens : Tiles text stop tokens stops) : Tiles text place (token :: tokens) (stop :: stops)

/-- The pieces of a tiling in their order: the gap before each token, and its source text. -/
def pieces (text : List Char) : Nat → List Token → List Nat → List (List Char)
  | place, token :: tokens, stop :: stops =>
    slice text place token.location.offset.toNat ::
      slice text token.location.offset.toNat stop :: pieces text stop tokens stops
  | place, _, _ => [slice text place text.length]

@[simp] theorem pieces_singleton (text : List Char) (place : Nat) (token : Token) :
    pieces text place [token] [] = [slice text place text.length] := rfl

@[simp] theorem pieces_cons (text : List Char) (place stop : Nat) (token : Token)
    (tokens : List Token) (stops : List Nat) :
    pieces text place (token :: tokens) (stop :: stops) =
      slice text place token.location.offset.toNat ::
        slice text token.location.offset.toNat stop :: pieces text stop tokens stops := rfl

/-! ## Slices -/

theorem slice_append_slice (text : List Char) {first second third : Nat} (h₁ : first ≤ second)
    (h₂ : second ≤ third) :
    slice text first second ++ slice text second third = slice text first third := by
  have hlength : third - first = (second - first) + (third - second) := by omega
  simp only [slice, List.drop_take]
  rw [hlength, List.take_add, List.drop_drop, Nat.add_sub_cancel' h₁]

theorem slice_to_end (text : List Char) (place : Nat) :
    slice text place text.length = text.drop place := by
  rw [slice, List.take_length]

/-- The part between what comes before and what comes after. -/
theorem slice_middle (front middle back : List Char) :
    slice (front ++ (middle ++ back)) front.length (front.length + middle.length) = middle := by
  rw [slice, ← List.append_assoc, ← List.length_append, List.take_left, List.drop_left]

/-! ## Laying one tile -/

theorem Token.isSource_iff {token : Token} (hstring : token.kind ≠ .string)
    (hnewline : token.kind ≠ .newline) (atEnd : Prop) (text : List Char) :
    token.IsSource atEnd text ↔ text = token.lexeme.toList := by
  unfold Token.IsSource
  split
  · contradiction
  · contradiction
  · rfl

theorem Token.IsSource.mono {token : Token} {atEnd atEnd' : Prop} {text : List Char}
    (h : token.IsSource atEnd text) (himp : atEnd → atEnd') : token.IsSource atEnd' text := by
  unfold Token.IsSource at h ⊢
  split
  · rename_i hkind
    rw [hkind] at h
    obtain ⟨quote, body, hquote, hbody, htext⟩ := h
    exact ⟨quote, body, hquote, hbody, htext.imp_right (And.imp_right himp)⟩
  · rename_i hkind
    rwa [hkind] at h
  · rename_i hstring hnewline
    exact (Token.isSource_iff hstring hnewline _ _).mp h

/-- A gap, the source text of a token, and a tiling of what comes after. -/
theorem Tiles.append {front gap raw rest : List Char} {token : Token} {tokens : List Token}
    {stops : List Nat} (hkind : token.kind ≠ .eof)
    (hoffset : token.location.offset = (front ++ gap).length) (hraw : raw ≠ [])
    (hgap : IsGap token.kind gap) (hsource : token.IsSource (rest = []) raw)
    (htokens : Tiles (front ++ gap ++ raw ++ rest) (front ++ gap ++ raw).length tokens stops) :
    Tiles (front ++ gap ++ raw ++ rest) front.length (token :: tokens)
      ((front ++ gap ++ raw).length :: stops) := by
  have hlength := List.length_pos_iff.mpr hraw
  have hgapSlice :
      slice (front ++ gap ++ raw ++ rest) front.length (front ++ gap).length = gap := by
    rw [List.append_assoc, List.append_assoc, List.length_append, slice_middle]
  have hrawSlice : slice (front ++ gap ++ raw ++ rest) (front ++ gap).length
      ((front ++ gap).length + raw.length) = raw := by
    rw [List.append_assoc (front ++ gap), slice_middle]
  rw [@List.length_append _ _ raw] at htokens ⊢
  refine Tiles.token hkind ?_ hoffset (by omega) ?_ (by rwa [hgapSlice]) ?_ htokens
  · rw [List.length_append]
    exact Nat.le_add_right _ _
  · rw [← List.length_append, @List.length_append _ _ rest]
    exact Nat.le_add_right _ _
  · rw [hrawSlice]
    refine hsource.mono fun hrest => ?_
    rw [hrest, List.append_nil, ← List.length_append]

/-! ## Source texts of items -/

/-- The source text of an item is the source text of its token. -/
theorem Item.Shape.isSource {item : Item} {rest : List Char} (h : item.Shape rest)
    (location : Location) : (item.token location).IsSource (rest = []) item.raw := by
  cases item with
  | word text =>
    refine (Token.isSource_iff (Kind.ofWord_ne rfl _) (Kind.ofWord_ne rfl _) _ _).mpr ?_
    exact String.toList_ofList.symm
  | string quote opening body closed =>
    obtain ⟨hquote, rfl, fragments, hinside, hbody⟩ := h
    refine ⟨opening, body.flatMap Fragment.raw, hquote, ?_, ?_⟩
    · show unescape (body.flatMap Fragment.raw) = (String.ofList (body.map Fragment.char)).toList
      rw [String.toList_ofList]
      rcases hbody with ⟨-, rfl⟩ | ⟨-, -, rfl | rfl⟩
      · exact unescape_raw hinside
      · exact unescape_raw hinside
      · exact unescape_raw_backslash hinside
    · rcases hbody with ⟨rfl, -⟩ | ⟨rfl, hrest, -⟩
      · exact Or.inl rfl
      · exact Or.inr ⟨by simp [Item.raw], hrest⟩
  | newline => rfl
  | comment text => exact String.toList_ofList.symm
  | integer digits => exact String.toList_ofList.symm
  | float whole fraction => exact String.toList_ofList.symm
  | symbol sign => exact String.toList_ofList.symm
  | invalid c => exact String.toList_ofList.symm

/-! ## Along the scan -/

/-- What has been passed without giving a token: nothing, or blanks and a comment whose line is
over where the text goes on. -/
def Pending (passed text : List Char) : Prop :=
  passed = [] ∨ ∃ blanks line, passed = blanks ++ '#' :: line ∧ IsBlankText blanks ∧
    '\n' ∉ line ∧ Stops (· != '\n') text

theorem not_isBlank_newline : Text.isBlank '\n' = false := by decide

/-- Where a line is over there are no blanks. -/
theorem IsBlankText.eq_nil {blanks text : List Char} (h : IsBlankText blanks)
    (hstop : Stops (· != '\n') (blanks ++ text)) : blanks = [] := by
  cases blanks with
  | nil => rfl
  | cons c blanks =>
    have hc := h c List.mem_cons_self
    have hnewline : c = '\n' := by simpa using stops_cons.mp hstop
    rw [hnewline, not_isBlank_newline] at hc
    exact Bool.noConfusion hc

/-- Where a line is over, the next item is a line break. -/
theorem Item.Leads.eq_newline {item : Item} {rest : List Char} (h : item.Leads rest)
    (hstop : Stops (· != '\n') (item.raw ++ rest)) : item = .newline := by
  have hnext := h.next
  cases htext : item.raw ++ rest with
  | nil => exact absurd (List.append_eq_nil_iff.mp htext).1 h.raw_ne_nil
  | cons c text =>
    rw [htext] at hstop hnext
    have hnewline : c = '\n' := by simpa using stops_cons.mp hstop
    rw [hnewline, Item.next?_cons, Opening.of_newline, Option.some.injEq] at hnext
    exact (congrArg Prod.fst hnext).symm

/-- What has been passed, and the blanks after it, are the gap before the next item. -/
theorem Pending.isGap {passed blanks rest : List Char} {item : Item}
    (h : Pending passed (blanks ++ (item.raw ++ rest))) (hblanks : IsBlankText blanks)
    (hlead : item.Leads rest) : IsGap item.kind (passed ++ blanks) := by
  rcases h with rfl | ⟨front, line, rfl, hfront, hline, hstop⟩
  · exact IsGap.blanks hblanks
  · obtain rfl := hblanks.eq_nil hstop
    obtain rfl := hlead.eq_newline hstop
    rw [List.append_nil]
    exact IsGap.comment hfront hline (Or.inl rfl)

/-- What has been passed, and the blanks after it, are the gap before the end of the text. -/
theorem Pending.isGap_eof {passed blanks : List Char} (h : Pending passed blanks)
    (hblanks : IsBlankText blanks) : IsGap .eof (passed ++ blanks) := by
  rcases h with rfl | ⟨front, line, rfl, hfront, hline, hstop⟩
  · exact IsGap.blanks hblanks
  · rw [← List.append_nil blanks] at hstop
    obtain rfl := hblanks.eq_nil hstop
    rw [List.append_nil]
    exact IsGap.comment hfront hline (Or.inr rfl)

/-- A comment is passed together with the blanks before it. -/
theorem Pending.comment {passed blanks text rest : List Char}
    (h : Pending passed (blanks ++ ((Item.comment text).raw ++ rest)))
    (hblanks : IsBlankText blanks) (hlead : (Item.comment text).Leads rest) :
    Pending (passed ++ blanks ++ (Item.comment text).raw) rest := by
  rcases h with rfl | ⟨front, line, rfl, hfront, hline, hstop⟩
  · obtain ⟨⟨line, rfl, hline⟩, hstop⟩ := hlead.shape
    exact Or.inr ⟨blanks, line, rfl, hblanks, hline, hstop⟩
  · obtain rfl := hblanks.eq_nil hstop
    cases hlead.eq_newline hstop

/-- The tokens of a text tile it from where the last token before it ended; between that place and
the text lies what has been passed since. -/
theorem exists_tiles_tokensFrom (file : String) (position : Position) (text : List Char) :
    ∀ front passed : List Char, position = Position.start.after (front ++ passed) →
      Pending passed text → ∃ stops, Tiles (front ++ passed ++ text) front.length
        (tokensFrom file position text) stops := by
  induction position, text using scanInduction with
  | blank position text hblank =>
    rintro front passed rfl hpending
    rw [tokensFrom_blank file _ hblank]
    refine ⟨[], Tiles.finish rfl ?_ ?_ ?_⟩
    · rw [List.append_assoc, List.length_append]
      exact Nat.le_add_right _ _
    · rw [← Position.after_append]
      simp [endToken, Position.within, Position.start]
    · rw [slice_to_end, List.append_assoc, List.drop_left]
      exact hpending.isGap_eof hblank
  | lead position blanks item rest hblanks hlead ih =>
    rintro front passed rfl hpending
    by_cases hcomment : ∃ text, item = .comment text
    · -- no token: the comment waits for the gap of the next one
      obtain ⟨text, rfl⟩ := hcomment
      rw [tokensFrom_comment file _ hblanks hlead]
      obtain ⟨stops, htiles⟩ := ih front (passed ++ blanks ++ (Item.comment text).raw)
        (by simp only [Position.after_append]) (hpending.comment hblanks hlead)
      refine ⟨stops, ?_⟩
      simpa only [List.append_assoc] using htiles
    · have hitem : ∀ text, item ≠ .comment text := fun text h => hcomment ⟨text, h⟩
      rw [tokensFrom_lead file _ hitem hblanks hlead]
      obtain ⟨stops, htiles⟩ := ih (front ++ (passed ++ blanks) ++ item.raw) []
        (by simp only [Position.after_append, Position.after_nil]) (Or.inl rfl)
      rw [List.append_nil] at htiles
      have hoffset : (item.token (((Position.start.after (front ++ passed)).after blanks).within
          file)).location.offset = (front ++ (passed ++ blanks)).length := by
        rw [← Position.after_append, List.append_assoc]
        simp [Item.token, Position.within, Position.start]
      have htile := Tiles.append item.kind_ne_eof hoffset hlead.raw_ne_nil
        (hpending.isGap hblanks hlead) (hlead.shape.isSource _) htiles
      exact ⟨_, by simpa only [List.append_assoc] using htile⟩

/-- The pieces of a tiling make up the text. -/
theorem Tiles.flatten_pieces {text : List Char} {place : Nat} {tokens : List Token}
    {stops : List Nat} (h : Tiles text place tokens stops) :
    (pieces text place tokens stops).flatten = text.drop place := by
  induction h with
  | finish hkind hplace hoffset hgap =>
    rw [pieces_singleton, List.flatten_cons, List.flatten_nil, List.append_nil, slice_to_end]
  | @token place start stop token tokens stops hkind hplace hoffset hstart hstop _ _ _ ih =>
    have hstart' : token.location.offset.toNat = start := by rw [hoffset]; rfl
    have hlast : start ≤ text.length := by omega
    rw [pieces_cons, List.flatten_cons, List.flatten_cons, ih, hstart', ← slice_to_end,
      slice_append_slice text (Nat.le_of_lt hstart) hstop, slice_append_slice text hplace hlast,
      slice_to_end]

/-- **Lossless tiling.**  The tokens of a pass tile the source text from its beginning to its end,
so the gaps and the source texts of the tokens, put together, are the source text. -/
theorem pass_tiles (source file : String) :
    ∃ stops, Tiles source.toList 0 (pass source file).tokens stops ∧
      (pieces source.toList 0 (pass source file).tokens stops).flatten = source.toList := by
  obtain ⟨stops, htiles⟩ :=
    exists_tiles_tokensFrom file .start source.toList [] [] rfl (Or.inl rfl)
  rw [← pass_tokens] at htiles
  exact ⟨stops, htiles, htiles.flatten_pieces⟩

end LessonLexer
