import LessonLexer.Proofs.Relocation
import LessonLexer.Proofs.Seams

/-!
# Cutting a source at a token

A source may be cut in two before any of its tokens, the one for the end included.  A pass over the
first part records what the pass over the whole has recorded up to there, and a pass over the second
part records the rest, moved to where a text of its own begins.

The place of a token is a seam, so that the tokens and the diagnostics of the whole are those of the
two parts (`exists_seam_of_tokensFrom`).  That the diagnostics of the two parts can be told apart by
their places is `filter_errorsFrom_append`.  What remains is that the second part is scanned from
its place in the source and not from the beginning of a text, and that is a matter of moving
(`Location.relativeTo`).
-/

namespace LessonLexer

/-- The source up to the place of a token. -/
def Token.textBefore (token : Token) (source : String) : String :=
  String.ofList (source.toList.take token.location.offset.toNat)

/-- The source from the place of a token on. -/
def Token.textFrom (token : Token) (source : String) : String :=
  String.ofList (source.toList.drop token.location.offset.toNat)

/-- At a seam the diagnostics are parted by their places. -/
theorem filter_errorsFrom_append {front back : List Char} (h : Seam front back) (file : String)
    {position : Position} {place : Int} (hplace : place = (position.after front).offset) :
    (errorsFrom file position (front ++ back)).filter (fun d => d.location.offset < place) =
        errorsFrom file position front ∧
      (errorsFrom file position (front ++ back)).filter (fun d => place ≤ d.location.offset) =
        errorsFrom file (position.after front) back := by
  have hfront : ∀ d ∈ errorsFrom file position front, d.location.offset < place := by
    intro d hd
    have hoffset := (offset_of_mem_errorsFrom hd).2
    rw [hplace, Position.offset_after]
    omega
  have hback : ∀ d ∈ errorsFrom file (position.after front) back, place ≤ d.location.offset := by
    intro d hd
    rw [hplace]
    exact (offset_of_mem_errorsFrom hd).1
  rw [errorsFrom_append h, List.filter_append, List.filter_append]
  constructor
  · rw [List.filter_eq_self.mpr fun d hd => decide_eq_true (hfront d hd),
      List.filter_eq_nil_iff.mpr fun d hd => ?_, List.append_nil]
    have hle := hback d hd
    simp only [decide_eq_true_eq]
    omega
  · rw [List.filter_eq_self.mpr fun d hd => decide_eq_true (hback d hd),
      List.filter_eq_nil_iff.mpr fun d hd => ?_, List.nil_append]
    have hlt := hfront d hd
    simp only [decide_eq_true_eq]
    omega

/-- **Cutting at a token.**  A pass over the source up to a token gives the tokens before it, as
they are, one for the end where the token was, and the diagnostics about earlier places.  A pass
over the source from the token on gives the token and those after it, and the diagnostics about its
place and later ones, all moved to where they are in a text that begins there. -/
theorem pass_cut_at_token {source file : String} {before after : List Token} {token : Token}
    (h : (pass source file).tokens = before ++ token :: after) :
    (pass (token.textBefore source) file).tokens = before ++ [endToken token.location] ∧
    (pass (token.textBefore source) file).errors =
      (pass source file).errors.filter (fun d => d.location.offset < token.location.offset) ∧
    (pass (token.textFrom source) file).tokens =
      (token :: after).map (Token.move (Location.relativeTo token.location)) ∧
    (pass (token.textFrom source) file).errors =
      ((pass source file).errors.filter (fun d => token.location.offset ≤ d.location.offset)).map
        (Diagnostic.move (Location.relativeTo token.location)) := by
  rw [pass_tokens] at h
  obtain ⟨front, back, hsource, hseam, hlocation, hfront, hback⟩ :=
    exists_seam_of_tokensFrom file .start source.toList before token after h
  have hplace : token.location.offset.toNat = front.length := by
    rw [hlocation, Position.start_after]
    rfl
  have hoffset : token.location.offset = (Position.start.after front).offset := by
    rw [hlocation]
    rfl
  have hparts := filter_errorsFrom_append hseam file hoffset
  have hcarries := carries_relativeTo file (Position.start.after front)
  rw [← hlocation] at hcarries
  have htextBefore : (token.textBefore source).toList = front := by
    rw [Token.textBefore, String.toList_ofList, hplace, hsource, List.take_left]
  have htextFrom : (token.textFrom source).toList = back := by
    rw [Token.textFrom, String.toList_ofList, hplace, hsource, List.drop_left]
  refine ⟨?_, ?_, ?_, ?_⟩
  · rw [pass_tokens, htextBefore, tokensFrom_eq, hfront, ← hlocation]
  · rw [pass_errors, pass_errors, htextBefore, hsource, hparts.1]
  · rw [pass_tokens, htextFrom, ← hback]
    exact tokensFrom_move hcarries back
  · rw [pass_errors, pass_errors, htextFrom, hsource, hparts.2]
    exact errorsFrom_move hcarries back

/-- A cut before a literal over two lines.  What follows the literal on its second line keeps its
column, and its line is counted anew. -/
theorem pass_cut_at_token_two_lines :
    let name : Token := ⟨.identifier, "x", .text "x", ⟨"f", 1, 1, 0⟩⟩
    let literal : Token := ⟨.string, "a\nb", .text "a\nb", ⟨"f", 1, 3, 2⟩⟩
    let after : List Token :=
      [⟨.error, "@", .none, ⟨"f", 2, 4, 8⟩⟩, ⟨.eof, "", .none, ⟨"f", 2, 5, 9⟩⟩]
    (pass "x 'a\nb' @" "f").tokens = [name] ++ literal :: after ∧
      (pass "x " "f").tokens = [name, ⟨.eof, "", .none, ⟨"f", 1, 3, 2⟩⟩] ∧
      (pass "x " "f").errors = [] ∧
      (pass "'a\nb' @" "f").tokens =
        [⟨.string, "a\nb", .text "a\nb", ⟨"f", 1, 1, 0⟩⟩, ⟨.error, "@", .none, ⟨"f", 2, 4, 6⟩⟩,
          ⟨.eof, "", .none, ⟨"f", 2, 5, 7⟩⟩] ∧
      (pass "'a\nb' @" "f").errors =
        [Fault.diagnostic (.invalidCharacter '@') ⟨"f", 2, 4, 6⟩] := by
  intro name literal after
  have htokens : (pass "x 'a\nb' @" "f").tokens = [name] ++ literal :: after := by
    decide +kernel
  have herrors : (pass "x 'a\nb' @" "f").errors =
      [Fault.diagnostic (.invalidCharacter '@') ⟨"f", 2, 4, 8⟩] := by
    decide +kernel
  have hbefore : literal.textBefore "x 'a\nb' @" = "x " := by decide
  have hfrom : literal.textFrom "x 'a\nb' @" = "'a\nb' @" := by decide
  have hcut := pass_cut_at_token htokens
  rw [herrors, hbefore, hfrom] at hcut
  obtain ⟨htokens', herrors', htokens'', herrors''⟩ := hcut
  exact ⟨htokens, htokens', herrors', htokens'', herrors''⟩

end LessonLexer
