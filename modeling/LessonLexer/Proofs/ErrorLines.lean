import LessonLexer.Proofs.Log
import LessonLexer.Proofs.Seams
import LessonLexer.Proofs.WrittenForms
import Mathlib.Data.List.Forall2

/-!
# What the lines about errors tell

A location and a diagnostic each have a form of one line, and in both a text that may hold anything
stands beside numbers, with nothing to mark where it begins or ends.  They can be read back, each
from its own side.

* The file name of a location comes first, and may itself end like a location.  The last colon of
  the line is nevertheless the one before the column, and the last but one that before the line
  number, since no number holds a colon (`Location.summary_eq_iff`).
* The message of a diagnostic comes last, and may itself hold a whole such line.  The first two
  numbers of the line are nevertheless line and column, since all that stands before them is fixed
  (`Diagnostic.line_eq_iff`).

The diagnostics of a source have one of two messages, and the one about an invalid character holds
the character (`Diagnostic.Tells`).  So the lines that a session answers after a pass tell where its
errors are and what they are; not told are the file, the offset, and the quote that would close a
literal (`Diagnostic.line_eq_iff_alike`).  Neither a line feed nor a carriage return is ever
invalid: the one is a token, and the other is passed over as a blank.  Hence every line is indeed a
single one.
-/

namespace LessonLexer

/-! ## Reading a location from the right -/

/-- A location can be told from its short form, but for the offset. -/
theorem Location.summary_eq_iff {l l' : Location} :
    l.summary = l'.summary ↔ l.file = l'.file ∧ l.line = l'.line ∧ l.column = l'.column := by
  constructor
  · intro h
    have hcolon : ":".toList = [':'] := by decide
    have hstops : ∀ front : List Char, Stops Text.isNumberPart (front ++ ":".toList).reverse := by
      intro front
      rw [hcolon, List.reverse_append]
      exact stops_cons.mpr rfl
    have hchars := congrArg String.toList h
    unfold summary at hchars
    simp only [String.toList_append] at hchars
    obtain ⟨hchars, hcolumn⟩ := Text.append_repr_inj (hstops _) (hstops _) hchars
    obtain ⟨hchars, hline⟩ :=
      Text.append_repr_inj (hstops _) (hstops _) (List.append_cancel_right hchars)
    exact ⟨String.toList_inj.mp (List.append_cancel_right hchars), hline, hcolumn⟩
  · rintro ⟨hfile, hline, hcolumn⟩
    rw [summary, summary, hfile, hline, hcolumn]

/-- A file name that looks like a location. -/
example : Location.summary ⟨"lesson:1:2", 3, -4, 0⟩ = "lesson:1:2:3:-4" := by decide +kernel

/-! ## Reading a diagnostic from the left -/

namespace Diagnostic

/-- Line, column and message of a diagnostic can be told from its form of one line. -/
theorem line_eq_iff {d d' : Diagnostic} :
    d.line = d'.line ↔ d.location.line = d'.location.line ∧
      d.location.column = d'.location.column ∧ d.message = d'.message := by
  constructor
  · intro h
    have hword : ∀ rest, Stops Text.isNumberPart (", colonne ".toList ++ rest) :=
      Text.stops_toList_append (by decide : ", colonne ".toList = ',' :: " colonne ".toList) rfl
    have hcolon : ∀ rest, Stops Text.isNumberPart (": ".toList ++ rest) :=
      Text.stops_toList_append (by decide : ": ".toList = [':', ' ']) rfl
    have hchars := congrArg String.toList h
    rw [line, line, toList_pattern, toList_pattern] at hchars
    obtain ⟨hline, hchars⟩ :=
      Text.repr_append_inj (hword _) (hword _) (List.append_cancel_left hchars)
    obtain ⟨hcolumn, hchars⟩ :=
      Text.repr_append_inj (hcolon _) (hcolon _) (List.append_cancel_left hchars)
    exact ⟨hline, hcolumn, String.toList_inj.mp (List.append_cancel_left hchars)⟩
  · rintro ⟨hline, hcolumn, hmessage⟩
    rw [line, line, hline, hcolumn, hmessage]

end Diagnostic

/-! ## Single lines -/

namespace Text

/-- The text holds neither a line feed nor a carriage return. -/
def SingleLine (text : List Char) : Prop := '\n' ∉ text ∧ '\r' ∉ text

theorem singleLine_append {front back : List Char} :
    SingleLine (front ++ back) ↔ SingleLine front ∧ SingleLine back := by
  simp only [SingleLine, List.mem_append, not_or]
  exact and_and_and_comm

theorem singleLine_singleton {c : Char} : SingleLine [c] ↔ c ≠ '\n' ∧ c ≠ '\r' := by
  simp only [SingleLine, List.mem_singleton, ne_eq, eq_comm]

theorem singleLine_repr (n : Int) : SingleLine n.repr.toList :=
  ⟨fun h => absurd (isNumberPart_of_mem_repr n _ h) (by decide),
    fun h => absurd (isNumberPart_of_mem_repr n _ h) (by decide)⟩

end Text

/-- The form of one line is a single line if the message is. -/
theorem Diagnostic.singleLine_line_iff {d : Diagnostic} :
    Text.SingleLine d.line.toList ↔ Text.SingleLine d.message.toList := by
  have hbegin : Text.SingleLine "Erreur lexicale ligne ".toList := ⟨by decide, by decide⟩
  have hcolumn : Text.SingleLine ", colonne ".toList := ⟨by decide, by decide⟩
  have hcolon : Text.SingleLine ": ".toList := ⟨by decide, by decide⟩
  rw [line, toList_pattern]
  simp only [Text.singleLine_append, hbegin, hcolumn, hcolon, Text.singleLine_repr, true_and]

/-! ## The messages of errors -/

namespace Fault

theorem toList_invalidMessage (text : String) :
    (invalidMessage text).toList =
      "Caractère invalide '".toList ++ (text.toList ++ "'".toList) := by
  unfold invalidMessage
  simp only [String.toList_append, List.append_assoc]

/-- The message about an invalid text holds it. -/
theorem invalidMessage_inj {text text' : String} (h : invalidMessage text = invalidMessage text') :
    text = text' := by
  have hchars := congrArg String.toList h
  rw [toList_invalidMessage, toList_invalidMessage] at hchars
  exact String.toList_inj.mp (List.append_cancel_right (List.append_cancel_left hchars))

/-- The messages about characters are not the one about literals. -/
theorem invalidMessage_ne_message (text quote : String) :
    invalidMessage text ≠ message (.unterminatedString quote) := by
  intro h
  have hinvalid : "Caractère invalide '".toList = 'C' :: 'a' :: "ractère invalide '".toList := by
    decide
  have hopen : "Chaîne non terminée".toList = 'C' :: 'h' :: "aîne non terminée".toList := by decide
  have hchars := congrArg String.toList h
  rw [toList_invalidMessage, hinvalid, message, hopen] at hchars
  cases hchars

/-- The code tells whether an error is an invalid character. -/
theorem code_eq_iff {fault : Fault} :
    fault.code = "L001" ↔ ∃ c, fault = .invalidCharacter c := by
  cases fault with
  | invalidCharacter c => exact iff_of_true rfl ⟨c, rfl⟩
  | unterminatedString quote =>
    have hcode : code (.unterminatedString quote) ≠ "L001" := by
      show "L002" ≠ "L001"
      decide
    refine iff_of_false hcode ?_
    rintro ⟨c, hc⟩
    cases hc

/-- Errors have the same message if they are of one kind and about the same character, if they are
about one. -/
theorem message_eq_iff {fault fault' : Fault} : fault.message = fault'.message ↔
    fault.code = fault'.code ∧ ∀ c, fault = .invalidCharacter c → fault' = .invalidCharacter c := by
  cases fault with
  | invalidCharacter c =>
    cases fault' with
    | invalidCharacter c' =>
      constructor
      · intro h
        obtain rfl := String.singleton_inj.mp (invalidMessage_inj h)
        exact ⟨rfl, fun _ => id⟩
      · rintro ⟨-, h⟩
        rw [h c rfl]
    | unterminatedString quote' =>
      refine iff_of_false (invalidMessage_ne_message _ quote') ?_
      rintro ⟨-, h⟩
      cases h c rfl
  | unterminatedString quote =>
    cases fault' with
    | invalidCharacter c' =>
      refine iff_of_false (invalidMessage_ne_message _ quote).symm ?_
      rintro ⟨h, -⟩
      obtain ⟨c, hc⟩ := code_eq_iff.mp h
      cases hc
    | unterminatedString quote' =>
      refine iff_of_true rfl ⟨rfl, fun c hc => ?_⟩
      cases hc

/-- The message of an error is a single line, unless it is about the end of a line. -/
theorem singleLine_message {fault : Fault}
    (h : ∀ c, fault = .invalidCharacter c → Text.SingleLine [c]) :
    Text.SingleLine fault.message.toList := by
  cases fault with
  | invalidCharacter c =>
    have hbegin : Text.SingleLine "Caractère invalide '".toList := ⟨by decide, by decide⟩
    have hquote : Text.SingleLine "'".toList := ⟨by decide, by decide⟩
    rw [message, toList_invalidMessage, String.toList_singleton]
    simp only [Text.singleLine_append, hbegin, hquote, h c rfl, and_self]
  | unterminatedString quote =>
    show Text.SingleLine "Chaîne non terminée".toList
    exact ⟨by decide, by decide⟩

end Fault

/-! ## The errors of a source -/

/-- Only an invalid character is reported as such. -/
theorem Item.eq_invalid_of_fault {item : Item} {c : Char}
    (h : item.fault? = some (.invalidCharacter c)) : item = .invalid c := by
  cases item with
  | invalid d =>
    cases h
    rfl
  | string quote opening body closed => cases closed <;> cases h
  | _ => cases h

/-- No end of a line is an invalid character: a line feed is an item, and a carriage return is a
blank. -/
theorem Item.Leads.singleLine_invalid {c : Char} {rest : List Char}
    (h : (Item.invalid c).Leads rest) : Text.SingleLine [c] := by
  obtain ⟨-, hnewline, -⟩ := h.shape
  refine Text.singleLine_singleton.mpr ⟨hnewline, ?_⟩
  rintro rfl
  exact absurd (stops_cons.mp h.solid) (by decide)

/-- Every diagnostic of a pass is the record of what is wrong with an item of the source. -/
theorem exists_faulty_item {source file : String} {d : Diagnostic}
    (h : d ∈ (pass source file).errors) :
    ∃ (front rest : List Char) (item : Item) (fault : Fault),
      source.toList = front ++ (item.raw ++ rest) ∧ item.Leads rest ∧ item.fault? = some fault ∧
        d = fault.diagnostic ((Position.start.after front).within file) := by
  rw [pass_errors] at h
  obtain ⟨placed, hplaced, hgiven⟩ := List.mem_filterMap.mp h
  obtain ⟨fault, hfault, rfl⟩ := Option.map_eq_some_iff.mp hgiven
  obtain ⟨before, after, front, rest, -, hsource, hcut⟩ := exists_cut_of_mem hplaced
  exact ⟨front, rest, placed.item, fault, hsource, hcut.leads, hfault, by rw [hcut.position_eq]⟩

namespace Diagnostic

/-- The character of a source at the place of a diagnostic. -/
def characterIn? (d : Diagnostic) (source : String) : Option Char :=
  source.toList[d.location.offset.toNat]?

/-- The diagnostic reports the error, and if the error is an invalid character, it is the one that
stands in the source at the place of the diagnostic. -/
structure Tells (d : Diagnostic) (source : String) (fault : Fault) : Prop where
  code_eq : d.code = some fault.code
  message_eq : d.message = fault.message
  character_eq : ∀ c, fault = .invalidCharacter c → d.characterIn? source = some c

/-- Two diagnostics, each about a source of its own, are about the same line and column and of one
kind, and if they are about invalid characters, then about the same character. -/
structure Alike (source source' : String) (d d' : Diagnostic) : Prop where
  line_eq : d.location.line = d'.location.line
  column_eq : d.location.column = d'.location.column
  code_eq : d.code = d'.code
  character_eq : d.code = some "L001" →
    ∃ c, d.characterIn? source = some c ∧ d'.characterIn? source' = some c

/-- Every diagnostic of a pass reports an error. -/
theorem exists_tells {source file : String} {d : Diagnostic} (h : d ∈ (pass source file).errors) :
    ∃ fault, d.Tells source fault := by
  obtain ⟨front, rest, item, fault, hsource, -, hfault, rfl⟩ := exists_faulty_item h
  refine ⟨fault, fault.code_diagnostic _, fault.message_diagnostic _, ?_⟩
  rintro c rfl
  obtain rfl := Item.eq_invalid_of_fault hfault
  have hplace : (Position.start.after front).offset = front.length := by
    rw [Position.start_after]
  show source.toList[(Position.start.after front).offset]? = some c
  rw [hplace, hsource, List.getElem?_append_right (Nat.le_refl _), Nat.sub_self]
  rfl

/-- The messages of two reports are the same if the reports are of one kind and about the same
character. -/
theorem Tells.message_eq_iff {d d' : Diagnostic} {source source' : String} {fault fault' : Fault}
    (h : d.Tells source fault) (h' : d'.Tells source' fault') :
    d.message = d'.message ↔ d.code = d'.code ∧ (d.code = some "L001" →
      ∃ c, d.characterIn? source = some c ∧ d'.characterIn? source' = some c) := by
  rw [h.message_eq, h'.message_eq, h.code_eq, h'.code_eq, Fault.message_eq_iff, Option.some.injEq,
    Option.some.injEq, Fault.code_eq_iff]
  refine and_congr_right fun hcode => ⟨?_, ?_⟩
  · rintro hsame ⟨c, hc⟩
    exact ⟨c, h.character_eq c hc, h'.character_eq c (hsame c hc)⟩
  · intro hsame c hc
    obtain ⟨e, he, he'⟩ := hsame ⟨c, hc⟩
    obtain ⟨c', hc'⟩ := Fault.code_eq_iff.mp (hcode.symm.trans (Fault.code_eq_iff.mpr ⟨c, hc⟩))
    have hce : c = e := Option.some.inj ((h.character_eq c hc).symm.trans he)
    have hce' : c' = e := Option.some.inj ((h'.character_eq c' hc').symm.trans he')
    rw [hc', hce', hce]

/-- Line, column, kind and character of an error can be told from the line about it. -/
theorem line_eq_iff_alike {source file source' file' : String} {d d' : Diagnostic}
    (h : d ∈ (pass source file).errors) (h' : d' ∈ (pass source' file').errors) :
    d.line = d'.line ↔ Alike source source' d d' := by
  obtain ⟨fault, htells⟩ := exists_tells h
  obtain ⟨fault', htells'⟩ := exists_tells h'
  rw [line_eq_iff, htells.message_eq_iff htells']
  constructor
  · rintro ⟨hline, hcolumn, hcode, hcharacter⟩
    exact ⟨hline, hcolumn, hcode, hcharacter⟩
  · rintro ⟨hline, hcolumn, hcode, hcharacter⟩
    exact ⟨hline, hcolumn, hcode, hcharacter⟩

end Diagnostic

/-- The lines about the errors of a source. -/
def errorLines (source file : String) : List String := (pass source file).errors.map Diagnostic.line

/-- Two sources have the same lines if their diagnostics are alike, one by one. -/
theorem errorLines_eq_iff {source file source' file' : String} :
    errorLines source file = errorLines source' file' ↔
      List.Forall₂ (Diagnostic.Alike source source') (pass source file).errors
        (pass source' file').errors := by
  rw [errorLines, errorLines, ← List.forall₂_eq_eq_eq, List.forall₂_map_left_iff,
    List.forall₂_map_right_iff, List.forall₂_iff_zip, List.forall₂_iff_zip]
  have hpair : ∀ {d d' : Diagnostic},
      (d, d') ∈ (pass source file).errors.zip (pass source' file').errors →
        (d.line = d'.line ↔ Diagnostic.Alike source source' d d') := by
    intro d d' hmem
    obtain ⟨hd, hd'⟩ := List.of_mem_zip hmem
    exact Diagnostic.line_eq_iff_alike hd hd'
  refine and_congr_right fun _ => ⟨?_, ?_⟩
  · intro h d d' hmem
    exact (hpair hmem).mp (h hmem)
  · intro h d d' hmem
    exact (hpair hmem).mpr (h hmem)

/-- Every line about an error is a single line. -/
theorem singleLine_of_mem_errorLines {source file text : String}
    (h : text ∈ errorLines source file) : Text.SingleLine text.toList := by
  obtain ⟨d, hd, rfl⟩ := List.mem_map.mp h
  obtain ⟨front, rest, item, fault, -, hleads, hfault, rfl⟩ := exists_faulty_item hd
  have hmessage : Text.SingleLine fault.message.toList := by
    refine Fault.singleLine_message fun c hc => ?_
    rw [hc] at hfault
    obtain rfl := Item.eq_invalid_of_fault hfault
    exact hleads.singleLine_invalid
  rwa [Diagnostic.singleLine_line_iff, Fault.message_diagnostic]

/-- **What the lines about errors tell.**  Two locations have the same short form exactly if they
agree in file name, line and column, and two diagnostics have the same form of one line exactly if
they agree in line, column and message, whatever texts and numbers they hold.  After a pass a
session answers the lines about the errors of its source.  Each of them is a single line, and tells
where an error is, of which kind, and which character is invalid if one is: two lines, of any two
sources, are the same exactly if all this is the same, and so are all the lines of two sources, one
by one. -/
theorem error_lines_faithful :
    (∀ l l' : Location, l.summary = l'.summary ↔
      l.file = l'.file ∧ l.line = l'.line ∧ l.column = l'.column) ∧
    (∀ d d' : Diagnostic, d.line = d'.line ↔ d.location.line = d'.location.line ∧
      d.location.column = d'.location.column ∧ d.message = d'.message) ∧
    (∀ s : Session, ((s.step .runPass).1.step .errors).2 =
      .ok (.lines (errorLines s.source s.file))) ∧
    (∀ source file source' file' : String,
      (∀ d ∈ (pass source file).errors, ∀ d' ∈ (pass source' file').errors,
        d.line = d'.line ↔ Diagnostic.Alike source source' d d') ∧
      (errorLines source file = errorLines source' file' ↔
        List.Forall₂ (Diagnostic.Alike source source') (pass source file).errors
          (pass source' file').errors)) ∧
    ∀ source file : String, ∀ text ∈ errorLines source file, Text.SingleLine text.toList := by
  refine ⟨fun l l' => Location.summary_eq_iff, fun d d' => Diagnostic.line_eq_iff, fun s => rfl, ?_,
    fun source file text => singleLine_of_mem_errorLines⟩
  intro source file source' file'
  exact ⟨fun d hd d' hd' => Diagnostic.line_eq_iff_alike hd hd', errorLines_eq_iff⟩

/-- Two sources with the same lines.  The quote that is missing is another one, which the help text
says and the line does not. -/
theorem error_lines_faithful_other_quote :
    let source := "x = 1 $\n 'open"
    let source' := "y + 2 $ # more\n \"open"
    let text := "Erreur lexicale ligne 1, colonne 7: Caractère invalide '$'"
    let d := Fault.diagnostic (.unterminatedString "'") ⟨"f:1", 2, 2, 9⟩
    let d' := Fault.diagnostic (.unterminatedString "\"") ⟨"g", 2, 2, 16⟩
    errorLines source "f:1" = errorLines source' "g" ∧
      List.Forall₂ (Diagnostic.Alike source source') (pass source "f:1").errors
        (pass source' "g").errors ∧
      d ∈ (pass source "f:1").errors ∧ d' ∈ (pass source' "g").errors ∧ d.help ≠ d'.help ∧
      Diagnostic.Alike source source' d d' ∧
      text ∈ errorLines source "f:1" ∧ Text.SingleLine text.toList := by
  intro source source' text d d'
  have hlines : errorLines source "f:1" = errorLines source' "g" := by decide +kernel
  have hd : d ∈ (pass source "f:1").errors := by decide +kernel
  have hd' : d' ∈ (pass source' "g").errors := by decide +kernel
  have hhelp : d.help ≠ d'.help := by decide +kernel
  have hline : d.line = d'.line := by decide +kernel
  have htext : text ∈ errorLines source "f:1" := by decide +kernel
  obtain ⟨-, -, -, halike, hsingle⟩ := error_lines_faithful
  obtain ⟨hone, hall⟩ := halike source "f:1" source' "g"
  exact ⟨hlines, hall.mp hlines, hd, hd', hhelp, (hone d hd d' hd').mp hline, htext,
    hsingle source "f:1" text htext⟩

end LessonLexer
