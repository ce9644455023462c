import LessonLexer.Pass
import LessonLexer.Proofs.ScanSteps

/-!
# What a pass records

A pass folds the items of a scan into arrays.  In the end every item but a comment has given a
token and every faulty item a diagnostic, in the order of the items, and the arrays play no part in
it.  `tokensFrom` and `errorsFrom` are the lists as functions of a position and the text from there
on; their equations follow the scan, and `pass_tokens` and `pass_errors` say that they are what a
pass returns.
-/

namespace LessonLexer

/-! ## One item -/

/-- The token of a placed item: none of a comment. -/
def Placed.token? (file : String) (placed : Placed) : Option Token :=
  match placed.item with
  | .comment _ => none
  | item => some (item.token (placed.position.within file))

theorem Placed.token?_comment (file : String) (position : Position) (text : List Char) :
    Placed.token? file ⟨position, .comment text⟩ = none := rfl

theorem Placed.token?_eq_some {item : Item} (h : ∀ text, item ≠ .comment text) (file : String)
    (position : Position) :
    Placed.token? file ⟨position, item⟩ = some (item.token (position.within file)) := by
  cases item with
  | comment text => exact absurd rfl (h text)
  | _ => rfl

/-- The token of an item stands neither for the end nor for a comment. -/
theorem Placed.kind_ne_of_token? {file : String} {placed : Placed} {token : Token}
    (h : placed.token? file = some token) : token.kind ≠ .eof ∧ token.kind ≠ .comment := by
  obtain ⟨position, item⟩ := placed
  by_cases hcomment : ∃ text, item = .comment text
  · obtain ⟨text, rfl⟩ := hcomment
    cases h
  · have hitem : ∀ text, item ≠ .comment text := fun text h => hcomment ⟨text, h⟩
    rw [Placed.token?_eq_some hitem, Option.some.injEq] at h
    rw [← h]
    exact ⟨item.kind_ne_eof, Item.kind_ne_comment hitem⟩

/-- The diagnostic of a placed item, if it is faulty. -/
def Placed.diagnostic? (file : String) (placed : Placed) : Option Diagnostic :=
  placed.item.fault?.map fun fault => fault.diagnostic (placed.position.within file)

@[simp] theorem Record.tokens_check (file : String) (r : Record) (placed : Placed) :
    (r.check file placed).tokens = r.tokens := by
  unfold Record.check
  split <;> rfl

theorem Record.errors_check (file : String) (r : Record) (placed : Placed) :
    (r.check file placed).errors.toList = r.errors.toList ++ (placed.diagnostic? file).toList := by
  unfold Record.check Placed.diagnostic?
  split
  · rename_i fault hfault
    simp [Record.report, hfault]
  · rename_i hfault
    simp [hfault]

theorem Record.tokens_add (file : String) (r : Record) (placed : Placed) :
    (r.add file placed).tokens.toList = r.tokens.toList ++ (placed.token? file).toList := by
  obtain ⟨position, item⟩ := placed
  cases item <;> simp [Record.add, Record.emit, Placed.token?]

theorem Record.errors_add (file : String) (r : Record) (placed : Placed) :
    (r.add file placed).errors.toList = r.errors.toList ++ (placed.diagnostic? file).toList := by
  rw [← Record.errors_check]
  obtain ⟨position, item⟩ := placed
  cases item <;> rfl

/-- What one item adds to a list, all items add to it in their order. -/
theorem field_foldl_add {α : Type} (field : Record → List α) (given : Placed → Option α)
    (file : String)
    (hadd : ∀ r placed, field (r.add file placed) = field r ++ (given placed).toList)
    (items : List Placed) (r : Record) :
    field (items.foldl (Record.add file) r) = field r ++ items.filterMap given := by
  induction items generalizing r with
  | nil => simp
  | cons placed items ih =>
    rw [List.foldl_cons, ih, hadd, List.append_assoc]
    cases hgiven : given placed <;> simp [hgiven]

/-! ## All items -/

/-- The tokens of a text that begins at a position, with the one for its end. -/
def tokensFrom (file : String) (position : Position) (text : List Char) : List Token :=
  (scan position text).items.filterMap (Placed.token? file) ++
    [endToken ((position.after text).within file)]

/-- The diagnostics of a text that begins at a position. -/
def errorsFrom (file : String) (position : Position) (text : List Char) : List Diagnostic :=
  (scan position text).items.filterMap (Placed.diagnostic? file)

/-- What the first item gives comes first. -/
theorem filterMap_prepend {α : Type} (given : Placed → Option α) (placed : Placed) (s : Scan) :
    (s.prepend [placed]).items.filterMap given =
      (given placed).toList ++ s.items.filterMap given := by
  rw [Scan.prepend, List.filterMap_append, List.filterMap_cons, List.filterMap_nil]
  cases given placed <;> rfl

theorem tokensFrom_blank (file : String) (position : Position) {text : List Char}
    (h : IsBlankText text) :
    tokensFrom file position text = [endToken ((position.after text).within file)] := by
  rw [tokensFrom, scan_blank position h]
  rfl

/-- The position at the end, seen from behind an item. -/
theorem Position.after_blanks_raw (position : Position) (blanks raw rest : List Char) :
    position.after (blanks ++ (raw ++ rest)) = ((position.after blanks).after raw).after rest := by
  rw [Position.after_append, Position.after_append]

/-- A comment gives no token. -/
theorem tokensFrom_comment (file : String) (position : Position) {blanks text rest : List Char}
    (hblanks : IsBlankText blanks) (hlead : (Item.comment text).Leads rest) :
    tokensFrom file position (blanks ++ ((Item.comment text).raw ++ rest)) =
      tokensFrom file ((position.after blanks).after (Item.comment text).raw) rest := by
  rw [tokensFrom, scan_lead position hblanks hlead, Position.after_blanks_raw]
  rfl

/-- Any other item gives one. -/
theorem tokensFrom_lead (file : String) (position : Position) {blanks rest : List Char}
    {item : Item} (hitem : ∀ text, item ≠ .comment text) (hblanks : IsBlankText blanks)
    (hlead : item.Leads rest) :
    tokensFrom file position (blanks ++ (item.raw ++ rest)) =
      item.token ((position.after blanks).within file) ::
        tokensFrom file ((position.after blanks).after item.raw) rest := by
  rw [tokensFrom, scan_lead position hblanks hlead, Position.after_blanks_raw, filterMap_prepend,
    Placed.token?_eq_some hitem]
  rfl

theorem errorsFrom_blank (file : String) (position : Position) {text : List Char}
    (h : IsBlankText text) : errorsFrom file position text = [] := by
  rw [errorsFrom, scan_blank position h]
  rfl

/-- An item gives its diagnostic, if it is faulty. -/
theorem errorsFrom_lead (file : String) (position : Position) {blanks rest : List Char}
    {item : Item} (hblanks : IsBlankText blanks) (hlead : item.Leads rest) :
    errorsFrom file position (blanks ++ (item.raw ++ rest)) =
      (Placed.diagnostic? file ⟨position.after blanks, item⟩).toList ++
        errorsFrom file ((position.after blanks).after item.raw) rest := by
  rw [errorsFrom, scan_lead position hblanks hlead, filterMap_prepend]
  rfl

/-! ## How much there is -/

theorem length_tokensFrom_le (file : String) (position : Position) (text : List Char) :
    (tokensFrom file position text).length ≤ text.length + 1 := by
  have hitems := length_items_scan_le position text
  have hgiven := List.length_filterMap_le (Placed.token? file) (scan position text).items
  rw [tokensFrom, List.length_append, List.length_singleton]
  omega

theorem length_errorsFrom_le (file : String) (position : Position) (text : List Char) :
    (errorsFrom file position text).length ≤ text.length :=
  Nat.le_trans (List.length_filterMap_le _ _) (length_items_scan_le position text)

/-! ## The pass -/

/-- The tokens of a pass are those of the whole text. -/
theorem pass_tokens (source file : String) :
    (pass source file).tokens = tokensFrom file .start source.toList := by
  have hfold := field_foldl_add (fun r => r.tokens.toList) (Placed.token? file) file
    (Record.tokens_add file) (scan .start source.toList).items
  simp [pass, Record.emit, hfold, tokensFrom]

/-- The errors of a pass are those of the whole text. -/
theorem pass_errors (source file : String) :
    (pass source file).errors = errorsFrom file .start source.toList := by
  have hfold := field_foldl_add (fun r => r.errors.toList) (Placed.diagnostic? file) file
    (Record.errors_add file) (scan .start source.toList).items
  simp [pass, Record.emit, hfold, errorsFrom]

@[simp] theorem pass_finish (source file : String) :
    (pass source file).finish = Position.start.after source.toList :=
  finish_scan _ _

end LessonLexer
