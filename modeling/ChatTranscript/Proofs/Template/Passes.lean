import ChatTranscript.Proofs.Results
import ChatTranscript.Proofs.Text.Scan
import ChatTranscript.Template.Render

/-!
# One pass over a template

A pass replaces what its rule finds and keeps the text in between. So it depends on nothing but the
text and what is put in place of each find.

## Main definitions

* `Text.finds`: what a rule finds in a text, in order.

## Main statements

* `Template.replace_scan_skips`, `Template.replace_scan_found`: a pass goes on behind a text.
* `Template.replace_congr`: two passes that replace each find alike give the same text.
-/

namespace ChatTranscript

namespace Text

variable {α : Type} {rule : Text → Option (α × Text)} {text rest : Text}

def Piece.value? : Piece α → Option α
  | .plain _ => none
  | .found _ value => some value

/-- What a rule finds in a text, in order. -/
def finds (rule : Text → Option (α × Text)) (text : Text) : List α :=
  (scan rule text).filterMap Piece.value?

theorem finds_skips (h : Skips rule text) (rest : Text) :
    finds rule (text ++ rest) = finds rule rest := by
  induction text with
  | nil => rfl
  | cons c text ih =>
    rw [finds, List.cons_append, scan_plain (h.1 rest), filterMap_push fun _ => rfl]
    exact ih h.2

theorem finds_found {value : α} (notEmpty : text ≠ [])
    (read : rule (text ++ rest) = some (value, rest)) :
    finds rule (text ++ rest) = value :: finds rule rest := by
  rw [finds, scan_found notEmpty read]
  rfl

end Text

namespace Template

variable {α : Type} {rule : Text → Option (α × Text)} {value other : α → Except Fault Text}
  {text rest : Text}

theorem replace_push (c : Char) (pieces : List (Text.Piece α)) :
    replace value (Text.Piece.push c pieces) = (replace value pieces).map (c :: ·) := by
  cases pieces with
  | nil => rfl
  | cons piece rest =>
    cases piece with
    | plain text =>
      simp only [Text.Piece.push, replace]
      cases replace value rest <;> rfl
    | found text tag =>
      simp only [Text.Piece.push, replace]
      cases value tag with
      | error fault => rfl
      | ok shown => cases replace value rest <;> rfl

/-- A pass keeps text in which its rule finds nothing. -/
theorem replace_scan_skips (h : Text.Skips rule text) :
    replace value (Text.scan rule (text ++ rest)) =
      (replace value (Text.scan rule rest)).map (text ++ ·) := by
  induction text with
  | nil =>
    rw [List.nil_append]
    cases replace value (Text.scan rule rest) <;> rfl
  | cons c text ih =>
    rw [List.cons_append, Text.scan_plain (h.1 rest), replace_push, ih h.2]
    cases replace value (Text.scan rule rest) <;> rfl

theorem replace_scan_found {found : α} (notEmpty : text ≠ [])
    (read : rule (text ++ rest) = some (found, rest)) :
    replace value (Text.scan rule (text ++ rest)) = (do
      let shown ← value found
      return shown ++ (← replace value (Text.scan rule rest))) := by
  rw [Text.scan_found notEmpty read, replace]

theorem append_eq_ok {first later : Except Fault Text} {shown : Text} :
    (do
      let a ← first
      return a ++ (← later)) = .ok shown ↔
    ∃ a b, first = .ok a ∧ later = .ok b ∧ a ++ b = shown := by
  simp only [Results.bind_eq_ok, pure, Except.pure, Except.ok.injEq]
  grind

/-- Two passes that replace each find alike give the same text. -/
theorem replace_congr (h : ∀ find ∈ Text.finds rule text, value find = other find) :
    replace value (Text.scan rule text) = replace other (Text.scan rule text) := by
  unfold Text.finds at h
  generalize Text.scan rule text = pieces at h ⊢
  induction pieces with
  | nil => rfl
  | cons piece pieces ih =>
    cases piece with
    | plain text => rw [replace, replace, ih h]
    | found text tag =>
      have parts := List.forall_mem_cons.1 h
      rw [replace, replace, parts.1, ih parts.2]

end Template

end ChatTranscript
