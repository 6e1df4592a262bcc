import ChatTranscript.Text.Basic

/-!
# Scanning from the front

How a scan goes on after a match, and how it passes over text in which its rule finds nothing.

## Main definitions

* `Text.Skips`: a rule finds nothing that starts in a text.
-/

namespace ChatTranscript

namespace Text

variable {α : Type} {rule : Text → Option (α × Text)}

theorem scanFrom_skip (skipped rest : Text) :
    scanFrom rule skipped.length (skipped ++ rest) = scan rule rest := by
  induction skipped with
  | nil => rfl
  | cons c skipped ih =>
    simp only [List.length_cons, List.cons_append, scanFrom]
    exact ih

/-- After a match the scan goes on with the text that follows it. -/
theorem scan_found {value : α} {text rest : Text} (notEmpty : text ≠ [])
    (read : rule (text ++ rest) = some (value, rest)) :
    scan rule (text ++ rest) = .found text value :: scan rule rest := by
  obtain ⟨c, inner, rfl⟩ := List.exists_cons_of_ne_nil notEmpty
  rw [List.cons_append] at read ⊢
  have width : (inner ++ rest).length - rest.length = inner.length := by simp
  rw [scan, scanFrom, read]
  simp only [width, scanFrom_skip]
  simp

theorem scan_plain {c : Char} {rest : Text} (read : rule (c :: rest) = none) :
    scan rule (c :: rest) = Piece.push c (scan rule rest) := by
  rw [scan, scanFrom, read]
  rfl

/-- Plain characters add nothing where plain pieces are passed over. -/
theorem filterMap_push {β : Type} {read : Piece α → Option β}
    (plain : ∀ text, read (.plain text) = none) (c : Char) (pieces : List (Piece α)) :
    (Piece.push c pieces).filterMap read = pieces.filterMap read := by
  match pieces with
  | [] => simp [Piece.push, plain]
  | .plain _ :: _ => simp [Piece.push, plain]
  | .found _ _ :: _ => simp [Piece.push, plain]

/-! ## text without matches -/

/-- The rule finds nothing that starts in the text, whatever follows the text. -/
def Skips {β : Type} (rule : Text → Option β) : Text → Prop
  | [] => True
  | c :: text => (∀ rest, rule (c :: (text ++ rest)) = none) ∧ Skips rule text

theorem Skips.append {β : Type} {rule : Text → Option β} {text other : Text}
    (h : Skips rule text) (g : Skips rule other) : Skips rule (text ++ other) := by
  induction text with
  | nil => exact g
  | cons c text ih =>
    obtain ⟨first, later⟩ := h
    refine ⟨fun rest => ?_, ih later⟩
    have read := first (other ++ rest)
    rw [← List.append_assoc] at read
    exact read

end Text

end ChatTranscript
