import ChatTranscript.Proofs.Text.Scan
import Mathlib.Data.List.Chain

/-!
# The pieces of a scan

A scan loses nothing: its pieces are stretches of the text in order, none of them is empty, and no
two plain ones stand side by side.

## Main definitions

* `Text.Reads`: a rule that reads a stretch from the front of a text.
* `Text.IsSplit`: pieces that make up a text.

## Main statements

* `Text.scan_isSplit`: the pieces of a scan make up the text.
-/

namespace ChatTranscript

namespace Text

variable {α : Type} {rule : Text → Option (α × Text)} {related : Text → α → Prop} {text rest : Text}
  {pieces : List (Piece α)}

/-- The rule reads a stretch that is not empty, and the value is related to the stretch. -/
def Reads (related : Text → α → Prop) (rule : Text → Option (α × Text)) : Prop :=
  ∀ text value rest, rule text = some (value, rest) →
    ∃ stretch, stretch ≠ [] ∧ text = stretch ++ rest ∧ related stretch value

/-- What holds of the pieces of every scan: they go on after a match, and a character that starts
no match is plain. -/
theorem scan_induction (reads : Reads related rule) {motive : Text → List (Piece α) → Prop}
    (nil : motive [] [])
    (plain : ∀ c rest, rule (c :: rest) = none → motive rest (scan rule rest) →
      motive (c :: rest) (Piece.push c (scan rule rest)))
    (found : ∀ stretch value rest, stretch ≠ [] → related stretch value →
      motive rest (scan rule rest) →
        motive (stretch ++ rest) (.found stretch value :: scan rule rest))
    (text : Text) : motive text (scan rule text) := by
  -- a match takes more than one character, so the induction is on the length
  induction length : text.length using Nat.strong_induction_on generalizing text with
  | h n ih =>
    cases text with
    | nil => exact nil
    | cons c rest =>
      cases read : rule (c :: rest) with
      | none =>
        rw [scan_plain read]
        exact plain c rest read (ih rest.length (by simp [← length]) rest rfl)
      | some result =>
        obtain ⟨value, after⟩ := result
        obtain ⟨stretch, notEmpty, split, holds⟩ := reads _ _ _ read
        have shorter : after.length < n := by
          have positive := List.length_pos_of_ne_nil notEmpty
          rw [← length, split, List.length_append]
          omega
        rw [split] at read ⊢
        rw [scan_found notEmpty read]
        exact found stretch value after notEmpty holds (ih after.length shorter after rfl)

/-! ## pieces that make up a text -/

def Piece.isFound : Piece α → Bool
  | .plain _ => false
  | .found _ _ => true

/-- The pieces make up the text, and each match is related to its value. -/
structure IsSplit (related : Text → α → Prop) (text : Text) (pieces : List (Piece α)) : Prop where
  whole : pieces.flatMap Piece.text = text
  notEmpty : ∀ piece ∈ pieces, piece.text ≠ []
  holds : ∀ stretch value, Piece.found stretch value ∈ pieces → related stretch value
  apart : pieces.IsChain fun left right => left.isFound = true ∨ right.isFound = true

namespace IsSplit

theorem nil : IsSplit related [] ([] : List (Piece α)) :=
  ⟨rfl, by simp, by simp, .nil⟩

theorem found {stretch : Text} {value : α} (notEmpty : stretch ≠ []) (holds : related stretch value)
    (h : IsSplit related rest pieces) :
    IsSplit related (stretch ++ rest) (.found stretch value :: pieces) where
  whole := by rw [List.flatMap_cons, h.whole]; rfl
  notEmpty := List.forall_mem_cons.2 ⟨notEmpty, h.notEmpty⟩
  holds := by
    intro other value' member
    obtain same | later := List.mem_cons.1 member
    · cases same
      exact holds
    · exact h.holds other value' later
  apart := h.apart.cons fun _ _ => .inl rfl

theorem push (c : Char) (h : IsSplit related rest pieces) :
    IsSplit related (c :: rest) (Piece.push c pieces) := by
  obtain ⟨whole, notEmpty, holds, apart⟩ := h
  match pieces with
  | [] => exact ⟨by simpa [Piece.push, Piece.text] using whole, by simp [Piece.push, Piece.text],
      by simp [Piece.push], .singleton _⟩
  | .plain text :: pieces =>
    refine ⟨by simpa [Piece.push, Piece.text] using whole, ?_, ?_, ?_⟩
    · exact List.forall_mem_cons.2 ⟨by simp [Piece.text], (List.forall_mem_cons.1 notEmpty).2⟩
    · intro stretch value member
      refine holds stretch value ?_
      simpa [Piece.push] using member
    · exact apart.tail.cons apart.rel_head?
  | .found stretch value :: pieces =>
    refine ⟨by simpa [Piece.push, Piece.text] using whole, ?_, ?_, ?_⟩
    · exact List.forall_mem_cons.2 ⟨by simp [Piece.text], notEmpty⟩
    · intro other value' member
      refine holds other value' ?_
      simpa [Piece.push] using member
    · exact apart.cons fun piece member => by
        cases member
        exact .inr rfl

end IsSplit

/-- The pieces of a scan make up the text. -/
theorem scan_isSplit (reads : Reads related rule) (text : Text) :
    IsSplit related text (scan rule text) :=
  scan_induction reads .nil (fun c _ _ h => h.push c)
    (fun _ _ _ notEmpty holds h => h.found notEmpty holds) text

/-- Where the rule reads nothing at the starts within a text, the text stays plain. -/
theorem scan_passes
    (unread : ∀ front back, text = front ++ back → back ≠ [] → rule (back ++ rest) = none) :
    scan rule (text ++ rest) = text.foldr Piece.push (scan rule rest) := by
  induction text with
  | nil => rfl
  | cons c text ih =>
    have first := unread [] (c :: text) rfl (List.cons_ne_nil c text)
    rw [List.foldr_cons, ← ih fun front back split => unread (c :: front) back (by rw [split]; rfl)]
    exact scan_plain first

/-! ## scanning again -/

/-- Scans a plain piece by another rule; a match stays. -/
def Piece.rescan (rule : Text → Option (α × Text)) : Piece α → List (Piece α)
  | .plain text => scan rule text
  | piece => [piece]

theorem isChain_rescan (reads : Reads related rule)
    (apart : pieces.IsChain fun left right => left.isFound = true ∨ right.isFound = true) :
    (pieces.flatMap (Piece.rescan rule)).IsChain
      fun left right => left.isFound = true ∨ right.isFound = true := by
  induction pieces with
  | nil => exact .nil
  | cons piece pieces ih =>
    rw [List.flatMap_cons]
    have later := ih apart.tail
    cases piece with
    | found stretch value => exact later.cons fun _ _ => .inl rfl
    | plain text =>
      refine (scan_isSplit reads text).apart.append later fun left _ right first => .inr ?_
      -- what follows a plain piece is a match, and stays
      cases pieces with
      | nil => cases first
      | cons next pieces =>
        cases next with
        | plain other => simp [Piece.isFound] at apart
        | found stretch value =>
          cases first
          rfl

theorem IsSplit.rescan (reads : Reads related rule) (h : IsSplit related text pieces) :
    IsSplit related text (pieces.flatMap (Piece.rescan rule)) where
  whole := by
    rw [List.flatMap_assoc, ← h.whole]
    congr 1
    funext piece
    cases piece with
    | plain text => exact (scan_isSplit reads text).whole
    | found stretch value => simp [Piece.rescan]
  notEmpty := by
    intro piece member
    obtain ⟨source, known, member⟩ := List.mem_flatMap.1 member
    cases source with
    | plain text => exact (scan_isSplit reads text).notEmpty piece member
    | found stretch value =>
      obtain rfl := List.mem_singleton.1 member
      exact h.notEmpty _ known
  holds := by
    intro stretch value member
    obtain ⟨source, known, member⟩ := List.mem_flatMap.1 member
    cases source with
    | plain text => exact (scan_isSplit reads text).holds stretch value member
    | found stretch value =>
      cases List.mem_singleton.1 member
      exact h.holds _ _ known
  apart := isChain_rescan reads h.apart

end Text

end ChatTranscript
