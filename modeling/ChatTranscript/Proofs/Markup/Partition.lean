import ChatTranscript.Proofs.Markup.Reading
import ChatTranscript.Proofs.Text.Pieces

/-!
# The tokens of a text make it up

Rule after rule splits the stretches that are still literal. No rule loses, repeats or moves
anything, so the text is what its tokens are written as, one after the other.

## Main definitions

* `Markup.slices`: the stretches of a text that its tokens stand for.
* `Markup.Apart`: tokens with no two literals side by side.

## Main statements

* `Markup.tokenize_partition`: the slices are the written forms of the tokens and make up the text.
-/

namespace ChatTranscript

namespace Markup

open Text (Piece IsSplit Reads)

variable {rule : Rule} {stretch text : Text} {token : Token} {pieces : List (Piece Token)}
  {kind : Kind}

/-- The stretch is the written form of a token that fits. -/
def IsWritten (stretch : Text) (token : Token) : Prop := token.Fits ∧ stretch = token.print

theorem Kind.reads (kind : Kind) : Reads IsWritten kind.rule := by
  intro text token rest read
  obtain ⟨-, fits, split⟩ := Kind.read_iff.1 read
  exact ⟨token.print, Token.print_ne_nil fits, split, fits, rfl⟩

def rescanAll (pieces : List (Piece Token)) (rule : Rule) : List (Piece Token) :=
  pieces.flatMap (Piece.rescan rule)

/-- The stretches of a text that its tokens stand for, as the rules in order leave them. -/
def slices (text : Text) : List (Piece Token) :=
  rules.foldl rescanAll (if text.isEmpty then [] else [.plain text])

theorem refineAll_ofPiece
    (written : ∀ stretch token, .found stretch token ∈ pieces → IsWritten stretch token)
    (rule : Rule) :
    refineAll (pieces.map Token.ofPiece) rule = (rescanAll pieces rule).map Token.ofPiece := by
  rw [refineAll, rescanAll, List.flatMap_map, List.map_flatMap]
  refine List.flatMap_congr fun piece member => ?_
  cases piece with
  | plain text => rfl
  | found stretch token =>
    have fits := (written stretch token member).1
    cases token with
    | literal text => exact fits.elim
    | _ => rfl

/-- Passes over the tokens are passes over the slices that they stand for. -/
theorem foldl_refineAll (kinds : List Kind) (split : IsSplit IsWritten text pieces) :
    IsSplit IsWritten text ((kinds.map Kind.rule).foldl rescanAll pieces) ∧
      (kinds.map Kind.rule).foldl refineAll (pieces.map Token.ofPiece) =
        ((kinds.map Kind.rule).foldl rescanAll pieces).map Token.ofPiece := by
  induction kinds generalizing pieces with
  | nil => exact ⟨split, rfl⟩
  | cons kind kinds ih =>
    rw [List.map_cons, List.foldl_cons, List.foldl_cons, refineAll_ofPiece split.holds]
    exact ih (split.rescan kind.reads)

theorem slices_isSplit (text : Text) :
    IsSplit IsWritten text (slices text) ∧ tokenize text = (slices text).map Token.ofPiece := by
  have start : IsSplit IsWritten text (if text.isEmpty then [] else [.plain text]) := by
    cases text with
    | nil => exact .nil
    | cons c rest => exact ⟨by simp [Piece.text], by simp [Piece.text], by simp, .singleton _⟩
  obtain ⟨split, tokens⟩ := foldl_refineAll Kind.all start
  refine ⟨split, ?_⟩
  rw [slices, tokenize, rules_eq, ← tokens]
  cases text <;> rfl

theorem isFound_eq (split : IsSplit IsWritten text pieces) {piece : Piece Token}
    (member : piece ∈ pieces) : piece.isFound = (Token.ofPiece piece).kind?.isSome := by
  cases piece with
  | plain text => rfl
  | found stretch token =>
    have fits := (split.holds stretch token member).1
    cases token with
    | literal text => exact fits.elim
    | _ => rfl

/-- No two literals stand side by side. -/
abbrev Apart (tokens : List Token) : Prop :=
  tokens.IsChain fun left right => left.kind? ≠ none ∨ right.kind? ≠ none

/-- The slices make up the text, none of them is empty, and each is the written form of its token,
so that the tokens alone give the text back. No two literals stand side by side. -/
theorem tokenize_partition (text : Text) :
    ((slices text).flatMap Piece.text = text ∧ tokenize text = (slices text).map Token.ofPiece ∧
      ∀ slice ∈ slices text, slice.text ≠ [] ∧ slice.text = (Token.ofPiece slice).print) ∧
    (tokenize text).flatMap Token.print = text ∧
    (∀ token ∈ tokenize text, token.kind? = none ∨ token.Fits) ∧
    Apart (tokenize text) := by
  obtain ⟨split, tokens⟩ := slices_isSplit text
  have written : ∀ slice ∈ slices text, slice.text = (Token.ofPiece slice).print := by
    intro slice member
    cases slice with
    | plain text => rfl
    | found stretch token => exact (split.holds stretch token member).2
  refine ⟨⟨split.whole, tokens, fun slice member => ⟨split.notEmpty slice member,
    written slice member⟩⟩, ?_, ?_, ?_⟩
  · rw [tokens, List.flatMap_map, ← List.flatMap_congr written, split.whole]
  · intro token member
    rw [tokens] at member
    obtain ⟨slice, known, rfl⟩ := List.mem_map.1 member
    cases slice with
    | plain text => exact .inl rfl
    | found stretch token => exact .inr (split.holds stretch token known).1
  · rw [tokens, Apart, List.isChain_map]
    refine split.apart.imp_of_mem_imp fun left right known known' apart => ?_
    rw [isFound_eq split known, isFound_eq split known'] at apart
    simpa [Option.isSome_iff_ne_none] using apart

/-- The link rule takes what looks like a mention, up to the first closing mark. -/
example : tokenize "[:a::https://x.y/[:call::@bob::]::]".toList =
    [.link "https://x.y/[:call::@bob".toList, .literal "::]".toList] := by
  decide +kernel

end Markup

end ChatTranscript
