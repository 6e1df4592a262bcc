import ChatTranscript.Markup.Render
import ChatTranscript.Proofs.Markup.Alone
import ChatTranscript.Proofs.Text.PercentEncoding
import Mathlib.Algebra.Order.BigOperators.Group.List
import Mathlib.Algebra.Order.Group.Nat

/-!
# Text that rendering leaves alone

A literal is shown as it is written, and markup is always shown longer than it is written. So the
fragments of several tokens cannot make up the text they stand for, and a text comes out unchanged
exactly if no rule reads anything in it.

## Main statements

* `Markup.Token.length_print_lt_render`: markup is shown longer than it is written.
* `Markup.render_slices`: a text is shown slice by slice.
* `Markup.render_eq_self_iff`: the texts that come out unchanged are those without markup.
-/

namespace ChatTranscript

namespace Markup

open Text (Piece)

variable {text : Text} {token : Token} {kind : Kind} {slice : Piece Token}

/-! ## lengths -/

/-- Markup is shown longer than it is written. -/
theorem Token.length_print_lt_render (viewer : Text) (markup : token.kind? ≠ none) :
    token.print.length < (token.render viewer).length := by
  -- the frame that is written is shorter than a single part of the frame that is shown
  cases token with
  | literal text => exact absurd rfl markup
  | image url =>
    have frame : ("[:image::".toList ++ closer).length <
        "<img class=\"chatMedia\" src=\"".toList.length := by decide
    unfold render renderImage
    simp only [print_image, List.length_append] at frame ⊢
    omega
  | chat title path =>
    have frame : ("[:chat:(".toList ++ ")::".toList ++ closer).length <
        "    <i class=\"fa fa-database\"></i>\n".toList.length := by decide
    have encoded := PercentEncoding.length_le_encodeComponent path
    unfold render renderChat viewerLink
    simp only [print_chat, List.length_append] at frame ⊢
    omega
  | link url =>
    have frame : ("[:a::".toList ++ closer).length <
        "\" class=\"chatLink\" target=\"_blank\">".toList.length := by decide
    unfold render renderLink
    simp only [print_link, List.length_append] at frame ⊢
    omega
  | mention name =>
    have frame : ("[:call::@".toList ++ closer).length <
        "<span class=\"chatCall\">@".toList.length := by decide
    unfold render renderMention
    simp only [print_mention, List.length_append] at frame ⊢
    omega
  | quote user quoted =>
    have frame : ("[:rep:[".toList ++ "]:".toList ++ closer).length <
        "    <i class=\"fa fa-share-square-o\"></i>\n    <span>".toList.length := by decide
    unfold render renderQuote
    simp only [print_quote, List.length_append] at frame ⊢
    omega

/-! ## where markup is written -/

/-- Markup of a kind is written in a text exactly where its rule reads something. -/
theorem Kind.missing_iff :
    kind.Missing text ↔ ∀ rest, rest <:+ text → kind.rule rest = none := by
  constructor
  · intro missing rest ends
    exact missing.unread ends
  · intro unread token same fits written
    obtain ⟨rest, front, ends⟩ := List.infix_iff_prefix_suffix.1 written
    exact Kind.not_prefix_of_unread (unread rest ends) same fits front

/-- Where no slice is markup, all kinds are missing from the text. -/
theorem missing_of_plain_slices (plain : ∀ slice ∈ slices text, slice.isFound = false)
    (kind : Kind) : kind.Missing text := by
  obtain ⟨whole, -, -, apart⟩ := (slices_isSplit text).1
  cases pieces : slices text with
  | nil =>
    rw [pieces] at whole
    exact whole ▸ kind.missing_nil
  | cons slice later =>
    rw [pieces] at plain apart whole
    cases later with
    | nil =>
      cases slice with
      | plain part =>
        obtain rfl : part = text := by simpa [Piece.text] using whole
        exact missing_of_plain (pieces ▸ List.mem_cons_self) kind
      | found stretch token => cases plain _ List.mem_cons_self
    | cons next later =>
      -- one of two neighbours would have to be markup
      obtain markup | markup := (List.isChain_cons_cons.1 apart).1
      · rw [plain slice (by simp)] at markup
        cases markup
      · rw [plain next (by simp)] at markup
        cases markup

/-! ## rendering -/

theorem render_of_missing (viewer : Text) (missing : ∀ kind : Kind, kind.Missing text) :
    render viewer text = text := by
  cases text with
  | nil => rfl
  | cons c rest =>
    rw [render, tokenize_missing missing (List.cons_ne_nil c rest)]
    exact List.append_nil _

/-- A slice is shown by itself as it is shown within the text. -/
theorem render_slice (viewer : Text) (member : slice ∈ slices text) :
    render viewer slice.text = (Token.ofPiece slice).render viewer := by
  rw [render, tokenize_slice member]
  exact List.append_nil _

theorem render_plain_slice (viewer : Text) (member : slice ∈ slices text)
    (plain : slice.isFound = false) : render viewer slice.text = slice.text := by
  rw [render_slice viewer member]
  cases slice with
  | plain part => rfl
  | found stretch token => cases plain

theorem length_slice_lt_render (viewer : Text) (member : slice ∈ slices text)
    (found : slice.isFound = true) : slice.text.length < (render viewer slice.text).length := by
  rw [render_slice viewer member]
  cases slice with
  | plain part => cases found
  | found stretch token =>
    obtain ⟨fits, rfl⟩ := (slices_isSplit text).1.holds stretch token member
    exact Token.length_print_lt_render viewer fits.kind?_ne_none

theorem length_slice_le_render (viewer : Text) (member : slice ∈ slices text) :
    slice.text.length ≤ (render viewer slice.text).length := by
  cases found : slice.isFound with
  | false => rw [render_plain_slice viewer member found]
  | true => exact (length_slice_lt_render viewer member found).le

theorem render_slice_eq_iff (viewer : Text) (member : slice ∈ slices text) :
    render viewer slice.text = slice.text ↔ slice.isFound = false := by
  refine ⟨fun same => ?_, render_plain_slice viewer member⟩
  by_contra found
  have longer := length_slice_lt_render viewer member (Bool.eq_true_of_not_eq_false found)
  exact longer.ne' (congrArg List.length same)

/-- A text is shown slice by slice. -/
theorem render_slices (viewer text : Text) :
    render viewer text = (slices text).flatMap fun slice => render viewer slice.text := by
  rw [render, (slices_isSplit text).2, List.flatMap_map]
  exact List.flatMap_congr fun slice member => (render_slice viewer member).symm

/-- A slice that is markup makes the whole longer. -/
theorem length_lt_render (viewer : Text) (member : slice ∈ slices text)
    (found : slice.isFound = true) : text.length < (render viewer text).length := by
  have whole := congrArg List.length (slices_isSplit text).1.whole
  rw [render_slices, ← whole, List.length_flatMap, List.length_flatMap]
  apply List.sum_lt_sum
  · intro other known
    exact length_slice_le_render viewer known
  · exact ⟨slice, member, length_slice_lt_render viewer member found⟩

/-- A text comes out unchanged exactly if no rule reads anything in it. In any case each of its
slices is shown by itself, and exactly the literal ones stay as they are. -/
theorem render_eq_self_iff (viewer text : Text) :
    (render viewer text = text ↔ ∀ rule ∈ rules, ∀ rest, rest <:+ text → rule rest = none) ∧
    render viewer text = (slices text).flatMap (fun slice => render viewer slice.text) ∧
    ∀ slice ∈ slices text, (render viewer slice.text = slice.text ↔ slice.isFound = false) := by
  refine ⟨⟨fun same => ?_, fun unread => ?_⟩, render_slices viewer text,
    fun slice => render_slice_eq_iff viewer⟩
  · have plain : ∀ slice ∈ slices text, slice.isFound = false := by
      intro slice member
      by_contra found
      have longer := length_lt_render viewer member (Bool.eq_true_of_not_eq_false found)
      exact longer.ne' (congrArg List.length same)
    intro rule known
    obtain ⟨kind, -, rfl⟩ := List.mem_map.1 (rules_eq ▸ known)
    exact Kind.missing_iff.1 (missing_of_plain_slices plain kind)
  · apply render_of_missing
    intro kind
    refine Kind.missing_iff.2 (unread kind.rule ?_)
    rw [rules_eq]
    exact List.mem_map_of_mem kind.mem_all

/-- A mention without its sign is literal, and stays as it is with what looks like HTML. -/
example : render defaultViewer "<b>[:call::bob::]</b>".toList = "<b>[:call::bob::]</b>".toList := by
  decide +kernel

end Markup

end ChatTranscript
