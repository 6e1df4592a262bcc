import ChatTranscript.Text.Blank
import Mathlib.Data.List.TakeWhile

/-!
# Stripping blanks

Blanks around a text do not change what it is stripped to, and a stripped text has none at its ends.
-/

namespace ChatTranscript

namespace Text

variable {p : Char → Bool} {text left right : Text} {c : Char}

theorem trim_append (before : ∀ c ∈ left, p c = true) (after : ∀ c ∈ right, p c = true) :
    trim p (left ++ text ++ right) = trim p text := by
  unfold trim trimEnd
  rw [List.append_assoc, List.dropWhile_append_of_pos before, List.dropWhile_append]
  split
  · rename_i h
    rw [List.dropWhile_eq_nil_iff.2 after, List.isEmpty_iff.1 h]
  · rw [List.reverse_append, List.dropWhile_append_of_pos]
    intro c member
    exact after c (List.mem_reverse.1 member)

theorem length_trim_le : (trim p text).length ≤ (text.dropWhile p).length := by
  unfold trim trimEnd
  have shorter := List.length_dropWhile_le p (text.dropWhile p).reverse
  simpa using shorter

theorem strip_padded (before : ∀ c ∈ left, isBlank c = true) (after : ∀ c ∈ right, isBlank c = true)
    (stripped : strip text = text) : strip (left ++ text ++ right) = text := by
  rw [strip, trim_append before after]
  exact stripped

theorem not_blank_of_stripped (stripped : strip (c :: text) = c :: text) : isBlank c = false := by
  cases blank : isBlank c with
  | false => rfl
  | true =>
    have shorter := @length_trim_le isBlank (c :: text)
    have dropped := List.length_dropWhile_le isBlank text
    rw [List.dropWhile_cons_of_pos blank] at shorter
    rw [strip] at stripped
    rw [stripped, List.length_cons] at shorter
    omega

theorem strip_eq_self (plain : ∀ c ∈ text, isBlank c = false) : strip text = text := by
  have kept {text : Text} (plain : ∀ c ∈ text, isBlank c = false) :
      text.dropWhile isBlank = text := by
    cases text with
    | nil => rfl
    | cons c text => simp [plain c]
  have reversed : ∀ c ∈ text.reverse, isBlank c = false := fun c member =>
    plain c (List.mem_reverse.1 member)
  rw [strip, trim, kept plain, trimEnd, kept reversed, List.reverse_reverse]

theorem isBlank_of_isDigit (digit : c.isDigit = true) : isBlank c = false := by
  simp only [Char.isDigit, Bool.and_eq_true, decide_eq_true_eq] at digit
  have low : 48 ≤ c.toNat := digit.1
  have high : c.toNat ≤ 57 := digit.2
  simp only [isBlank, CharRanges.contains, CharRanges.blank, CharRanges.holds]
  grind

end Text

end ChatTranscript
