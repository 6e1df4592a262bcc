import ChatTranscript.Json.Reader
import Mathlib.Data.List.Infix
import Mathlib.Data.List.TakeWhile

/-!
# Integers that are too long to be read

Every reader goes forward in its text: what it leaves is an end of the text. So an integer of too
many digits, at which the reading of a text stops, stands in that text.

## Main definitions

* `Text.HasRun`: so many characters of a kind in a row.
* `Json.Advances`: a reader leaves an end of its text, or stops at what stands in it.

## Main statements

* `Json.hasRun_of_read`: a text that is refused for an integer has its digits in a row.
* `Json.read_ones`: there are texts that are refused so.
-/

namespace ChatTranscript

namespace Text

/-- So many characters of a kind stand in a row in the text. -/
def HasRun (p : Char → Bool) (count : Nat) (text : Text) : Prop :=
  ∃ run, run <:+: text ∧ run.length = count ∧ ∀ c ∈ run, p c = true

theorem HasRun.of_suffix {p : Char → Bool} {count : Nat} {text rest : Text}
    (h : HasRun p count rest) (suffix : rest <:+ text) : HasRun p count text := by
  obtain ⟨run, inside, length, all⟩ := h
  exact ⟨run, inside.trans suffix.isInfix, length, all⟩

end Text

namespace Json

variable {α β : Type} {text rest : Text} {result : Except Stop (α × Text)}

/-- A reader leaves an end of its text, or stops. For an integer it stops at so many digits in a row
only. -/
def Advances (text : Text) : Except Stop (α × Text) → Prop
  | .ok (_, rest) => rest <:+ text
  | .error (.malformed _ _) => True
  | .error (.tooManyDigits count) => maxDigits < count ∧ text.HasRun isAsciiDigit count

namespace Advances

theorem of_suffix (h : Advances rest result) (suffix : rest <:+ text) : Advances text result := by
  match result with
  | .ok (_, _) => exact List.IsSuffix.trans h suffix
  | .error (.malformed _ _) => trivial
  | .error (.tooManyDigits _) => exact ⟨h.1, h.2.of_suffix suffix⟩

theorem bind {next : α × Text → Except Stop (β × Text)} (h : Advances text result)
    (goesOn : ∀ value rest, result = .ok (value, rest) → Advances rest (next (value, rest))) :
    Advances text (result >>= next) := by
  match result with
  | .ok (value, rest) => exact (goesOn value rest rfl).of_suffix h
  | .error (.malformed _ _) => trivial
  | .error (.tooManyDigits _) => exact h

theorem map (f : α → β) (h : Advances text result) :
    Advances text (result.map fun (value, rest) => (f value, rest)) := by
  match result with
  | .ok (_, _) => exact h
  | .error (.malformed _ _) => trivial
  | .error (.tooManyDigits _) => exact h

end Advances

/-! ## strings -/

theorem advances_readString (start : Nat) (text : Text) :
    Advances text (readString start text) := by
  fun_induction readString start text
  case case1 | case3 | case4 | case5 | case10 | case12 | case13 => trivial
  case case2 => exact List.suffix_cons _ _
  case case6 ih | case7 ih | case8 ih | case9 ih | case11 ih | case14 ih =>
    exact (ih.map _).of_suffix (by simp [List.suffix_cons_iff])

/-! ## numbers -/

theorem readWhole_eq {digits : Text} (h : readWhole text = some (digits, rest)) :
    text = digits ++ rest ∧ ∀ c ∈ digits, isAsciiDigit c = true := by
  unfold readWhole at h
  split at h
  · cases h
    exact ⟨rfl, by simp [isAsciiDigit]⟩
  · split at h
    · cases h
    · rename_i span
      cases h
      obtain ⟨rfl, rfl⟩ := Prod.mk.inj span
      exact ⟨List.takeWhile_append_dropWhile.symm, fun c member => List.mem_takeWhile_imp member⟩

theorem suffix_readFraction (text : Text) : (readFraction text).2 <:+ text := by
  unfold readFraction
  split
  · split
    · exact List.suffix_rfl
    · rename_i span
      obtain ⟨rfl, rfl⟩ := Prod.mk.inj span
      exact (List.dropWhile_suffix _).trans (List.suffix_cons _ _)
  · exact List.suffix_rfl

theorem suffix_readExponentDigits {negative : Bool} {exponent : Int}
    (h : readExponentDigits negative text = some (exponent, rest)) : rest <:+ text := by
  unfold readExponentDigits at h
  split at h
  · cases h
  · rename_i span
    cases h
    obtain ⟨rfl, rfl⟩ := Prod.mk.inj span
    exact List.dropWhile_suffix _

theorem suffix_readExponent {exponent : Int} (h : readExponent text = some (exponent, rest)) :
    rest <:+ text := by
  unfold readExponent at h
  split at h
  all_goals first
    | cases h
    | exact (suffix_readExponentDigits h).trans (by simp [List.suffix_cons_iff])

theorem readUnsigned_eq {negative : Bool} {token : NumberToken}
    (h : readUnsigned negative text = some (token, rest)) :
    rest <:+ text ∧ token.whole <:+: text ∧ ∀ c ∈ token.whole, isAsciiDigit c = true := by
  obtain ⟨⟨whole, tail⟩, read, found⟩ := Option.map_eq_some_iff.1 h
  obtain ⟨rfl, digits⟩ := readWhole_eq read
  have fraction := suffix_readFraction tail
  dsimp only at found
  split at found
  · rename_i exponent
    cases found
    have tail := ((suffix_readExponent exponent).trans fraction).trans (List.suffix_append whole _)
    exact ⟨tail, (List.prefix_append _ _).isInfix, digits⟩
  · cases found
    exact ⟨fraction.trans (List.suffix_append whole _), (List.prefix_append _ _).isInfix, digits⟩

theorem readNumber?_eq {token : NumberToken} (h : readNumber? text = some (token, rest)) :
    rest <:+ text ∧ token.whole <:+: text ∧ ∀ c ∈ token.whole, isAsciiDigit c = true := by
  unfold readNumber? at h
  split at h
  · obtain ⟨suffix, inside, digits⟩ := readUnsigned_eq h
    exact ⟨suffix.trans (List.suffix_cons _ _), inside.trans (List.suffix_cons _ _).isInfix, digits⟩
  · exact readUnsigned_eq h

theorem advances_readAtom (text : Text) : Advances text (readAtom text) := by
  unfold readAtom
  split
  · rename_i found eq
    obtain ⟨⟨word, value⟩, -, eq⟩ := List.exists_of_findSome?_eq_some eq
    obtain ⟨after, front, rfl⟩ := Option.map_eq_some_iff.1 eq
    exact ⟨word, (List.isPrefixOf?_eq_some_iff_append_eq.1 front)⟩
  · split
    · rename_i token rest read
      obtain ⟨suffix, inside, digits⟩ := readNumber?_eq read
      unfold NumberToken.value
      split
      · split
        · rename_i many
          exact ⟨many, _, inside, rfl, digits⟩
        · exact suffix
      · exact suffix
    · trivial

/-! ## values -/

theorem suffix_skipLayout (text : Text) : skipLayout text <:+ text := List.dropWhile_suffix _

theorem advances_readKey (text : Text) : Advances text (readKey text) := by
  unfold readKey
  split
  · exact (advances_readString _ _).of_suffix (List.suffix_cons _ _)
  · trivial

theorem readColon_cases (text : Text) :
    (∃ rest, readColon text = .ok rest ∧ rest <:+ text) ∨
      ∃ left, readColon text = .error (.malformed .colon left) := by
  unfold readColon
  split
  · exact .inl ⟨_, rfl, (suffix_skipLayout _).trans (List.suffix_cons _ _)⟩
  · exact .inr ⟨_, rfl⟩

theorem suffix_of_skipLayout {c : Char} (h : skipLayout text = c :: rest) : rest <:+ text :=
  (List.suffix_cons c rest).trans (h ▸ suffix_skipLayout text)

section

variable {fuel : Nat} (value : ∀ text, Advances text (readValue fuel text))
  (items : ∀ text, Advances text (readItems fuel text))
  (pairs : ∀ text, Advances text (readPairs fuel text))

include items pairs in
theorem advances_readValue_succ (text : Text) : Advances text (readValue (fuel + 1) text) := by
  unfold readValue
  split
  · rename_i rest
    exact ((advances_readString _ rest).map _).of_suffix (List.suffix_cons _ _)
  · rename_i rest
    refine Advances.of_suffix ?_ (List.suffix_cons '[' rest)
    split
    · rename_i skipped
      exact suffix_of_skipLayout skipped
    · exact ((items _).map _).of_suffix (suffix_skipLayout rest)
  · rename_i rest
    refine Advances.of_suffix ?_ (List.suffix_cons '{' rest)
    split
    · rename_i skipped
      exact suffix_of_skipLayout skipped
    · exact ((pairs _).map fun found => obj (Fields.ofPairs found)).of_suffix
        (suffix_skipLayout rest)
  · exact advances_readAtom _

include value items in
theorem advances_readItems_succ (text : Text) : Advances text (readItems (fuel + 1) text) := by
  rw [readItems]
  refine (value text).bind fun item rest _ => ?_
  dsimp only
  split
  · rename_i skipped
    exact suffix_of_skipLayout skipped
  · rename_i more skipped
    refine ((items _).bind fun _ after _ => ?_).of_suffix
      ((suffix_skipLayout more).trans (suffix_of_skipLayout skipped))
    exact List.suffix_refl after
  · trivial

include value pairs in
theorem advances_readPairs_succ (text : Text) : Advances text (readPairs (fuel + 1) text) := by
  rw [readPairs]
  refine (advances_readKey text).bind fun key rest _ => ?_
  obtain ⟨behind, colon, suffix⟩ | ⟨left, colon⟩ := readColon_cases (skipLayout rest)
  · refine Advances.of_suffix ?_ (suffix.trans (suffix_skipLayout rest))
    simp only [colon]
    refine (value behind).bind fun item rest _ => ?_
    dsimp only
    split
    · rename_i skipped
      exact suffix_of_skipLayout skipped
    · rename_i more skipped
      refine ((pairs _).bind fun _ after _ => ?_).of_suffix
        ((suffix_skipLayout more).trans (suffix_of_skipLayout skipped))
      exact List.suffix_refl after
    · trivial
  · simp only [colon]
    trivial

end

/-- The induction is on the bound of the calls, which the three readers share. -/
theorem advances_readValue (fuel : Nat) :
    (∀ text, Advances text (readValue fuel text)) ∧
    (∀ text, Advances text (readItems fuel text)) ∧
    (∀ text, Advances text (readPairs fuel text)) := by
  induction fuel with
  | zero => exact ⟨fun _ => trivial, fun _ => trivial, fun _ => trivial⟩
  | succ fuel ih =>
    obtain ⟨value, items, pairs⟩ := ih
    exact ⟨advances_readValue_succ items pairs, advances_readItems_succ value items,
      advances_readPairs_succ value pairs⟩

theorem advances_readAll (text : Text) :
    Advances text ((readAll text).map fun value => (value, [])) := by
  have value := ((advances_readValue (2 * text.length + 2)).1 (skipLayout text)).of_suffix
    (suffix_skipLayout text)
  unfold readAll
  split
  · trivial
  · revert value
    cases readValue (2 * text.length + 2) (skipLayout text) with
    | error stop => exact id
    | ok found =>
      intro _
      dsimp only [bind, Except.bind, pure, Except.pure]
      split
      · exact List.nil_suffix
      · trivial

/-- A text that is refused for an integer has its digits in a row, and they are too many. -/
theorem hasRun_of_read {count : Nat} (h : read text = .error (.tooManyDigits count)) :
    maxDigits < count ∧ text.HasRun isAsciiDigit count := by
  have advances := advances_readAll text
  unfold read at h
  split at h
  · cases h
  · cases h
  · rename_i many stopped
    cases h
    rwa [stopped] at advances

/-- One integer is refused for its digits. -/
theorem read_ones {count : Nat} (large : maxDigits < count) :
    read (List.replicate count '1') = .error (.tooManyDigits count) := by
  obtain ⟨n, rfl⟩ : ∃ n, count = n + 1 := ⟨count - 1, by omega⟩
  have number : readNumber? ('1' :: List.replicate n '1') =
      some (⟨false, '1' :: List.replicate n '1', [], none⟩, []) := by
    simp [readNumber?, readUnsigned, readWhole, Text.spanWhile, readFraction, readExponent,
      isAsciiDigit]
  have atom : readAtom ('1' :: List.replicate n '1') = .error (.tooManyDigits (n + 1)) := by
    unfold readAtom
    split
    · rename_i word
      cases word
    · simp [number, NumberToken.value, large, Except.map]
  have value (fuel : Nat) : readValue (fuel + 1) ('1' :: List.replicate n '1') =
      .error (.tooManyDigits (n + 1)) := by
    simp [readValue, atom]
  simp [read, readAll, List.replicate_succ, skipLayout, isLayout, value, bind, Except.bind]

end Json

end ChatTranscript
