import ChatTranscript.Text.Basic
import Mathlib.Data.List.Infix
import Mathlib.Data.List.TakeWhile

/-!
# Places in a text

A text is divided where a span of characters ends, where a needle stands first, or where it stands
last. A single mark stands first behind a text that does not hold it.

## Main definitions

* `Text.afterLast?`: what follows the last place of a needle.

## Main statements

* `Text.spanWhile_append`, `Text.spanWhile_mark_iff`: where a span ends.
* `Text.cut?_mark`, `Text.cut?_mark_first`: the first place of a mark.
* `Text.append_mark_eq`: the ways to split a text at a mark.
* `Text.afterLast?_last`: a needle whose mark also stands at the end of the text.
-/

namespace ChatTranscript

namespace Text

variable {p : Char → Bool} {c mark : Char} {needle inner value text front before rest after : Text}

/-! ## spans -/

theorem spanWhile_append (inside : ∀ d ∈ front, p d = true)
    (stop : ∀ c, rest.head? = some c → p c = false) :
    spanWhile p (front ++ rest) = (front, rest) := by
  rw [spanWhile, List.takeWhile_append_of_pos inside, List.dropWhile_append_of_pos inside]
  cases rest with
  | nil => simp
  | cons c rest => simp [stop c rfl]

/-- A span ends at the first character that does not belong to it. -/
theorem spanWhile_eq_cons_iff : spanWhile p text = (front, c :: rest) ↔
    text = front ++ c :: rest ∧ (∀ d ∈ front, p d = true) ∧ p c = false := by
  constructor
  · intro split
    obtain ⟨taken, dropped⟩ := Prod.mk.inj split
    have stop := List.head?_dropWhile_not p text
    rw [dropped] at stop
    refine ⟨?_, fun d member => ?_, stop⟩
    · rw [← taken, ← dropped, List.takeWhile_append_dropWhile]
    · rw [← taken] at member
      exact List.mem_takeWhile_imp member
  · rintro ⟨rfl, inside, stop⟩
    exact spanWhile_append inside fun _ first => Option.some.inj first ▸ stop

theorem spanWhile_mark_iff : spanWhile (· != mark) text = (front, c :: rest) ↔
    c = mark ∧ mark ∉ front ∧ text = front ++ mark :: rest := by
  rw [spanWhile_eq_cons_iff]
  simp only [bne_iff_ne, bne_eq_false_iff_eq]
  constructor
  · rintro ⟨rfl, inside, rfl⟩
    exact ⟨rfl, fun member => inside _ member rfl, rfl⟩
  · rintro ⟨rfl, absent, rfl⟩
    exact ⟨rfl, fun d member => ne_of_mem_of_not_mem member absent, rfl⟩

/-! ## needles -/

/-- What follows the last place where the needle stands in the text. -/
def afterLast? (needle : Text) : Text → Option Text
  | [] => needle.isPrefixOf? []
  | c :: rest => (afterLast? needle rest).or (needle.isPrefixOf? (c :: rest))

theorem afterLast?_eq_none (h : ¬ needle <:+: rest) : afterLast? needle rest = none := by
  have front {text : Text} (inside : text <:+ rest) : needle.isPrefixOf? text = none := by
    cases found : needle.isPrefixOf? text with
    | none => rfl
    | some after =>
      have starts : needle <+: text := ⟨after, List.append_eq_of_isPrefixOf?_eq_some found⟩
      exact absurd (starts.isInfix.trans inside.isInfix) h
  induction rest with
  | nil => exact front List.suffix_rfl
  | cons c rest ih =>
    have later := ih (mt (·.trans (List.suffix_cons c rest).isInfix) h) fun inside =>
      front (inside.trans (List.suffix_cons c rest))
    rw [afterLast?, later, front List.suffix_rfl]
    rfl

theorem afterLast?_append (h : afterLast? needle rest = some after) (before : Text) :
    afterLast? needle (before ++ rest) = some after := by
  induction before with
  | nil => exact h
  | cons c before ih => rw [List.cons_append, afterLast?, ih, Option.some_or]

theorem cut?_mark (bare : mark ∉ before) (after : Text) :
    cut? [mark] (before ++ mark :: after) = some (before, after) := by
  induction before with
  | nil => simp [cut?, List.isPrefixOf?]
  | cons c before ih =>
    rw [List.mem_cons, not_or] at bare
    simp [cut?, List.isPrefixOf?, bare.1, ih bare.2]

/-- Whatever stands before a mark, the text is cut where the mark stands first. -/
theorem cut?_mark_first (mark : Char) (before rest : Text) :
    ∃ after, cut? [mark] (before ++ mark :: rest) = some (before.takeWhile (· != mark), after) := by
  induction before with
  | nil => exact ⟨rest, cut?_mark (by simp) rest⟩
  | cons c before ih =>
    obtain ⟨after, found⟩ := ih
    by_cases same : c = mark
    · subst same
      exact ⟨before ++ c :: rest, by simp [cut?, List.isPrefixOf?]⟩
    · exact ⟨after, by simp [cut?, List.isPrefixOf?, found, same, Ne.symm same]⟩

@[simp] theorem isPrefixOf?_append (front rest : Text) :
    front.isPrefixOf? (front ++ rest) = some rest :=
  List.isPrefixOf?_eq_some_iff_append_eq.2 rfl

theorem cut?_front (needle rest : Text) : cut? needle (needle ++ rest) = some ([], rest) := by
  have found := isPrefixOf?_append needle rest
  cases whole : needle ++ rest with
  | nil =>
    obtain ⟨rfl, rfl⟩ := List.append_eq_nil_iff.1 whole
    rfl
  | cons c later =>
    rw [whole] at found
    rw [cut?, found]

/-- A split at a mark that the first part lacks is the split behind that part or a later one. -/
theorem append_mark_eq {as bs cs ds : Text} (bare : mark ∉ as)
    (same : as ++ mark :: bs = cs ++ mark :: ds) :
    cs = as ∨ ∃ more, cs = as ++ mark :: more ∧ bs = more ++ mark :: ds := by
  obtain ⟨more, rfl, eq⟩ | ⟨more, rfl, eq⟩ := List.append_eq_append_iff.1 same
  · cases more with
    | nil => exact .inl (List.append_nil as)
    | cons c more =>
      obtain ⟨rfl, rfl⟩ := List.cons.inj eq
      exact .inr ⟨more, rfl, rfl⟩
  · cases more with
    | nil => exact .inl (List.append_nil cs).symm
    | cons c more =>
      obtain ⟨rfl, -⟩ := List.cons.inj eq
      exact absurd (by simp) bare

/-- The needle stands last where a text without its closing mark follows, with the mark at its end:
that mark does not close the needle once more. -/
theorem afterLast?_last (notEmpty : inner ≠ []) (bare : mark ∉ inner) (plain : mark ∉ value)
    (apart : value.getLast? ≠ inner.getLast?) (before : Text) :
    afterLast? (inner ++ [mark]) (before ++ (inner ++ mark :: (value ++ [mark]))) =
      some (value ++ [mark]) := by
  refine afterLast?_append ?_ before
  obtain ⟨c, more, rfl⟩ := List.exists_cons_of_ne_nil notEmpty
  have once : ¬ c :: more ++ [mark] <:+: more ++ mark :: (value ++ [mark]) := by
    rintro ⟨front, back, same⟩
    have same : more ++ mark :: (value ++ [mark]) = (front ++ c :: more) ++ mark :: back := by
      simp [← same]
    obtain same | ⟨tail, split, ends⟩ := append_mark_eq (fun member => bare (.tail _ member)) same
    · have length := congrArg List.length same
      rw [List.length_append, List.length_cons] at length
      omega
    -- so the needle is closed by the mark at the end, and the value ends like the needle
    · have whole : tail = value := by
        obtain same | ⟨none, -, ends⟩ := append_mark_eq plain ends
        · exact same
        · exact absurd ends.symm (by simp)
      rw [whole] at split
      have last := congrArg List.getLast? split
      rw [List.getLast?_append_of_ne_nil _ notEmpty] at last
      cases value with
      | nil => exact bare (List.mem_of_getLast? (by simpa using last))
      | cons d value =>
        rw [List.append_cons, List.getLast?_append_of_ne_nil _ (List.cons_ne_nil d value)] at last
        exact apart last.symm
  have found : (c :: more ++ [mark]).isPrefixOf? (c :: more ++ mark :: (value ++ [mark])) =
      some (value ++ [mark]) :=
    List.isPrefixOf?_eq_some_iff_append_eq.2 (by simp)
  change afterLast? _ (c :: (more ++ mark :: (value ++ [mark]))) = _
  rw [afterLast?, afterLast?_eq_none once, Option.none_or]
  exact found

end Text

end ChatTranscript
