import ChatTranscript.Proofs.Style.Order
import ChatTranscript.Proofs.Text.Pieces
import ChatTranscript.Proofs.Text.Places

/-!
# The style block

A style tag ends at a closing angle, and whether a tag is read at the front of a text, and where it
ends, does not hang on what follows that angle. So a tag that was found in a template is found again
in every text that holds it, and the tags of a scope are found again in its style block.

## Main definitions

* `Style.EndsAtAngle`: what a reader reads is read again, whatever follows its last angle.
* `Style.IsTag`: a text that is read as one style tag, whatever follows it.

## Main statements

* `Style.readTag_eq_some`: a tag at the front of a text is read there by itself.
* `Style.tags_intercalate`: tags that stand one to a line are found again.
* `Style.Scope.tags_render_iff`: which scopes are found again in their style block.
-/

namespace ChatTranscript

namespace Style

open Text (Piece)

variable {word name text rest after front inner tag : Text} {tags : List Text}

/-! ## names -/

theorem dropWord?_eq_some_iff : dropWord? word text = some rest ↔
    ∃ front, front.map foldCase = word ∧ text = front ++ rest := by
  induction word generalizing text with
  | nil => simp [dropWord?]
  | cons w word ih =>
    cases text with
    | nil => simp [dropWord?]
    | cons c text =>
      by_cases same : foldCase c = w
      · rw [dropWord?, if_pos same, ih]
        constructor
        · rintro ⟨front, rfl, rfl⟩
          exact ⟨c :: front, by simp [same], rfl⟩
        · rintro ⟨front, spells, split⟩
          cases front with
          | nil => simp at spells
          | cons d front =>
            obtain ⟨rfl, rfl⟩ := List.cons.inj split
            exact ⟨front, (List.cons.inj spells).2, rfl⟩
      · rw [dropWord?, if_neg same]
        refine iff_of_false (by simp) ?_
        rintro ⟨front, spells, split⟩
        cases front with
        | nil => simp at spells
        | cons d front =>
          obtain ⟨rfl, -⟩ := List.cons.inj split
          exact same (List.cons.inj spells).1

theorem dropName?_eq_some_iff : dropName? name text = some rest ↔
    ∃ front, front.map foldCase = '<' :: name ∧ text = front ++ rest ∧ endsWord rest = true := by
  simp only [dropName?, Option.bind_eq_bind, Option.bind_eq_some_iff, dropWord?_eq_some_iff,
    Option.ite_none_right_eq_some, Option.some.injEq]
  constructor
  · rintro ⟨_, ⟨front, spells, split⟩, ends, rfl⟩
    exact ⟨front, spells, split, ends⟩
  · rintro ⟨front, spells, split, ends⟩
    exact ⟨rest, ⟨front, spells, split⟩, ends, rfl⟩

theorem prefix_of_dropName? (named : dropName? name text = some rest) :
    '<' :: name <+: text.map foldCase := by
  obtain ⟨front, spells, rfl, -⟩ := dropName?_eq_some_iff.1 named
  exact ⟨rest.map foldCase, by rw [List.map_append, spells]⟩

/-! ## closing angles -/

theorem readToAngle_eq_some_iff :
    readToAngle text = some (inner, after) ↔ '>' ∉ inner ∧ text = inner ++ '>' :: after := by
  unfold readToAngle
  constructor
  · intro read
    split at read
    · rename_i split
      cases read
      exact (Text.spanWhile_mark_iff.1 split).2
    · cases read
  · rintro ⟨bare, rfl⟩
    rw [Text.spanWhile_mark_iff.2 ⟨rfl, bare, rfl⟩]

/-- What is read at the front of a text ends with an angle, and is read in the same way whatever
follows that angle. -/
def EndsAtAngle (read : Text → Option Text) : Prop :=
  ∀ text after, read text = some after → ∃ front, text = front ++ '>' :: after ∧
    ∀ other, read (front ++ '>' :: other) = some other

/-- The name of an opening tag is read again with what stands before its angle. -/
theorem opening_append (named : dropName? name text = some rest)
    (read : readToAngle rest = some (inner, after)) :
    ∃ front, text = front ++ '>' :: after ∧ ∀ other,
      dropName? name (front ++ '>' :: other) = some (inner ++ '>' :: other) ∧
        readToAngle (inner ++ '>' :: other) = some (inner, other) := by
  obtain ⟨front, spells, rfl, ends⟩ := dropName?_eq_some_iff.1 named
  obtain ⟨bare, rfl⟩ := readToAngle_eq_some_iff.1 read
  refine ⟨front ++ inner, by simp, fun other => ⟨?_, readToAngle_eq_some_iff.2 ⟨bare, rfl⟩⟩⟩
  refine dropName?_eq_some_iff.2 ⟨front, spells, by simp, ?_⟩
  -- the word ends within the tag, at the angle at the latest
  cases inner with
  | nil => exact ends
  | cons c inner => exact ends

/-! ## end tags -/

/-- An end tag up to its angle. -/
def IsEnd (front : Text) : Prop :=
  ∃ name gap, name.map foldCase = "</style".toList ∧ (∀ c ∈ gap, Text.isBlank c = true) ∧
    front = name ++ gap

theorem IsEnd.bare (h : IsEnd front) : '>' ∉ front := by
  obtain ⟨name, gap, spells, blank, rfl⟩ := h
  have inName : '>' ∉ name := fun member => by
    have folded := List.mem_map_of_mem (f := foldCase) member
    rw [spells] at folded
    exact absurd folded (by decide)
  have inGap : '>' ∉ gap := fun member => absurd (blank _ member) (by decide)
  simp [inName, inGap]

theorem readEnd_eq_some_iff :
    readEnd text = some after ↔ ∃ front, IsEnd front ∧ text = front ++ '>' :: after := by
  simp only [readEnd, Option.bind_eq_bind, Option.bind_eq_some_iff, dropWord?_eq_some_iff,
    List.isPrefixOf?_eq_some_iff_append_eq]
  constructor
  · rintro ⟨rest, ⟨name, spells, rfl⟩, closed⟩
    have blank := List.all_eq_true.1 (List.all_takeWhile (p := Text.isBlank) (l := rest))
    refine ⟨name ++ rest.takeWhile Text.isBlank, ⟨name, _, spells, blank, rfl⟩, ?_⟩
    rw [List.append_assoc, ← List.singleton_append, closed, List.takeWhile_append_dropWhile]
  · rintro ⟨front, ⟨name, gap, spells, blank, rfl⟩, rfl⟩
    refine ⟨gap ++ '>' :: after, ⟨name, spells, by simp⟩, ?_⟩
    rw [List.dropWhile_append_of_pos blank, List.dropWhile_cons_of_neg (by decide)]
    rfl

theorem endsAtAngle_readEnd : EndsAtAngle readEnd := by
  intro text after read
  obtain ⟨front, isEnd, split⟩ := readEnd_eq_some_iff.1 read
  exact ⟨front, split, fun other => readEnd_eq_some_iff.2 ⟨front, isEnd, rfl⟩⟩

/-- Where no end tag stands, none stands with another text behind the angle. -/
theorem readEnd_eq_none (front : Text) (unread : readEnd (front ++ '>' :: after) = none)
    (other : Text) : readEnd (front ++ '>' :: other) = none := by
  rw [Option.eq_none_iff_forall_ne_some]
  intro behind read
  obtain ⟨closing, isEnd, split⟩ := readEnd_eq_some_iff.1 read
  -- the end tag holds no angle, so it ends at this angle or before it
  have ends : ∃ behind, front ++ '>' :: after = closing ++ '>' :: behind := by
    obtain rfl | ⟨more, rfl, -⟩ := Text.append_mark_eq isEnd.bare split.symm
    · exact ⟨after, rfl⟩
    · exact ⟨more ++ '>' :: after, by simp⟩
  obtain ⟨behind, split⟩ := ends
  rw [readEnd_eq_some_iff.2 ⟨closing, isEnd, split⟩] at unread
  cases unread

theorem dropContent?_of_end (ended : readEnd text = some after) :
    dropContent? text = some after := by
  cases text with
  | nil => cases ended
  | cons c text => rw [dropContent?, ended]

/-- The nearest end tag stays the nearest one, whatever follows it. -/
theorem endsAtAngle_dropContent : EndsAtAngle dropContent? := by
  intro text after read
  fun_induction dropContent? text with
  | case1 => cases read
  | case2 c rest found ended =>
    cases read
    obtain ⟨front, split, again⟩ := endsAtAngle_readEnd _ _ ended
    exact ⟨front, split, fun other => dropContent?_of_end (again other)⟩
  | case3 c rest unread ih =>
    obtain ⟨front, rfl, later⟩ := ih read
    refine ⟨c :: front, rfl, fun other => ?_⟩
    have still : readEnd (c :: (front ++ '>' :: other)) = none :=
      readEnd_eq_none (c :: front) unread other
    rw [List.cons_append, dropContent?, still]
    exact later other

/-! ## tags -/

theorem endsAtAngle_readElement : EndsAtAngle readElement := by
  intro text after read
  simp only [readElement, Option.bind_eq_bind, Option.bind_eq_some_iff] at read
  obtain ⟨rest, named, ⟨inner, content⟩, opened, closed⟩ := read
  obtain ⟨opening, rfl, again⟩ := opening_append named opened
  obtain ⟨front, rfl, ended⟩ := endsAtAngle_dropContent _ _ closed
  refine ⟨opening ++ '>' :: front, by simp, fun other => ?_⟩
  obtain ⟨named, opened⟩ := again (front ++ '>' :: other)
  rw [List.append_assoc, List.cons_append, readElement, named]
  simp only [Option.bind_eq_bind, Option.bind_some, opened, ended]

theorem endsAtAngle_readLink : EndsAtAngle readLink := by
  intro text after read
  simp only [readLink, Option.bind_eq_bind, Option.bind_eq_some_iff,
    Option.ite_none_right_eq_some] at read
  obtain ⟨rest, named, ⟨inner, behind⟩, opened, related, ⟨⟩⟩ := read
  obtain ⟨front, rfl, again⟩ := opening_append named opened
  refine ⟨front, rfl, fun other => ?_⟩
  obtain ⟨named, opened⟩ := again other
  rw [readLink, named]
  simp only [Option.bind_eq_bind, Option.bind_some, opened, related, if_true]

/-- A link is no style element. -/
theorem readElement_of_link (read : readLink text = some after) : readElement text = none := by
  simp only [readLink, Option.bind_eq_bind, Option.bind_eq_some_iff] at read
  obtain ⟨rest, link, -⟩ := read
  have unnamed : dropName? "style".toList text = none := by
    rw [Option.eq_none_iff_forall_ne_some]
    intro rest element
    have both := List.prefix_of_prefix_length_le (prefix_of_dropName? link)
      (prefix_of_dropName? element) (by decide)
    exact absurd both (by decide)
  rw [readElement, unnamed]
  rfl

/-- The text is a style tag from its front to its end, whatever follows it. -/
def IsTag (tag : Text) : Prop := ∀ rest, readTag (tag ++ rest) = some ((), rest)

theorem IsTag.ne_nil (h : IsTag tag) : tag ≠ [] := by
  rintro rfl
  cases h []

/-- A tag at the front of a text is one by itself. -/
theorem readTag_eq_some (read : readTag text = some ((), after)) :
    ∃ tag, tag ≠ [] ∧ text = tag ++ after ∧ IsTag tag := by
  rw [readTag, Option.map_eq_some_iff] at read
  obtain ⟨_, read, ⟨⟩⟩ := read
  have closed {front : Text} (split : text = front ++ '>' :: after)
      (again : ∀ other, readTag (front ++ '>' :: other) = some ((), other)) :
      ∃ tag, tag ≠ [] ∧ text = tag ++ after ∧ IsTag tag :=
    ⟨front ++ ['>'], by simp, by simp [split], fun rest => by simpa using again rest⟩
  obtain element | ⟨-, link⟩ := Option.or_eq_some_iff.1 read
  · obtain ⟨front, split, again⟩ := endsAtAngle_readElement _ _ element
    exact closed split fun other => by rw [readTag, again, Option.some_or, Option.map_some]
  · obtain ⟨front, split, again⟩ := endsAtAngle_readLink _ _ link
    exact closed split fun other => by
      rw [readTag, readElement_of_link (again other), again, Option.none_or, Option.map_some]

/-! ## the tags of a text -/

theorem readTag_reads : Text.Reads (fun tag _ => IsTag tag) readTag :=
  fun _ _ _ read => readTag_eq_some read

theorem isTag_of_mem_tags (member : tag ∈ Style.tags text) : IsTag tag := by
  obtain ⟨piece, known, found⟩ := List.mem_filterMap.1 member
  cases piece with
  | plain text => cases found
  | found tag value =>
    cases found
    exact (Text.scan_isSplit readTag_reads text).holds _ _ known

theorem tags_append (h : IsTag tag) (rest : Text) :
    Style.tags (tag ++ rest) = tag :: Style.tags rest := by
  rw [Style.tags, Text.scan_found h.ne_nil (h rest)]
  rfl

@[simp] theorem tags_break (rest : Text) : Style.tags ('\n' :: rest) = Style.tags rest := by
  have unread : readTag ('\n' :: rest) = none := rfl
  rw [Style.tags, Text.scan_plain unread, Text.filterMap_push fun _ => rfl]
  rfl

/-- Style tags one to a line are found again, each as a whole, and no others. -/
theorem tags_intercalate (whole : ∀ tag ∈ tags, IsTag tag) :
    Style.tags (List.intercalate ['\n'] tags) = tags := by
  induction tags with
  | nil => rfl
  | cons tag tags ih =>
    obtain ⟨first, later⟩ := List.forall_mem_cons.1 whole
    cases tags with
    | nil =>
      have alone := tags_append first []
      rw [List.append_nil] at alone
      rw [List.intercalate_singleton, alone]
      rfl
    | cons next tags =>
      rw [List.intercalate_cons_cons, List.append_assoc, List.singleton_append,
        tags_append first, tags_break, ih later]

/-- The style block of a scope holds the tags of the scope, and no others, exactly if each of them
is a style tag. -/
theorem Scope.tags_render_iff {scope : Scope} :
    Style.tags scope.render = scope.tags ↔ ∀ tag ∈ scope.tags, IsTag tag := by
  refine ⟨fun same tag member => ?_, tags_intercalate⟩
  rw [← same] at member
  exact isTag_of_mem_tags member

end Style

end ChatTranscript
