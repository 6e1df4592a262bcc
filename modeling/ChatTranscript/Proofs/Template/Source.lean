import ChatTranscript.Proofs.Template.Inert
import ChatTranscript.Proofs.Template.Passes
import ChatTranscript.Proofs.Text.Places
import ChatTranscript.Proofs.Text.Strip
import Mathlib.Data.List.Basic

/-!
# Templates as pieces

A template that is put together from literals, variable tags and loops that are not nested. Each
pass over its text finds its own tags again, and nothing else.

## Main definitions

* `Template.Segment`: the pieces of a template, by what stands between the braces of their tags.
* `Template.Chunk`: the pieces that may stand in a loop.
* `Template.Slot.ofName`, `Template.Each.ofName`: a tag for a key, and a loop over a path.
* `Template.Segment.paths`: the paths that a template looks up.

## Main statements

* `Template.Chunk.tags_printAll`: the variable tags in the text of pieces are theirs.
* `Template.Each.readBlock_print`: a loop is read up to its own closing tag.
* `Template.mem_finds_printAll`: the loops in the text of a template are its own.
-/

namespace ChatTranscript

namespace Template

/-- An index of more digits cannot be read. -/
def Step.isShort : Step → Bool
  | .key _ => true
  | .item _ digits => digits.length ≤ Json.maxDigits

/-! ## pieces -/

structure Literal where
  text : Text
  opensNone : ¬ openBraces <:+: text
  last : text.getLast? ≠ some '{'

theorem Literal.inert (l : Literal) : Inert l.text := .of_literal l.opensNone l.last

/-- A variable tag: what it holds neither opens nor closes a loop. -/
structure Slot where
  held : Text
  notEmpty : held ≠ []
  noBraces : '{' ∉ held ∧ '}' ∉ held
  noOpening : openingPath? held = none
  noClosing : isClosing held = false

/-- The pieces that may stand in a loop. -/
inductive Chunk where
  | literal (l : Literal)
  | slot (s : Slot)

/-- A loop that is not nested: an opening tag for a path, a body and a closing tag. -/
structure Each where
  opening : Text
  path : Text
  body : List Chunk
  closing : Text
  opens : openingPath? opening = some path
  closes : isClosing closing = true
  closed : '}' ∉ opening ∧ '}' ∉ closing

inductive Segment where
  | chunk (c : Chunk)
  | each (e : Each)

/-! ## their text -/

def tag (held : Text) : Text := openBraces ++ held ++ closeBraces

@[simp] theorem tag_ne_nil (held : Text) : tag held ≠ [] := by simp [tag, openBraces]

def Slot.print (s : Slot) : Text := tag s.held

def Chunk.print : Chunk → Text
  | .literal l => l.text
  | .slot s => s.print

def Chunk.printAll (chunks : List Chunk) : Text := chunks.flatMap Chunk.print

def Each.print (e : Each) : Text := tag e.opening ++ Chunk.printAll e.body ++ tag e.closing

def Segment.print : Segment → Text
  | .chunk c => c.print
  | .each e => e.print

def Segment.printAll (segments : List Segment) : Text := segments.flatMap Segment.print

/-! ## the paths in a template -/

def Slot.path (s : Slot) : Text := Text.strip s.held

def Chunk.paths : Chunk → List Text
  | .literal _ => []
  | .slot s => [s.path]

def Each.paths (e : Each) : List Text := e.path :: e.body.flatMap Chunk.paths

/-- The paths of all variable tags and loops. -/
def Segment.paths : Segment → List Text
  | .chunk c => c.paths
  | .each e => e.paths

/-! ## reading one tag -/

variable {held rest text : Text}

theorem readBraces_tag (open_ : '}' ∉ held) (rest : Text) :
    readBraces (tag held ++ rest) = some (held, rest) := by
  have spanned : Text.spanWhile (· != '}') (held ++ ('}' :: '}' :: rest)) =
      (held, '}' :: '}' :: rest) := Text.spanWhile_mark_iff.2 ⟨rfl, open_, rfl⟩
  have opened : openBraces.isPrefixOf? (tag held ++ rest) =
      some (held ++ ('}' :: '}' :: rest)) :=
    List.isPrefixOf?_eq_some_iff_append_eq.2 (by simp [tag, openBraces, closeBraces])
  have closed : closeBraces.isPrefixOf? ('}' :: '}' :: rest) = some rest :=
    List.isPrefixOf?_eq_some_iff_append_eq.2 rfl
  simp [readBraces, opened, spanned, closed]

theorem readBraces_eq_none (h : ¬ openBraces <+: text) : readBraces text = none := by
  have closed : openBraces.isPrefixOf? text = none := by
    cases opened : openBraces.isPrefixOf? text with
    | none => rfl
    | some rest => exact absurd ⟨rest, List.append_eq_of_isPrefixOf?_eq_some opened⟩ h
  simp [readBraces, closed]

theorem readVariable_eq_none (h : ¬ openBraces <+: text) : readVariable text = none := by
  rw [readVariable, readBraces_eq_none h]

theorem readClosing_eq_none (h : ¬ openBraces <+: text) : readClosing text = none := by
  simp [readClosing, readBraces_eq_none h]

theorem readBlock_eq_none (h : ¬ openBraces <+: text) : readBlock text = none := by
  simp [readBlock, readOpening, readBraces_eq_none h]

theorem readVariable_tag (notEmpty : held ≠ []) (closed : '}' ∉ held) (rest : Text) :
    readVariable (tag held ++ rest) = some (Text.strip held, rest) := by
  obtain ⟨c, inner, rfl⟩ := List.exists_cons_of_ne_nil notEmpty
  rw [readVariable, readBraces_tag closed]

theorem readClosing_tag_eq_none (closed : '}' ∉ held) (other : isClosing held = false)
    (rest : Text) : readClosing (tag held ++ rest) = none := by
  simp [readClosing, readBraces_tag closed, other]

theorem readBlock_tag_eq_none (closed : '}' ∉ held) (other : openingPath? held = none)
    (rest : Text) : readBlock (tag held ++ rest) = none := by
  simp [readBlock, readOpening, readBraces_tag closed, other]

theorem readBody_skips (h : Text.Skips readClosing text) (rest : Text) :
    readBody (text ++ rest) = (readBody rest).map fun (body, after) => (text ++ body, after) := by
  induction text with
  | nil => simp
  | cons c text ih =>
    rw [List.cons_append, readBody, h.1 rest]
    simp [ih h.2, Function.comp_def]

theorem readBody_closing (closed : '}' ∉ held) (closes : isClosing held = true) (rest : Text) :
    readBody (tag held ++ rest) = some ([], rest) := by
  have read : readClosing (tag held ++ rest) = some rest := by
    simp [readClosing, readBraces_tag closed, closes]
  rw [tag, openBraces] at read ⊢
  simp only [List.cons_append, List.append_assoc] at read ⊢
  rw [readBody, read]

/-- A loop is read up to its own closing tag. -/
theorem readBlock_tags {opening path body closing : Text} (opens : openingPath? opening = some path)
    (closes : isClosing closing = true) (closed : '}' ∉ opening ∧ '}' ∉ closing)
    (inner : Text.Skips readClosing body) (rest : Text) :
    readBlock (tag opening ++ body ++ tag closing ++ rest) = some (⟨path, body⟩, rest) := by
  have read : readBody (body ++ (tag closing ++ rest)) = some (body, rest) := by
    rw [readBody_skips inner, readBody_closing closed.2 closes]
    simp
  have opened (rest : Text) : readOpening (tag opening ++ rest) = some (path, rest) := by
    simp [readOpening, readBraces_tag closed.1, opens]
  rw [List.append_assoc, List.append_assoc, readBlock, opened]
  simp only [Option.bind_eq_bind, Option.bind_some, read]
  rfl

/-- A rule that does not read a tag finds nothing within the tag either. -/
theorem skips_tag {α : Type} {rule : Text → Option α}
    (opens : ∀ text, ¬ openBraces <+: text → rule text = none) (noBrace : '{' ∉ held)
    (unread : ∀ rest, rule (tag held ++ rest) = none) : Text.Skips rule (tag held) := by
  have tail : Inert ('{' :: (held ++ closeBraces)) := by
    refine ⟨fun _ => ?_, .of_not_mem (by simpa [closeBraces] using noBrace)⟩
    cases held with
    | nil => exact ⟨'}', rfl, by decide⟩
    | cons c held => exact ⟨c, rfl, fun same => noBrace (by simp [same])⟩
  exact ⟨unread, tail.skips opens⟩

/-! ## tags for keys and paths -/

/-- A key or a path as it is written between the blanks of a tag. -/
structure Name where
  text : Text
  notEmpty : text ≠ []
  noBraces : '{' ∉ text ∧ '}' ∉ text
  stripped : Text.strip text = text

namespace Name

variable (name : Name) {left right : Text}

theorem not_mem_padded (blankLeft : left.all Text.isBlank = true)
    (blankRight : right.all Text.isBlank = true) {c : Char} (brace : c = '{' ∨ c = '}') :
    c ∉ left ++ name.text ++ right := by
  have notBlank : Text.isBlank c = false := by
    obtain rfl | rfl := brace <;> decide
  have absent {blanks : Text} (blank : blanks.all Text.isBlank = true) : c ∉ blanks := by
    intro member
    simp [List.all_eq_true.1 blank c member] at notBlank
  have noKey : c ∉ name.text := by
    obtain rfl | rfl := brace
    · exact name.noBraces.1
    · exact name.noBraces.2
  simp [absent blankLeft, absent blankRight, noKey]

theorem strip_padded (blankLeft : left.all Text.isBlank = true)
    (blankRight : right.all Text.isBlank = true) :
    Text.strip (left ++ name.text ++ right) = name.text :=
  Text.strip_padded (List.all_eq_true.1 blankLeft) (List.all_eq_true.1 blankRight) name.stripped

/-- Behind its blanks the tag starts with the name, which is no opening. -/
theorem openingPath?_padded (blankLeft : left.all Text.isBlank = true)
    (noHash : name.text.head? ≠ some '#') : openingPath? (left ++ name.text ++ right) = none := by
  obtain ⟨c, key, eq⟩ := List.exists_cons_of_ne_nil name.notEmpty
  have stripped := name.stripped
  rw [eq] at stripped noHash ⊢
  have notBlank := Text.not_blank_of_stripped stripped
  have hash : '#' ≠ c := by
    rintro rfl
    exact noHash rfl
  rw [openingPath?, List.append_assoc,
    List.dropWhile_append_of_pos (List.all_eq_true.1 blankLeft)]
  have noLoop : "#each".toList.isPrefixOf? (c :: (key ++ right)) = none := by
    cases opens : "#each".toList.isPrefixOf? (c :: (key ++ right)) with
    | none => rfl
    | some rest =>
      exact absurd (List.cons.inj (List.append_eq_of_isPrefixOf?_eq_some opens)).1 hash
  rw [List.cons_append, List.dropWhile_cons_of_neg (by simp [notBlank]), noLoop]

theorem openingPath?_each : openingPath? ("#each ".toList ++ name.text) = some name.text := by
  obtain ⟨c, path, eq⟩ := List.exists_cons_of_ne_nil name.notEmpty
  have stripped := name.stripped
  have hash : Text.isBlank '#' = false := by decide
  have blank : Text.isBlank ' ' = true := by decide
  rw [eq] at stripped ⊢
  have opens : "#each".toList.isPrefixOf? ("#each".toList ++ ' ' :: c :: path) =
      some (' ' :: c :: path) := List.isPrefixOf?_eq_some_iff_append_eq.2 rfl
  have front : ("#each ".toList ++ c :: path).dropWhile Text.isBlank =
      "#each".toList ++ ' ' :: c :: path := by simp [hash]
  rw [openingPath?, front, opens]
  simp [blank, stripped]

end Name

/-- The tag for a key, between blanks. -/
def Slot.ofName (name : Name) (left right : Text) (blankLeft : left.all Text.isBlank = true)
    (blankRight : right.all Text.isBlank = true)
    (noLoop : name.text.head? ≠ some '#' ∧ name.text.head? ≠ some '/') : Slot where
  held := left ++ name.text ++ right
  notEmpty := by simp [name.notEmpty]
  noBraces := ⟨name.not_mem_padded blankLeft blankRight (.inl rfl),
    name.not_mem_padded blankLeft blankRight (.inr rfl)⟩
  noOpening := name.openingPath?_padded blankLeft noLoop.1
  noClosing := by
    rw [isClosing, name.strip_padded blankLeft blankRight, beq_eq_false_iff_ne]
    intro same
    exact noLoop.2 (by simp [same])

theorem isClosing_each : isClosing "/each".toList = true := by decide

/-- The loop over what a path leads to. -/
def Each.ofName (path : Name) (body : List Chunk) : Each where
  opening := "#each ".toList ++ path.text
  path := path.text
  body
  closing := "/each".toList
  opens := path.openingPath?_each
  closes := isClosing_each
  closed := ⟨by simp [path.noBraces.2], by decide⟩

/-! ## the tags in a template -/

/-- What a variable tag in the text looks up. -/
def tags (text : Text) : List Text := Text.finds readVariable text

namespace Chunk

variable (c : Chunk) (chunks : List Chunk) (rest : Text)

@[simp] theorem tags_append : tags (c.print ++ rest) = c.paths ++ tags rest := by
  cases c with
  | literal l => exact Text.finds_skips (l.inert.skips fun _ => readVariable_eq_none) rest
  | slot s => exact Text.finds_found (tag_ne_nil _) (readVariable_tag s.notEmpty s.noBraces.2 rest)

theorem skips_readClosing : Text.Skips readClosing c.print := by
  cases c with
  | literal l => exact l.inert.skips fun _ => readClosing_eq_none
  | slot s =>
    exact skips_tag (fun _ => readClosing_eq_none) s.noBraces.1
      (readClosing_tag_eq_none s.noBraces.2 s.noClosing)

theorem skips_readBlock : Text.Skips readBlock c.print := by
  cases c with
  | literal l => exact l.inert.skips fun _ => readBlock_eq_none
  | slot s =>
    exact skips_tag (fun _ => readBlock_eq_none) s.noBraces.1
      (readBlock_tag_eq_none s.noBraces.2 s.noOpening)

/-- The tags that the second pass reads in the text of the pieces are theirs. -/
@[simp] theorem tags_printAll : tags (printAll chunks) = chunks.flatMap paths := by
  induction chunks with
  | nil => rfl
  | cons c chunks ih =>
    rw [printAll, List.flatMap_cons, tags_append, List.flatMap_cons]
    exact congrArg _ ih

theorem skips_printAll : Text.Skips readClosing (printAll chunks) := by
  induction chunks with
  | nil => trivial
  | cons c chunks ih => exact c.skips_readClosing.append ih

end Chunk

namespace Each

variable (e : Each)

/-- The loop as the first pass reads it. -/
def block : Block := ⟨e.path, Chunk.printAll e.body⟩

@[simp] theorem print_ne_nil : e.print ≠ [] := by simp [print, tag, openBraces]

@[simp] theorem readBlock_print (rest : Text) :
    readBlock (e.print ++ rest) = some (e.block, rest) :=
  readBlock_tags e.opens e.closes e.closed (Chunk.skips_printAll e.body) rest

end Each

/-- The loops that the first pass reads are those of the template. -/
theorem mem_finds_printAll {segments : List Segment} {block : Block}
    (h : block ∈ Text.finds readBlock (Segment.printAll segments)) :
    ∃ e, .each e ∈ segments ∧ block = e.block := by
  induction segments with
  | nil => cases h
  | cons segment segments ih =>
    rw [Segment.printAll, List.flatMap_cons] at h
    cases segment with
    | chunk c =>
      rw [Segment.print, Text.finds_skips c.skips_readBlock] at h
      obtain ⟨e, member, eq⟩ := ih h
      exact ⟨e, List.mem_cons_of_mem _ member, eq⟩
    | each e =>
      rw [Segment.print, Text.finds_found e.print_ne_nil (e.readBlock_print _)] at h
      obtain rfl | later := List.mem_cons.1 h
      · exact ⟨e, List.mem_cons_self, rfl⟩
      · obtain ⟨e, member, eq⟩ := ih later
        exact ⟨e, List.mem_cons_of_mem _ member, eq⟩

end Template

end ChatTranscript
