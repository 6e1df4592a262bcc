import ChatTranscript.Proofs.Card.Lookup
import ChatTranscript.Proofs.Text.Places

/-!
# Paths as they are written

A path that is written from steps is read as the same steps again, and is looked up by walking them
from value to value. A key may hold anything but points, as long as it is not written like an
indexed key.

## Main definitions

* `Template.printPath`: the text of a path.
* `Template.Step.IsWritable`: steps that can be told apart in a path.

## Main statements

* `Template.steps_printPath`: a written path is read as its steps.
* `Template.lookup_printPath`: a lookup finds what the walk reaches, and nothing if it strays.
-/

namespace ChatTranscript

namespace Template

/-! ## written steps -/

/-- A step as it is written in a path. -/
def Step.print : Step → Text
  | .key name => name
  | .item name digits => name ++ '[' :: (digits ++ [']'])

/-- A path as it is written. -/
def printPath (path : List Step) : Text := List.intercalate ['.'] (path.map Step.print)

/-- A name of word characters and the decimal digits of an index. -/
structure IsIndexed (name digits : Text) : Prop where
  named : name ≠ []
  word : ∀ c ∈ name, Text.isWordChar c = true
  counted : digits ≠ []
  decimal : ∀ c ∈ digits, Text.isDecimalDigit c = true

/-- The text of an indexed key, also with a line end behind it. -/
def LooksIndexed (part : Text) : Prop :=
  ∃ name digits ending, IsIndexed name digits ∧ ending ∈ [[], ['\n']] ∧
    part = (Step.item name digits).print ++ ending

/-- The step is read again from where it is written in a path. -/
def Step.IsWritable : Step → Prop
  | .key name => name ≠ [] ∧ '.' ∉ name ∧ ¬ LooksIndexed name
  | .item name digits => IsIndexed name digits ∧ digits.length ≤ Json.maxDigits

variable {name digits part rest ending : Text} {step : Step} {path : List Step}

theorem IsIndexed.ofPart (h : IsIndexed name digits) (ends : ending ∈ [[], ['\n']]) :
    Step.ofPart ((Step.item name digits).print ++ ending) = .item name digits := by
  obtain ⟨c, cs, rfl⟩ := List.exists_cons_of_ne_nil h.named
  obtain ⟨d, ds, rfl⟩ := List.exists_cons_of_ne_nil h.counted
  have text : (Step.item (c :: cs) (d :: ds)).print ++ ending =
      (c :: cs) ++ '[' :: ((d :: ds) ++ ']' :: ending) := by
    simp [Step.print]
  rw [Step.ofPart, text, Text.spanWhile_eq_cons_iff.2 ⟨rfl, h.word, by decide⟩]
  simp only
  rw [Text.spanWhile_eq_cons_iff.2 ⟨rfl, h.decimal, by decide⟩]
  simp only [List.mem_cons, List.not_mem_nil, or_false] at ends
  obtain rfl | rfl := ends <;> rfl

theorem ofPart_cases (part : Text) : LooksIndexed part ∨ Step.ofPart part = .key part := by
  have indexed {c d : Char} {cs ds rest ending : Text}
      (word : Text.spanWhile Text.isWordChar part = (c :: cs, '[' :: rest))
      (number : Text.spanWhile Text.isDecimalDigit rest = (d :: ds, ']' :: ending))
      (ends : ending ∈ [[], ['\n']]) : LooksIndexed part := by
    obtain ⟨split, inName, -⟩ := Text.spanWhile_eq_cons_iff.1 word
    obtain ⟨rfl, inIndex, -⟩ := Text.spanWhile_eq_cons_iff.1 number
    exact ⟨c :: cs, d :: ds, ending,
      ⟨List.cons_ne_nil c cs, inName, List.cons_ne_nil d ds, inIndex⟩, ends,
      by simp [split, Step.print]⟩
  fun_cases Step.ofPart part with
  | case1 c cs rest word d ds number => exact .inl (indexed word number (by simp))
  | case2 c cs rest word d ds number => exact .inl (indexed word number (by simp))
  | case3 | case4 => exact .inr rfl

theorem ofPart_eq_key_iff : Step.ofPart part = .key part ↔ ¬ LooksIndexed part := by
  refine ⟨?_, (ofPart_cases part).resolve_left⟩
  rintro read ⟨name, digits, ending, indexed, ends, rfl⟩
  rw [indexed.ofPart ends] at read
  cases read

theorem Step.IsWritable.ofPart (h : step.IsWritable) : Step.ofPart step.print = step := by
  cases step with
  | key name => exact ofPart_eq_key_iff.2 h.2.2
  | item name digits =>
    have plain : [] ∈ [([] : Text), ['\n']] := List.mem_cons_self
    simpa using h.1.ofPart plain

/-- A point belongs to no step. -/
theorem Step.IsWritable.point_not_mem (h : step.IsWritable) : '.' ∉ step.print := by
  cases step with
  | key name => exact h.2.1
  | item name digits =>
    have word : '.' ∉ name := fun member => absurd (h.1.word _ member) (by decide)
    have decimal : '.' ∉ digits := fun member => absurd (h.1.decimal _ member) (by decide)
    simp [Step.print, word, decimal]

theorem Step.IsWritable.isShort (h : step.IsWritable) : step.isShort = true := by
  cases step with
  | key name => rfl
  | item name digits => exact decide_eq_true h.2

theorem steps_printPath (notEmpty : path ≠ []) (writable : ∀ step ∈ path, step.IsWritable) :
    steps (printPath path) = path := by
  have split : (printPath path).splitOn '.' = path.map Step.print := by
    refine List.splitOn_intercalate '.' ?_ (by simpa using notEmpty)
    intro part member
    obtain ⟨step, known, rfl⟩ := List.mem_map.1 member
    exact (writable step known).point_not_mem
  rw [steps, split, List.map_map]
  have again : ∀ step ∈ path, Step.ofPart step.print = step := fun step known =>
    (writable step known).ofPart
  exact (List.map_congr_left again).trans (List.map_id path)

theorem printPath_ne_nil (notEmpty : path ≠ []) (writable : ∀ step ∈ path, step.IsWritable) :
    printPath path ≠ [] := by
  intro empty
  -- an empty text is read as a single empty key
  have single : steps (printPath path) = [.key []] := by
    rw [empty]
    rfl
  rw [← steps_printPath notEmpty writable, single] at writable
  exact (writable (.key []) (List.mem_singleton.2 rfl)).1 rfl

/-! ## looking up written paths -/

theorem lookup_eq_follow {path : Text} (stripped : Text.strip path = path) (notEmpty : path ≠ [])
    (plain : path ∉ wholeKeys) (fields : Fields) :
    lookup (.obj fields) path = follow (.obj fields) (steps path) := by
  rw [lookup, stripped]
  rw [if_neg (by simpa using notEmpty), if_neg (by simpa using plain)]

/-- A path that is written with single steps, and is no key that is looked up as it is, is walked
step by step. The lookup finds the value that all steps reach, also if that is null, and finds
nothing exactly if some step leads nowhere. -/
theorem lookup_printPath (fields : Fields) (notEmpty : path ≠ [])
    (writable : ∀ step ∈ path, step.IsWritable)
    (stripped : Text.strip (printPath path) = printPath path)
    (plain : printPath path ∉ wholeKeys) :
    ∃ found, lookup (.obj fields) (printPath path) = .ok found ∧
      (∀ value, found = some value ↔ Reaches (.obj fields) path value) ∧
      (found = none ↔ Strays (.obj fields) path) := by
  have short : ∀ step ∈ path, step.isShort = true := fun step member =>
    (writable step member).isShort
  have walked : lookup (.obj fields) (printPath path) = follow (.obj fields) path := by
    rw [lookup_eq_follow stripped (printPath_ne_nil notEmpty writable) plain,
      steps_printPath notEmpty writable]
  have reached {value : Json} (reaches : Reaches (.obj fields) path value) :
      lookup (.obj fields) (printPath path) = .ok (some value) :=
    walked.trans (follow_of_reaches reaches short)
  have strayed (strays : Strays (.obj fields) path) :
      lookup (.obj fields) (printPath path) = .ok none :=
    walked.trans (follow_of_strays strays short)
  have apart {value : Json} (reaches : Reaches (.obj fields) path value)
      (strays : Strays (.obj fields) path) : False := by
    simpa using (reached reaches).symm.trans (strayed strays)
  obtain ⟨last, reaches⟩ | strays := reaches_or_strays (.obj fields) path
  · refine ⟨some last, reached reaches, fun value => ⟨?_, fun other => ?_⟩,
      iff_of_false (by simp) (apart reaches)⟩
    · rintro ⟨rfl⟩
      exact reaches
    · exact Except.ok.inj ((reached reaches).symm.trans (reached other))
  · exact ⟨none, strayed strays, fun value => iff_of_false (by simp) fun reaches =>
      apart reaches strays, iff_of_true rfl strays⟩

/-- A key with a bracket that is never closed, an index with a zero in front, and a plain key. -/
def samplePath : List Step :=
  [.key "a[b".toList, .item "rows".toList "01".toList, .key "x y".toList]

def sampleFields : Fields :=
  [("a[b".toList, .obj [("rows".toList, .arr [.int 7, .obj [("x y".toList, .null)]])])]

/-- A null is found where the path leads to it. -/
theorem lookup_printPath_null :
    printPath samplePath = "a[b.rows[01].x y".toList ∧
      lookup (.obj sampleFields) (printPath samplePath) = .ok (some .null) := by
  have writable : ∀ step ∈ samplePath, step.IsWritable := by
    simp only [samplePath, List.forall_mem_cons]
    exact ⟨⟨by decide, by decide, ofPart_eq_key_iff.1 rfl⟩,
      ⟨⟨by decide, by simp; decide, by decide, by simp; decide⟩, by decide⟩,
      ⟨by decide, by decide, ofPart_eq_key_iff.1 rfl⟩, by simp⟩
  obtain ⟨found, eq, reached, -⟩ :=
    lookup_printPath sampleFields (by decide) writable (by decide) (by decide)
  have reaches : Reaches (.obj sampleFields) samplePath .null :=
    .step (.key rfl) (.step (.item rfl (by decide)) (.step (.key rfl) (.here _)))
  rw [(reached .null).2 reaches] at eq
  exact ⟨by decide, eq⟩

end Template

end ChatTranscript
