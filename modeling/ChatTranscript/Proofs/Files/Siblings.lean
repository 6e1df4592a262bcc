import ChatTranscript.Chatroom.Target
import ChatTranscript.Proofs.Files.Writing

/-!
# Files next to each other

Two paths that differ in their last names lead into the same directory, and lead to different places
there. So a file that is written under the path of another one with a new suffix leaves that other
file as it was, unless it had this suffix already and the two paths are one.

## Main statements

* `FilePath.withSuffix_eq_self_iff`: the paths that keep their suffix.
* `Disk.locate_ne_of_withSuffix`: a path with another suffix leads to another place.
* `PageFile.read_of_write_withSuffix`: a write under the new path leaves what is under the old one.
-/

namespace ChatTranscript

/-! ## names -/

/-- A text is cut at a character that does not come again. -/
theorem Text.cutLast?_append {c : Char} {after : Text} (before : Text) (last : c ∉ after) :
    Text.cutLast? c (before ++ c :: after) = some (before, after) := by
  have others : ∀ d ∈ after.reverse, (d != c) = true := by
    intro d member
    rw [List.mem_reverse] at member
    exact bne_iff_ne.2 fun same => last (same ▸ member)
  have turned : (before ++ c :: after).reverse = after.reverse ++ c :: before.reverse := by simp
  rw [cutLast?, turned, List.dropWhile_append_of_pos others, List.takeWhile_append_of_pos others]
  simp

namespace FilePath

variable {path output : FilePath} {front : List Text} {name suffix extension : Text}

theorem stem_append {stem : Text} (notEmpty : stem ≠ []) (extended : extension ≠ [])
    (last : '.' ∉ extension) : FilePath.stem (stem ++ '.' :: extension) = stem := by
  rw [FilePath.stem, Text.cutLast?_append stem last]
  simp [notEmpty, extended]

@[simp] theorem stem_ne_nil (notEmpty : name ≠ []) : stem name ≠ [] := by
  unfold stem
  grind

/-- A name is given back by a suffix exactly if it has it, and something before it. -/
theorem stem_append_eq_iff (extended : extension ≠ []) (last : '.' ∉ extension) :
    stem name ++ '.' :: extension = name ↔ ∃ front ≠ [], name = front ++ '.' :: extension := by
  constructor
  · intro same
    have notEmpty : name ≠ [] := same ▸ by simp
    exact ⟨stem name, stem_ne_nil notEmpty, same.symm⟩
  · rintro ⟨front, notEmpty, rfl⟩
    rw [stem_append notEmpty extended last]

theorem withSuffix_eq_some (named : path.withSuffix suffix = some output) :
    ∃ front name, path.parts = front ++ [name] ∧
      output = { path with parts := front ++ [stem name ++ suffix] } := by
  obtain ⟨name, last, rfl⟩ := Option.map_eq_some_iff.1 named
  obtain ⟨front, parts⟩ := List.getLast?_eq_some_iff.1 last
  exact ⟨front, name, parts, by simp [parts]⟩

theorem parent_withSuffix (named : path.withSuffix suffix = some output) :
    output.parent = path.parent := by
  obtain ⟨front, name, parts, rfl⟩ := withSuffix_eq_some named
  simp [parent, parts]

/-- A path stays as it is exactly if its name has the suffix, and something before it. -/
theorem withSuffix_eq_self_iff (named : path.withSuffix ('.' :: extension) = some output)
    (extended : extension ≠ []) (last : '.' ∉ extension) :
    output = path ↔ ∃ stem ≠ [], path.parts.getLast? = some (stem ++ '.' :: extension) := by
  obtain ⟨front, name, parts, rfl⟩ := withSuffix_eq_some named
  obtain ⟨root, _⟩ := path
  subst parts
  simpa using stem_append_eq_iff extended last

/-! ## written paths -/

theorem intercalate_front (front : List Text) (name : Text) :
    List.intercalate ['/'] front <+: List.intercalate ['/'] (front ++ [name]) := by
  induction front with
  | nil => exact List.nil_prefix
  | cons first front ih =>
    cases front with
    | nil => exact ⟨'/' :: name, by simp [List.intercalate]⟩
    | cons second front =>
      rw [List.cons_append, List.cons_append, List.intercalate_cons_cons,
        List.intercalate_cons_cons]
      exact (List.prefix_append_right_inj _).2 ih

/-- The directory of a path is written as a part of it, or as the working directory. -/
theorem text_parent (parts : path.parts = front ++ [name]) :
    path.parent.text = ['.'] ∨ path.parent.text <+: path.text := by
  obtain ⟨root, _⟩ := path
  subst parts
  have whole : FilePath.text ⟨root, front ++ [name]⟩ =
      root ++ List.intercalate ['/'] (front ++ [name]) := by
    cases front <;> cases root <;> rfl
  have folder : (FilePath.mk root (front ++ [name])).parent = ⟨root, front⟩ := by simp [parent]
  rw [whole, folder]
  fun_cases text ⟨root, front⟩ with
  | case1 => exact .inl rfl
  | case2 => exact .inr ((List.prefix_append_right_inj _).2 (intercalate_front _ _))

end FilePath

/-! ## places -/

namespace Disk

variable {disk : Disk} {path output : FilePath} {front : List Text} {name suffix : Text}
  {start place other : List Text} {bytes old : List UInt8}

/-- The parts before the last one lead into a directory. -/
theorem walk_concat (walked : disk.walk start (front ++ [name]) = .ok place) :
    ∃ folder, disk.walk start front = .ok folder ∧ disk.isDirectory folder = true ∧
      place = enter folder name := by
  induction front generalizing start with
  | nil =>
    obtain ⟨known, -, there⟩ := walk_cons_eq_ok.1 walked
    exact ⟨start, rfl, known, (Except.ok.inj there).symm⟩
  | cons part front ih =>
    obtain ⟨known, short, walked⟩ := walk_cons_eq_ok.1 walked
    obtain ⟨folder, leads, inside⟩ := ih walked
    exact ⟨folder, walk_cons_eq_ok.2 ⟨known, short, leads⟩, inside⟩

/-- A path that leads somewhere has a directory on the way there. -/
theorem locate_concat (parts : path.parts = front ++ [name])
    (located : disk.locate path = .ok place) :
    ∃ folder, disk.locate path.parent = .ok folder ∧ disk.isDirectory folder = true ∧
      place = enter folder name := by
  obtain ⟨clean, short, walked⟩ := locate_eq_ok.1 located
  rw [parts] at walked
  obtain ⟨folder, leads, inside⟩ := walk_concat walked
  have folderParts : path.parent.parts = front := by simp [FilePath.parent, parts]
  refine ⟨folder, locate_eq_ok.2 ⟨?_, ?_, folderParts ▸ leads⟩, inside⟩
  all_goals obtain working | ⟨rest, written⟩ := FilePath.text_parent parts
  · simp [working]
  · grind
  · rw [working]
    decide
  · rw [← written, Utf8.encode, List.flatMap_append] at short
    grind [Utf8.encode]

theorem eq_of_enter_eq {folder : List Text} {part : Text} (notUp : name ≠ "..".toList)
    (same : enter folder name = enter folder part) : name = part := by
  rw [enter, if_neg notUp, enter] at same
  split at same
  · -- a way up is shorter
    have shorter := congrArg List.length same
    rw [List.length_append, List.length_dropLast, List.length_singleton] at shorter
    omega
  · simpa using same

/-- A path with another suffix leads to another place. -/
theorem locate_ne_of_withSuffix (named : path.withSuffix suffix = some output)
    (long : 2 < suffix.length) (differs : output ≠ path) (leads : disk.locate output = .ok place) :
    disk.locate path ≠ .ok place := by
  intro located
  have parent := FilePath.parent_withSuffix named
  obtain ⟨front, name, parts, rfl⟩ := FilePath.withSuffix_eq_some named
  obtain ⟨folder, known, -, rfl⟩ := locate_concat parts located
  obtain ⟨_, known', -, same⟩ := locate_concat rfl leads
  rw [parent, known] at known'
  obtain rfl := Except.ok.inj known'
  have notUp : FilePath.stem name ++ suffix ≠ "..".toList := by
    intro up
    have tooLong := congrArg List.length up
    grind
  have kept := eq_of_enter_eq notUp same.symm
  exact differs (by rw [kept, ← parts])

/-! ## files -/

/-- Nothing has to be made for a path that leads to a directory. -/
theorem makeDirectories_of_located (located : disk.locate path = .ok place)
    (known : disk.isDirectory place = true) : disk.makeDirectories path = (disk, .ok ()) := by
  have taken : disk.makeDirectory path = .error (.refused .exists path.text) := by
    simp [makeDirectory, located, known, bind, Except.bind]
  have leads : disk.leadsToDirectory path = true := by rwa [leadsToDirectory, located]
  rw [makeDirectories, makeDirectoriesFrom, taken]
  simp [leads]

/-- A file is read as it was after a write to another place. -/
theorem read_put (before : disk.read path = .ok old) (elsewhere : disk.locate path ≠ .ok other) :
    (disk.put other bytes).read path = .ok old := by
  obtain ⟨place, located, file, found⟩ := read_eq_ok.1 before
  have directories := directories_put disk other bytes
  refine read_eq_ok.2 ⟨place, locate_mono (directories ▸ List.Subset.refl _) located, ?_, ?_⟩
  · rwa [isDirectory, directories]
  · rwa [file?_put, if_neg]
    rintro rfl
    exact elsewhere located

end Disk

namespace PageFile

variable {disk after : Disk} {path output : FilePath} {suffix text : Text} {old : List UInt8}

/-- A file stays as it was when a text is written under its path with another suffix. -/
theorem read_of_write_withSuffix (named : path.withSuffix suffix = some output)
    (long : 2 < suffix.length) (differs : output ≠ path) (before : disk.read path = .ok old)
    (written : write output text disk = (.ok (), after)) : after.read path = .ok old := by
  obtain ⟨place, located, -⟩ := Disk.read_eq_ok.1 before
  obtain ⟨front, name, parts, -⟩ := FilePath.withSuffix_eq_some named
  -- the directory is there, because the old path leads through it
  obtain ⟨folder, leads, known, -⟩ := Disk.locate_concat parts located
  have made := Disk.makeDirectories_of_located leads known
  rw [← FilePath.parent_withSuffix named] at made
  rw [write, made] at written
  cases placed : disk.write output (Utf8.encode text) with
  | error fault => simp [placed] at written
  | ok last =>
    obtain ⟨other, located, -, rfl⟩ := Disk.write_eq_ok placed
    simp only [placed, Prod.mk.injEq, true_and] at written
    rw [← written]
    exact Disk.read_put before (Disk.locate_ne_of_withSuffix named long differs located)

end PageFile

end ChatTranscript
