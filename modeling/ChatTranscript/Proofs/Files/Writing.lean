import ChatTranscript.Files.Disk
import ChatTranscript.Proofs.Pairs
import ChatTranscript.Proofs.Results

/-!
# Writing a file

Making directories changes no file, and what a path leads to it leads to still. A file that is
written is found under its path, and all other files are as they were.

## Main definitions

* `Disk.Furnishes`: more directories, and the same files.
* `Disk.Wrote`: one file was written.

## Main statements

* `Disk.makeDirectories_furnishes`: directories are added, also if the access fails.
* `Disk.wrote_of_write`: what a write leaves.
-/

namespace ChatTranscript

namespace Disk

variable {disk after last : Disk} {path : FilePath} {place other : List Text} {bytes : List UInt8}

/-! ## directories -/

/-- Directories were added, and files are as they were. -/
structure Furnishes (disk after : Disk) : Prop where
  files : after.files = disk.files
  directories : disk.directories ⊆ after.directories

theorem Furnishes.refl (disk : Disk) : disk.Furnishes disk := ⟨rfl, List.Subset.refl _⟩

theorem Furnishes.trans (h : disk.Furnishes after) (g : after.Furnishes last) :
    disk.Furnishes last :=
  ⟨g.files.trans h.files, List.Subset.trans h.directories g.directories⟩

theorem makeDirectory_furnishes (made : disk.makeDirectory path = .ok after) :
    disk.Furnishes after := by
  unfold makeDirectory at made
  cases located : disk.locate path with
  | error fault =>
    rw [located] at made
    cases made
  | ok place =>
    rw [located] at made
    change (if _ then _ else _) = _ at made
    split at made
    · cases made
    · cases made
      exact ⟨rfl, List.subset_append_left _ _⟩

theorem makeDirectoriesFrom_furnishes (count : Nat) (disk : Disk) (path : FilePath) :
    disk.Furnishes (disk.makeDirectoriesFrom count path).1 := by
  -- the cases of the recursion: by the access to the path, to its parent, and to the path again
  fun_induction makeDirectoriesFrom count disk path with
  | case1 _ _ _ _ made => exact makeDirectory_furnishes made
  | case2 | case7 | case8 => exact .refl _
  | case3 _ _ _ _ _ _ _ parents ih | case5 _ _ _ _ _ _ parents _ _ _ ih
    | case6 _ _ _ _ _ _ parents _ _ _ ih =>
    rw [parents] at ih
    exact ih
  | case4 _ _ _ _ _ _ parents _ made ih =>
    rw [parents] at ih
    exact ih.trans (makeDirectory_furnishes made)

theorem makeDirectories_furnishes (disk : Disk) (path : FilePath) :
    disk.Furnishes (disk.makeDirectories path).1 :=
  makeDirectoriesFrom_furnishes path.parts.length disk path

/-! ## places -/

theorem isDirectory_mono (more : disk.directories ⊆ after.directories)
    (known : disk.isDirectory place = true) : after.isDirectory place = true :=
  List.contains_iff_mem.2 (more (List.contains_iff_mem.1 known))

/-- The place of a part in a directory. -/
def enter (folder : List Text) (part : Text) : List Text :=
  if part = "..".toList then folder.dropLast else folder ++ [part]

/-- A way leads through a directory, by a name that is not too long. -/
theorem walk_cons_eq_ok {part : Text} {rest : List Text} :
    disk.walk place (part :: rest) = .ok other ↔
      disk.isDirectory place = true ∧
        (part ≠ "..".toList → (Utf8.encode part).length ≤ maxNameBytes) ∧
        disk.walk (enter place part) rest = .ok other := by
  rw [walk, enter]
  grind

theorem walk_mono {parts : List Text} (more : disk.directories ⊆ after.directories)
    (walked : disk.walk place parts = .ok other) : after.walk place parts = .ok other := by
  induction parts generalizing place with
  | nil => exact walked
  | cons part parts ih =>
    rw [walk_cons_eq_ok] at walked ⊢
    obtain ⟨known, short, walked⟩ := walked
    exact ⟨isDirectory_mono more known, short, ih walked⟩

theorem locate_eq_ok :
    disk.locate path = .ok place ↔
      '\x00' ∉ path.text ∧ (Utf8.encode path.text).length ≤ maxPathBytes ∧
        disk.walk (if path.root.isEmpty then here else []) path.parts = .ok place := by
  unfold locate
  grind

/-- A path that leads somewhere leads there still when directories are added. -/
theorem locate_mono (more : disk.directories ⊆ after.directories)
    (located : disk.locate path = .ok place) : after.locate path = .ok place := by
  obtain ⟨clean, short, walked⟩ := locate_eq_ok.1 located
  exact locate_eq_ok.2 ⟨clean, short, walk_mono more walked⟩

/-! ## files -/

theorem file?_put (disk : Disk) (place other : List Text) (bytes : List UInt8) :
    (disk.put place bytes).file? other =
      if other = place then some bytes else disk.file? other := by
  unfold put
  cases found : disk.file? place with
  | none =>
    rw [if_neg (by simp)]
    by_cases same : other = place
    · subst same
      rw [file?] at found ⊢
      rw [Pairs.lookup_append, found]
      simp
    · simp [file?, same, Ne.symm same]
  | some old =>
    rw [if_pos Option.isSome_some]
    -- the file that is rewritten keeps its name, so lookups find the same one
    have sameName : ((·.1 == other) ∘ fun file : List Text × List UInt8 =>
        if file.1 == place then (place, bytes) else file) = (·.1 == other) := by
      funext file
      by_cases here : file.1 = place <;> simp [here]
    simp only [file?, List.find?_map, sameName, Option.map_map]
    by_cases same : other = place
    · subst same
      obtain ⟨file, first, -⟩ := Option.map_eq_some_iff.1 found
      have name := List.find?_some first
      rw [first, if_pos rfl]
      simp_all
    · rw [if_neg same]
      cases first : disk.files.find? (·.1 == other) with
      | none => rfl
      | some file =>
        have name := List.find?_some first
        simp_all

@[simp] theorem directories_put (disk : Disk) (place : List Text) (bytes : List UInt8) :
    (disk.put place bytes).directories = disk.directories := by
  unfold put
  split <;> rfl

theorem write_eq_ok (written : disk.write path bytes = .ok after) :
    ∃ place, disk.locate path = .ok place ∧ disk.isDirectory place = false ∧
      after = disk.put place bytes := by
  unfold write at written
  obtain ⟨place, located, written⟩ := Results.bind_eq_ok.1 written
  change (if disk.isDirectory place = true then Except.error _ else
    if disk.isDirectory place.dropLast = true then Except.ok (disk.put place bytes)
    else Except.error _) = Except.ok after at written
  split at written
  · cases written
  · rename_i file
    split at written
    · exact ⟨place, located, Bool.eq_false_iff.2 file, (Except.ok.inj written).symm⟩
    · cases written

theorem read_eq_ok :
    disk.read path = .ok bytes ↔
      ∃ place, disk.locate path = .ok place ∧ disk.isDirectory place = false ∧
        disk.file? place = some bytes := by
  unfold read
  rw [Results.bind_eq_ok]
  refine exists_congr fun place => and_congr_right fun _ => ?_
  cases disk.isDirectory place with
  | true => simp [bind, Except.bind]
  | false => cases disk.file? place <;> simp [pure, Except.pure]

/-- The file at a path was written: it is found there, files at other places are as they were, and
no directory is gone. -/
structure Wrote (disk : Disk) (path : FilePath) (bytes : List UInt8) (after : Disk) : Prop where
  read : after.read path = .ok bytes
  others : ∀ place, after.locate path ≠ .ok place → after.file? place = disk.file? place
  directories : disk.directories ⊆ after.directories

theorem wrote_of_write {middle : Disk} (furnished : disk.Furnishes middle)
    (written : middle.write path bytes = .ok after) : disk.Wrote path bytes after := by
  obtain ⟨place, located, file, rfl⟩ := write_eq_ok written
  have directories := directories_put middle place bytes
  have leads : (middle.put place bytes).locate path = .ok place :=
    locate_mono (directories ▸ List.Subset.refl _) located
  refine ⟨read_eq_ok.2 ⟨place, leads, ?_, ?_⟩, fun other elsewhere => ?_, ?_⟩
  · rwa [isDirectory, directories]
  · rw [file?_put, if_pos rfl]
  · have ne : other ≠ place := fun same => elsewhere (same ▸ leads)
    rw [file?_put, if_neg ne, file?, furnished.files, file?]
  · rw [directories]
    exact furnished.directories

end Disk

end ChatTranscript
