import ChatTranscript.CommandLine.Command
import ChatTranscript.Proofs.Fetch.Locations
import ChatTranscript.Proofs.Text.PercentEncoding

/-!
# Absolute paths and their URLs

An absolute path has a `file` URL, in which all but letters, digits and a few marks is escaped. No
mark of the path can end the path of the URL, so the URL names the file that the path names, and
whatever is done with the one location is done with the other.

## Main definitions

* `Url.ofFile`: the URL of an absolute path.

## Main statements

* `Url.split_ofFile`: the parts of the URL of a path.
* `fetchText_fileUrl`: a path and its URL are one location.
-/

namespace ChatTranscript

namespace Url

/-! ## the URL of a path -/

/-- The characters that stand for themselves in the path of a URL. -/
def isPathChar (c : Char) : Bool :=
  ('a' ≤ c && c ≤ 'z') || ('A' ≤ c && c ≤ 'Z') || ('0' ≤ c && c ≤ '9') || "_.-~/".toList.contains c

def ofFile (path : Text) : Text :=
  "file://".toList ++ PercentEncoding.encodeExcept isPathChar path

variable {path url : Text} {parts : Parts} {c : Char}

/-- Apart from the slash only unreserved characters stand for themselves. -/
theorem isPathChar_cases (plain : isPathChar c = true) :
    c = '/' ∨ PercentEncoding.isUnreserved c = true := by
  have marks : ∀ d ∈ "_.-~/".toList, d = '/' ∨ "-_.!~*'()".toList.contains d = true := by simp
  unfold isPathChar at plain
  unfold PercentEncoding.isUnreserved
  rw [Bool.or_eq_true] at plain ⊢
  obtain ranges | mark := plain
  · exact .inr (.inl ranges)
  · exact (marks c (List.contains_iff_mem.1 mark)).imp_right .inr

theorem safe_isPathChar : PercentEncoding.Safe isPathChar := by
  intro c plain
  obtain rfl | unreserved := isPathChar_cases plain
  · decide
  · exact PercentEncoding.safe_isUnreserved c unreserved

/-- The characters that are neither left out nor end a path. -/
def StaysInPath (c : Char) : Prop := 0x20 < c.toNat ∧ c ≠ '#' ∧ c ≠ '?'

instance (c : Char) : Decidable (StaysInPath c) :=
  inferInstanceAs (Decidable (0x20 < c.toNat ∧ c ≠ '#' ∧ c ≠ '?'))

theorem staysInPath_of_isUnreserved (unreserved : PercentEncoding.isUnreserved c = true) :
    StaysInPath c := by
  refine ⟨(PercentEncoding.toNat_of_isUnreserved unreserved).1, ?_, ?_⟩
  · rintro rfl
    cases unreserved
  · rintro rfl
    cases unreserved

theorem staysInPath_of_mem (member : c ∈ PercentEncoding.encodeExcept isPathChar path) :
    StaysInPath c := by
  obtain plain | rfl | digit := PercentEncoding.mem_encodeExcept member
  · obtain rfl | unreserved := isPathChar_cases plain
    · decide
    · exact staysInPath_of_isUnreserved unreserved
  · decide
  · exact staysInPath_of_isUnreserved
      (PercentEncoding.IsComponent.isUnreserved_of_isUpperDigit digit)

/-- Nothing of the URL of a path is left out. -/
theorem clean_ofFile (path : Text) : clean (ofFile path) = ofFile path := by
  have plain : ∀ c ∈ ofFile path, StaysInPath c := by
    intro c member
    obtain front | member := List.mem_append.1 member
    · have all : ∀ c ∈ "file://".toList, StaysInPath c := by simp [StaysInPath]
      exact all c front
    · exact staysInPath_of_mem member
  have first : (ofFile path).dropWhile (fun c => c.toNat ≤ 0x20) = ofFile path := rfl
  rw [clean, first, List.filter_eq_self]
  intro c member
  have visible := (plain c member).1
  simp only [Bool.and_eq_true, bne_iff_ne]
  refine ⟨⟨?_, ?_⟩, ?_⟩ <;> rintro rfl <;> revert visible <;> decide

theorem beforeQuery_encodeExcept (path : Text) :
    beforeQuery (PercentEncoding.encodeExcept isPathChar path) =
      PercentEncoding.encodeExcept isPathChar path := by
  have stays {c : Char} := @staysInPath_of_mem path c
  rw [beforeQuery, List.takeWhile_eq_self_iff.2 fun c member => bne_iff_ne.2 (stays member).2.1,
    List.takeWhile_eq_self_iff.2 fun c member => bne_iff_ne.2 (stays member).2.2]

/-- The URL of an absolute path has no authority, and its path is the encoded one. -/
theorem split_ofFile (absolute : path.head? = some '/') :
    split (ofFile path) =
      .ok ⟨"file".toList, [], PercentEncoding.encodeExcept isPathChar path⟩ := by
  obtain ⟨rest, rfl⟩ := List.head?_eq_some_iff.1 absolute
  have root : PercentEncoding.encodeExcept isPathChar ('/' :: rest) =
      '/' :: PercentEncoding.encodeExcept isPathChar rest := rfl
  have scheme : splitScheme (ofFile ('/' :: rest)) =
      ("file".toList, "//".toList ++ PercentEncoding.encodeExcept isPathChar ('/' :: rest)) := rfl
  have whole := beforeQuery_encodeExcept ('/' :: rest)
  rw [root] at scheme whole ⊢
  rw [split, clean_ofFile, scheme]
  exact congrArg (fun shown => Except.ok (Parts.mk "file".toList [] shown)) whole

/-! ## plain paths -/

theorem scheme_of_split (h : split url = .ok parts) :
    parts.scheme = (splitScheme (clean url)).1 := by
  unfold split at h
  split at h
  rename_i scheme rest found
  rw [found]
  split at h
  · dsimp only at h
    split at h
    · cases h
    · split at h
      · cases h
      · cases h
        rfl
  · cases h
    rfl

/-- A path that starts at the root has no scheme. -/
theorem scheme_of_absolute (absolute : path.head? = some '/') (h : split path = .ok parts) :
    parts.scheme = [] := by
  obtain ⟨rest, rfl⟩ := List.head?_eq_some_iff.1 absolute
  rw [scheme_of_split h]
  rfl

end Url

/-! ## one location -/

variable {path : Text} {parts : Url.Parts}

theorem FilePath.ofLocation_ofFile (absolute : path.head? = some '/') :
    ofLocation (Url.ofFile path) = .ok (parse path) := by
  rw [ofLocation, Url.split_ofFile absolute]
  change Except.ok (parse (PercentEncoding.decode _)) = _
  rw [PercentEncoding.decode_encodeExcept Url.safe_isPathChar]

theorem FilePath.ofLocation_absolute (absolute : path.head? = some '/')
    (reference : Url.split path = .ok parts) : ofLocation path = .ok (parse path) := by
  rw [ofLocation, reference, Except.map, Url.scheme_of_absolute absolute reference]
  rfl

theorem Url.isRemote_ofFile (absolute : path.head? = some '/') :
    isRemote (ofFile path) = .ok false := by
  rw [isRemote, split_ofFile absolute]
  rfl

theorem Url.isRemote_absolute (absolute : path.head? = some '/')
    (reference : split path = .ok parts) : isRemote path = .ok false := by
  rw [isRemote, reference, Except.map, scheme_of_absolute absolute reference]
  rfl

theorem fetchText_local {client : Client} {disk : Disk} {location : Text} {file : FilePath}
    (near : Url.isRemote location = .ok false) (leads : FilePath.ofLocation location = .ok file) :
    fetchText client disk location = readFile disk file := by
  rw [fetchText, near, leads]

/-- An absolute path that is a reference at all is one location with its URL. Both are local and
lead to the path itself: over any client and on any disk the same file is read, and a page goes to
the same place. -/
theorem fetchText_fileUrl (absolute : path.head? = some '/')
    (reference : Url.split path = .ok parts) :
    Url.isRemote path = .ok false ∧ Url.isRemote (Url.ofFile path) = .ok false ∧
    FilePath.ofLocation path = .ok (.parse path) ∧
    FilePath.ofLocation (Url.ofFile path) = .ok (.parse path) ∧
    (∀ client disk, fetchText client disk path = readFile disk (.parse path) ∧
      fetchText client disk (Url.ofFile path) = readFile disk (.parse path)) ∧
    CommandLine.defaultOutput (Url.ofFile path) = CommandLine.defaultOutput path := by
  have near := Url.isRemote_absolute absolute reference
  have nearUrl := Url.isRemote_ofFile absolute
  have leads := FilePath.ofLocation_absolute absolute reference
  have leadsUrl := FilePath.ofLocation_ofFile absolute
  refine ⟨near, nearUrl, leads, leadsUrl, fun client disk => ?_, ?_⟩
  · exact ⟨fetchText_local near leads, fetchText_local nearUrl leadsUrl⟩
  · rw [CommandLine.defaultOutput, CommandLine.defaultOutput, near, nearUrl, leads, leadsUrl]

/-- A file name of marks that would end a path, open an authority or begin an escape. -/
theorem fetchText_fileUrl_marks :
    Url.ofFile "/t//\u00e4 ?#[:%41.json".toList =
        "file:///t//%C3%A4%20%3F%23%5B%3A%2541.json".toList ∧
      FilePath.ofLocation "file:///t//%C3%A4%20%3F%23%5B%3A%2541.json".toList =
        .ok ⟨['/'], ["t".toList, "\u00e4 ?#[:%41.json".toList]⟩ := by
  have url : Url.ofFile "/t//\u00e4 ?#[:%41.json".toList =
      "file:///t//%C3%A4%20%3F%23%5B%3A%2541.json".toList := by decide
  have reference : Url.split "/t//\u00e4 ?#[:%41.json".toList =
      .ok ⟨[], [], "/t//\u00e4 ".toList⟩ := rfl
  obtain ⟨-, -, -, leads, -⟩ := fetchText_fileUrl rfl reference
  rw [url] at leads
  exact ⟨url, leads.trans rfl⟩

end ChatTranscript
