import ChatTranscript.Proofs.CommandLine.Outcome
import ChatTranscript.Proofs.Fetch.Locations
import ChatTranscript.Proofs.Files.Siblings
import ChatTranscript.Proofs.Text.Utf8

/-!
# What becomes of the transcript

A page goes next to its transcript by default, under the same name with another suffix. The
transcript is left as it was, unless it has this suffix itself: then the page takes its place, and
as a page is no JSON it cannot be rendered again.

## Main statements

* `Transcript.file_of_load`: the file that a loaded transcript was read from.
* `Html.unreadable_page`: a page is no transcript.
* `CommandLine.transcript_kept_iff`: when the transcript is left as it was.
* `CommandLine.transcript_replaced`: a transcript that is lost.
-/

namespace ChatTranscript

/-! ## transcripts in files -/

namespace Transcript

variable {client : Client} {disk : Disk} {location : Text} {records : List Record} {last : Unit}

/-- A local transcript that is loaded was read from the file at its path, which holds JSON. -/
theorem file_of_load (near : Url.isRemote location = .ok false)
    (loaded : load (fetchOver client disk) location () = (.ok records, last)) :
    ∃ path bytes text value, FilePath.ofLocation location = .ok path ∧
      disk.read path = .ok bytes ∧ Utf8.decode bytes = .ok text ∧
      Json.read (Text.unifyLineEnds text) = .ok value := by
  obtain ⟨body, value, answer, json⟩ := text_of_load loaded
  change fetchText client disk location = .text body at answer
  cases leads : FilePath.ofLocation location with
  | error fault => simp [fetchText, near, leads] at answer
  | ok path =>
    rw [fetchText, near, leads] at answer
    change readFile disk path = .text body at answer
    unfold readFile at answer
    split at answer
    · cases answer
    · split at answer
      · cases answer
      · cases answer
        exact ⟨path, _, _, value, rfl, ‹_›, ‹_›, json⟩

end Transcript

theorem Json.read_markup (rest : Text) :
    ∃ fault, Json.read ('<' :: rest) = .error (.malformed fault) :=
  ⟨_, rfl⟩

/-- The bytes of a page are not those of a transcript. -/
theorem Html.unreadable_page (container title mount styles : Text) {text : Text} {value : Json}
    (decoded : Utf8.decode (Utf8.encode (page container title mount styles)) = .ok text) :
    Json.read (Text.unifyLineEnds text) ≠ .ok value := by
  rw [Utf8.decode_encode] at decoded
  obtain rfl := Except.ok.inj decoded
  -- all pages start with the same tag
  obtain ⟨rest, tag⟩ : ∃ rest,
      Text.unifyLineEnds (page container title mount styles) = '<' :: rest := ⟨_, rfl⟩
  obtain ⟨fault, refused⟩ := Json.read_markup rest
  simp [tag, refused]

/-! ## chatrooms of command lines -/

theorem Chatroom.source_of_ofFields {templatesUrl : Text} {fields : Fields} {room : Chatroom}
    (accepted : ofFields templatesUrl fields = .ok room) :
    (readEntry sourceKeys none readFilled fields).2 = .ok room.source := by
  unfold ofFields at accepted
  generalize readEntry nameKeys _ _ _ = name, readEntry sourceKeys _ _ _ = source,
    readEntry myAvatarKeys _ _ _ = myAvatar, readEntry titleKeys _ _ _ = title,
    readEntry hideKeys _ _ _ = hide, readEntry templatesKeys _ _ _ = templates,
    readEntry viewerKeys _ _ _ = viewer at accepted ⊢
  dsimp only at accepted
  split at accepted
  · cases accepted
    assumption
  · cases accepted

theorem Chatroom.eq_of_readFilled {text filled : Text}
    (accepted : readFilled (.str text) = .ok filled) : filled = text := by
  change (if (Text.strip text).isEmpty = true then Except.error _ else Except.ok text) =
    Except.ok filled at accepted
  split at accepted
  · cases accepted
  · exact (Except.ok.inj accepted).symm

namespace CommandLine

variable {invocation : Invocation} {templatesUrl : Text} {room : Chatroom} {path output : FilePath}

theorem Invocation.source_of_room (accepted : invocation.room templatesUrl = .ok room) :
    room.source = invocation.source := by
  have described := Results.mapError_eq_ok.1 accepted
  exact Chatroom.eq_of_readFilled (Chatroom.source_of_ofFields described)

theorem Invocation.plan_eq_ok (planned : invocation.plan templatesUrl = .ok (room, output)) :
    room.source = invocation.source ∧ invocation.outputPath = .ok output := by
  unfold plan at planned
  obtain ⟨found, accepted, planned⟩ := Results.bind_eq_ok.1 planned
  obtain ⟨path, placed, planned⟩ := Results.bind_eq_ok.1 planned
  cases planned
  exact ⟨source_of_room accepted, placed⟩

/-- The page of a local transcript goes under the path of the transcript, with the suffix of
pages. -/
theorem withSuffix_of_defaultOutput {source : Text} (near : Url.isRemote source = .ok false)
    (leads : FilePath.ofLocation source = .ok path) (placed : defaultOutput source = .ok output) :
    path.withSuffix ".html".toList = some output := by
  unfold defaultOutput at placed
  grind

variable {words : List Text} {surroundings : Surroundings Unit} {client : Client} {disk : Disk}

/-- A command line with a local source that does not say where its page goes, and ends with exit
code 0, has read the transcript there and has written the page next to it. The transcript is left as
it was exactly if the page has another path. The page has the path of the transcript exactly if the
name of the transcript ends as those of pages do. -/
theorem transcript_kept_iff (parsed : Invocation.ofArguments words = .ok invocation)
    (undirected : invocation.output = none)
    (near : Url.isRemote invocation.source = .ok false)
    (well : (run (fetchOver client disk) PageFile.target surroundings words () disk).1.exit = 0) :
    let after := (run (fetchOver client disk) PageFile.target surroundings words () disk).2.2
    ∃ path output bytes page,
      FilePath.ofLocation invocation.source = .ok path ∧
      defaultOutput invocation.source = .ok output ∧
      disk.read path = .ok bytes ∧
      after.read output = .ok page ∧
      page ≠ bytes ∧
      (after.read path = .ok bytes ↔ output ≠ path) ∧
      (output = path ↔ ∃ stem ≠ [], path.parts.getLast? = some (stem ++ ".html".toList)) := by
  intro after
  obtain ⟨done, -, tells⟩ := conversion_of_run well
  have left : after = done.after := done.after_of_writes (done.tells_iff.1 tells).1
  have taken := done.write
  have loaded := done.load
  obtain ⟨parsed', planned⟩ := done.asks
  cases parsed.symm.trans parsed'
  obtain ⟨source, placed⟩ := Invocation.plan_eq_ok planned
  rw [source] at loaded
  obtain ⟨path, bytes, text, value, leads, read, decoded, json⟩ :=
    Transcript.file_of_load near loaded
  rw [Invocation.outputPath, undirected] at placed
  have named := withSuffix_of_defaultOutput near leads placed
  have wrote := PageFile.wrote_of_target taken
  have differs : Utf8.encode
      ((done.room.pageFile done.output).page done.session.store.styles done.markup) ≠ bytes := by
    rintro rfl
    exact Html.unreadable_page _ _ _ _ decoded json
  rw [left]
  refine ⟨path, done.output, bytes, _, leads, placed, read, wrote.read, differs, ⟨?_, ?_⟩,
    FilePath.withSuffix_eq_self_iff named (by decide) (by decide)⟩
  · rintro kept rfl
    exact differs (Except.ok.inj (wrote.read.symm.trans kept))
  · intro elsewhere
    exact PageFile.read_of_write_withSuffix named (by decide) elsewhere read taken

/-! ## two transcripts -/

theorem transcript_kept_beside :
    (runOn .takesAll "a.json".toList).1.exit = 0 ∧
      (runOn .takesAll "a.json".toList).2.2.read (.parse "a.json".toList) = .ok greeting := by
  have well : (runOn .takesAll "a.json".toList).1.exit = 0 := by decide +kernel
  have parsed : Invocation.ofArguments ["a.json".toList, "--my-avatar".toList, "me".toList] =
      .ok _ := rfl
  have reads : (holding "a.json".toList).read (.parse "a.json".toList) = .ok greeting := rfl
  have elsewhere : "a.html".toList ≠ "a.json".toList := by decide
  refine ⟨well, ?_⟩
  unfold runOn at well ⊢
  obtain ⟨path, output, bytes, page, leads, placed, read, -, -, kept, -⟩ :=
    transcript_kept_iff parsed rfl rfl well
  cases leads
  cases placed
  cases reads.symm.trans read
  exact kept.2 fun same => elsewhere (congrArg FilePath.text same)

/-- A transcript that has the suffix of pages is lost. -/
theorem transcript_replaced :
    ¬ ∀ (client : Client) (disk : Disk) (surroundings : Surroundings Unit) (words : List Text)
        (invocation : Invocation) (path : FilePath) (bytes : List UInt8),
      Invocation.ofArguments words = .ok invocation → invocation.output = none →
      Url.isRemote invocation.source = .ok false →
      FilePath.ofLocation invocation.source = .ok path → disk.read path = .ok bytes →
      (run (fetchOver client disk) PageFile.target surroundings words () disk).1.exit = 0 →
      (run (fetchOver client disk) PageFile.target surroundings words () disk).2.2.read path =
        .ok bytes := by
  intro keeps
  have well : (runOn .takesAll "a.html".toList).1.exit = 0 := by decide +kernel
  have lost : ((runOn .takesAll "a.html".toList).2.2.read (.parse "a.html".toList)).toOption ≠
      some greeting := by decide +kernel
  have reads : (holding "a.html".toList).read (.parse "a.html".toList) = .ok greeting := rfl
  unfold runOn at well lost
  exact lost (congrArg Except.toOption (keeps _ _ _ _ _ _ _ rfl rfl rfl rfl reads well))

end CommandLine

end ChatTranscript
