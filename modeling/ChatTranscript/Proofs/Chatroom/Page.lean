import ChatTranscript.Proofs.Chatroom.Phases
import ChatTranscript.Proofs.Files.Writing
import ChatTranscript.Proofs.Html.Entities
import ChatTranscript.Proofs.Transcript.Styles

/-!
# The page of a chatroom

A chatroom that is rendered into a file leaves a page there. Its style tags are those of the session
after the render, so they include the tags of templates that this render was the first to fetch.

## Main statements

* `PageFile.target_cases`: the two ways in which writing a page ends.
* `Chatroom.page_of_render`: the file that a render leaves.
-/

namespace ChatTranscript

/-! ## page files -/

namespace PageFile

variable {file : PageFile} {styles : Style.Scope} {markup : Text} {disk after : Disk}

/-- A page is written and found under its path, or it is not and all files are as they were. -/
theorem target_cases (file : PageFile) (styles : Style.Scope) (markup : Text) (disk : Disk) :
    (∃ after, file.target styles markup disk = (.ok (), after) ∧
      disk.Wrote file.output (Utf8.encode (file.page styles markup)) after) ∨
    ∃ fault after, file.target styles markup disk = (.error fault, after) ∧
      disk.Furnishes after := by
  -- directories that were made stay, whatever comes of the file
  have furnished := disk.makeDirectories_furnishes file.output.parent
  unfold target write
  rcases made : disk.makeDirectories file.output.parent with ⟨middle, fault | _⟩
  all_goals
    rw [made] at furnished
    dsimp only
  · exact .inr ⟨.disk fault, middle, rfl, furnished⟩
  · cases written : middle.write file.output (Utf8.encode (file.page styles markup)) with
    | error fault => exact .inr ⟨.disk fault, middle, rfl, furnished⟩
    | ok after => exact .inl ⟨after, rfl, Disk.wrote_of_write furnished written⟩

theorem wrote_of_target (taken : file.target styles markup disk = (.ok (), after)) :
    disk.Wrote file.output (Utf8.encode (file.page styles markup)) after := by
  obtain ⟨last, eq, wrote⟩ | ⟨fault, last, eq, -⟩ := file.target_cases styles markup disk
  · cases taken.symm.trans eq
    exact wrote
  · cases taken.symm.trans eq

theorem furnishes_of_target {fault : Fault}
    (refused : file.target styles markup disk = (.error fault, after)) : disk.Furnishes after := by
  obtain ⟨last, eq, -⟩ | ⟨fault, last, eq, furnished⟩ := file.target_cases styles markup disk
  · cases refused.symm.trans eq
  · cases refused.symm.trans eq
    exact furnished

end PageFile

/-! ## pages -/

namespace Chatroom

variable {σ : Type} {room : Chatroom} {load : Fetcher σ} {renderer : Renderer σ} {markup : Text}
  {session after : Session σ}

theorem draw_eq_ok (shown : room.draw load renderer session = (.ok markup, after)) :
    ∃ records source,
      Transcript.load load room.source session.source = (.ok records, source) ∧
      renderer.container room.view room.title records { session with source } =
        (.ok markup, after) := by
  unfold draw at shown
  rcases loaded : Transcript.load load room.source session.source with ⟨fault | records, source⟩
  · rw [loaded] at shown
    cases shown
  · rw [loaded] at shown
    exact ⟨records, source, rfl, shown⟩

/-- A render into a file that returns leaves a page there, and all other files as they were. The
page is the frame around the escaped title, the style tags of the session after the render, a tag in
a line, the escaped mount id, and the container as it was rendered. The tags are those from before
the render, and then those of the templates that it was the first to fetch: each tag once, in the
order in which they came first. -/
theorem page_of_render (room : Chatroom) (load : Fetcher σ) (renderer : Renderer σ)
    (output : FilePath) (run ended : Run σ Disk) (markup : Text)
    (returns : room.render load renderer (room.pageFile output).target run = (.ok markup, ended)) :
    ∃ records source arrived,
      Transcript.load load room.source run.session.source = (.ok records, source) ∧
      renderer.container room.view room.title records { run.session with source } =
        (.ok markup, ended.session) ∧
      run.session.store.Gains arrived (Template.stylesOf arrived) ended.session.store ∧
      ended.session.store.styles.tags.Nodup ∧
      run.target.Wrote output
        (Utf8.encode (Html.Frame.beforeTitle ++ Html.escapeWith Html.inPages room.title ++
          Html.Frame.beforeStyles ++
          List.intercalate ['\n'] ended.session.store.styles.tags ++
          Html.Frame.beforeMount ++ Html.escapeWith Html.inPages room.mountId ++
          Html.Frame.beforeContainer ++ markup ++ Html.Frame.afterContainer))
        ended.target ∧
      Html.unescapeWith Html.inPages (Html.escapeWith Html.inPages room.title) = room.title ∧
      Html.unescapeWith Html.inPages (Html.escapeWith Html.inPages room.mountId) =
        room.mountId := by
  obtain ⟨shown, taken⟩ := render_eq_ok returns
  obtain ⟨records, source, loaded, rendered⟩ := draw_eq_ok shown
  obtain ⟨arrived, gains⟩ : run.session.store.Gathers ended.session.store := by
    have gathers := renderer.container_gathers room.view room.title records
      { run.session with source }
    rwa [rendered] at gathers
  refine ⟨records, source, arrived, loaded, rendered, gains, ended.session.store.styles.nodup, ?_,
    Html.unescapeWith_escapeWith Html.inPages_sound _,
    Html.unescapeWith_escapeWith Html.inPages_sound _⟩
  exact PageFile.wrote_of_target taken

/-- A transcript with one card, and a style tag in every template. -/
def sampleTexts : Fetcher Unit := fun location _ =>
  if location = "transcript".toList then
    (.text "[\x7b\"element\": \"card\", \"content\": \x7b\"app\": \"a\"\x7d\x7d]".toList, ())
  else (.text "<p>card</p><style>p</style>".toList, ())

def sampleRoom : Chatroom :=
  ⟨"chat".toList, "transcript".toList, "me".toList, "<A & B>".toList, false, "T".toList, []⟩

def sampleOutput : FilePath := .parse "out/chat.html".toList

def sampleRun : Run Unit Disk :=
  ⟨.fresh [] Template.fallback (), .empty, ⟨false, ⟨[], .ofInt 0⟩, []⟩⟩

def sampleEnded : Except Fault Text × Run Unit Disk :=
  sampleRoom.render sampleTexts (sampleRoom.renderer sampleTexts (.counting 0 0) [])
    (sampleRoom.pageFile sampleOutput).target sampleRun

/-- The tag of a template that is first fetched by the render is on the page. -/
theorem page_of_render_card :
    ∃ markup ended arrived,
      sampleEnded = (.ok markup, ended) ∧
      sampleRun.session.store.Gains arrived (Template.stylesOf arrived) ended.session.store ∧
      ended.session.store.styles.tags = ["<style>p</style>".toList] ∧
      sampleRun.target.Wrote sampleOutput
        (Utf8.encode ((sampleRoom.pageFile sampleOutput).page ended.session.store.styles markup))
        ended.target := by
  have returns : sampleEnded.1.isOk = true := by decide +kernel
  have tags : sampleEnded.2.session.store.styles.tags = ["<style>p</style>".toList] := by
    decide +kernel
  rcases shown : sampleEnded with ⟨fault | markup, ended⟩
  · rw [shown] at returns
    cases returns
  · rw [shown] at tags
    obtain ⟨records, source, arrived, -, -, gains, -, wrote, -⟩ :=
      page_of_render sampleRoom sampleTexts _ sampleOutput sampleRun ended markup shown
    exact ⟨markup, ended, arrived, rfl, gains, tags, wrote⟩

end Chatroom

end ChatTranscript
