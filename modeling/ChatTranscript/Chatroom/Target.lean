import ChatTranscript.Style.Scope
import ChatTranscript.Html.Page
import ChatTranscript.Fault

/-!
# Where markup goes

A finished render is handed to a target, together with the style scope of its page.

## Main definitions

* `Target`: a way to take markup.
* `Slot`: keeps markup in memory.
* `PageFile`: writes markup as a page of its own.
-/

namespace ChatTranscript

abbrev Target (τ : Type) := Style.Scope → Text → τ → Except Fault Unit × τ

/-! ## memory -/

/-- A slot that nobody waits for any more is detached. -/
structure Slot where
  detached : Bool
  markup : Option Text

def Slot.put (markup : Text) (slot : Slot) : Slot :=
  if slot.detached then slot else { slot with markup := some markup }

def Slot.target : Target Slot := fun _ markup slot => (.ok (), slot.put markup)

/-! ## pages -/

structure PageFile where
  output : FilePath
  title : Text
  mount : Text

namespace PageFile

def page (file : PageFile) (styles : Style.Scope) (markup : Text) : Text :=
  Html.page markup file.title file.mount styles.render

/-- Writes a text into a directory that is made if it is missing. -/
def write (output : FilePath) (text : Text) (disk : Disk) : Except Fault Unit × Disk :=
  match disk.makeDirectories output.parent with
  | (disk, .error fault) => (.error (.disk fault), disk)
  | (disk, .ok ()) =>
    match disk.write output (Utf8.encode text) with
    | .error fault => (.error (.disk fault), disk)
    | .ok disk => (.ok (), disk)

def target (file : PageFile) : Target Disk := fun styles markup disk =>
  write file.output (file.page styles markup) disk

end PageFile

end ChatTranscript
