import ChatTranscript.Transcript.Load
import ChatTranscript.Proofs.Json.LongIntegers
import ChatTranscript.Proofs.Transcript.Outcome

/-!
# When a transcript is loaded

Over a fetcher that answers with a text or with a failure, a load can end in three ways: with
records, with a load failure, or with the fault of an integer of too many digits. The last one is
met exactly where the reader of JSON stops at such an integer.

## Main statements

* `Transcript.text_of_load`: what was fetched when a load ends with records.
* `Transcript.load_fault_iff`: a load ends with records or with a load failure unless its document
  holds such an integer.
* `Transcript.load_not_total`: there are documents that do.
-/

namespace ChatTranscript

namespace Transcript

variable {σ : Type} {fetch : Fetcher σ} {location body : Text} {source : σ} {fault : Fault}
  {count : Nat}

/-! ## documents -/

theorem ofText_tooManyDigits (read : Json.read body = .error (.tooManyDigits count)) :
    ofText body = .error (.tooManyDigits count) := by
  simp [ofText, read]

/-- A document gives records or a load failure, or holds an integer of too many digits. -/
theorem ofText_cases (body : Text) :
    (∃ records, ofText body = .ok records) ∨ (∃ failure, ofText body = .error (.load failure)) ∨
      ∃ count, Json.read body = .error (.tooManyDigits count) := by
  cases read : Json.read body with
  | ok value =>
    cases records : ofJson value with
    | ok found => exact .inl ⟨found, by simp [ofText, read, records, Except.mapError]⟩
    | error failure => exact .inr (.inl ⟨failure, by simp [ofText, read, records, Except.mapError]⟩)
  | error stop =>
    cases stop with
    | malformed place => exact .inr (.inl ⟨.notJson place, by simp [ofText, read]⟩)
    | tooManyDigits count => exact .inr (.inr ⟨count, rfl⟩)

theorem value_of_ofText {records : List Record} (accepted : ofText body = .ok records) :
    ∃ value, Json.read body = .ok value := by
  unfold ofText at accepted
  split at accepted
  · exact ⟨_, ‹_›⟩
  all_goals cases accepted

/-! ## locations -/

theorem load_text (answer : (fetch location source).1 = .text body) :
    (load fetch location source).1 = ofText body := by
  simp [load, answer]

theorem load_failed {failure : FetchFailure}
    (answer : (fetch location source).1 = .failed failure) :
    (load fetch location source).1 = .error (.load (.unavailable location failure)) := by
  simp [load, answer]

/-- A transcript that is loaded was fetched as the text of a JSON value. -/
theorem text_of_load {records : List Record} {last : σ}
    (loaded : load fetch location source = (.ok records, last)) :
    ∃ body value, (fetch location source).1 = .text body ∧ Json.read body = .ok value := by
  have ended := congrArg Prod.fst loaded
  cases answer : (fetch location source).1 with
  | text body =>
    rw [load_text answer] at ended
    obtain ⟨value, json⟩ := value_of_ofText ended
    exact ⟨body, value, rfl, json⟩
  | failed failure => cases (load_failed answer).symm.trans ended
  | raised fault => simp [load, answer] at ended

theorem load_cases (answers : ∀ fault, (fetch location source).1 ≠ .raised fault) :
    (∃ records, (load fetch location source).1 = .ok records) ∨
      (∃ failure, (load fetch location source).1 = .error (.load failure)) ∨
      ∃ body count, (fetch location source).1 = .text body ∧
        Json.read body = .error (.tooManyDigits count) := by
  cases answer : (fetch location source).1 with
  | raised fault => exact absurd answer (answers fault)
  | failed failure => exact .inr (.inl ⟨_, load_failed answer⟩)
  | text body =>
    rw [load_text answer]
    obtain records | failure | ⟨count, read⟩ := ofText_cases body
    · exact .inl records
    · exact .inr (.inl failure)
    · exact .inr (.inr ⟨body, count, rfl, read⟩)

/-- A load over a fetcher that answers ends with records or with a load failure exactly if it comes
to no document with an integer of too many digits. Any other fault is that of such an integer, and
its digits stand in a row in the document. -/
theorem load_fault_iff (answers : ∀ fault, (fetch location source).1 ≠ .raised fault) :
    (((∃ records, (load fetch location source).1 = .ok records) ∨
        ∃ failure, (load fetch location source).1 = .error (.load failure)) ↔
      ∀ body, (fetch location source).1 = .text body →
        ∀ count, Json.read body ≠ .error (.tooManyDigits count)) ∧
    ∀ fault, (load fetch location source).1 = .error fault →
      (∃ failure, fault = .load failure) ∨
      ∃ body count, (fetch location source).1 = .text body ∧ fault = .tooManyDigits count ∧
        Json.maxDigits < count ∧ body.HasRun Json.isAsciiDigit count := by
  refine ⟨⟨fun ends body answer count read => ?_, fun small => ?_⟩, fun fault raises => ?_⟩
  · have raises := (load_text answer).trans (ofText_tooManyDigits read)
    simp [raises] at ends
  · obtain records | failure | ⟨body, count, answer, read⟩ := load_cases answers
    · exact .inl records
    · exact .inr failure
    · exact absurd read (small body answer count)
  · obtain ⟨records, loaded⟩ | ⟨failure, failed⟩ | ⟨body, count, answer, read⟩ := load_cases answers
    · simp [loaded] at raises
    · exact .inl ⟨failure, (Except.error.inj (failed.symm.trans raises)).symm⟩
    · have stops := (load_text answer).trans (ofText_tooManyDigits read)
      obtain rfl : fault = .tooManyDigits count := Except.error.inj (raises.symm.trans stops)
      exact .inr ⟨body, count, answer, rfl, Json.hasRun_of_read read⟩

/-- A fetcher that has a text at one location, and nothing elsewhere. -/
def fetchAt (location body : Text) : Fetcher Unit := fun asked _ =>
  if asked = location then (.text body, ()) else (.failed (.status 404), ())

@[simp] theorem fetchAt_self (location body : Text) :
    (fetchAt location body location ()).1 = .text body := by
  simp [fetchAt]

/-- A transcript of two records. The second sender has no name that could be shown. -/
def namelessSender : Text :=
  "[\x7b\"name\": \"alice\", \"content\": \"hi\"\x7d, \x7b\"name\": true\x7d]".toList

theorem load_fault_namelessSender :
    let location := "https://t.test/chat.json".toList
    (∀ fault, (fetchAt location namelessSender location ()).1 ≠ .raised fault) ∧
      ∃ rejection, (load (fetchAt location namelessSender) location ()).1 =
        .error (.load (.invalidRecord 1 rejection)) := by
  intro location
  have answer : (fetchAt location namelessSender location ()).1 = .text namelessSender :=
    fetchAt_self location namelessSender
  have answers (fault : Fault) :
      (fetchAt location namelessSender location ()).1 ≠ .raised fault := by
    rw [answer]
    rintro ⟨⟩
  have read : (Json.read namelessSender).toOption.isSome = true := by decide +kernel
  have small (body : Text) (same : (fetchAt location namelessSender location ()).1 = .text body)
      (count : Nat) : Json.read body ≠ .error (.tooManyDigits count) := by
    cases answer.symm.trans same
    intro stops
    rw [stops] at read
    cases read
  have second : (ofText namelessSender matches .error (.load (.invalidRecord 1 _))) = true := by
    decide +kernel
  refine ⟨answers, ?_⟩
  obtain ⟨records, loaded⟩ | ⟨failure, failed⟩ := (load_fault_iff answers).1.2 small
  · rw [← load_text answer, loaded] at second
    cases second
  · rw [← load_text answer, failed] at second
    split at second
    · rename_i same
      cases same
      exact ⟨_, failed⟩
    · cases second

/-- A fetcher that has only ones. -/
def fetchOnes (count : Nat) : Fetcher Unit := fun _ _ => (.text (List.replicate count '1'), ())

theorem fetchOnes_answers (count : Nat) (location : Text) (fault : Fault) :
    (fetchOnes count location ()).1 ≠ .raised fault := by
  simp [fetchOnes]

theorem load_ones (location : Text) (count : Nat) (large : Json.maxDigits < count) :
    (load (fetchOnes count) location ()).1 = .error (.tooManyDigits count) :=
  ofText_tooManyDigits (Json.read_ones large)

theorem load_not_total :
    ¬ ∀ (fetch : Fetcher Unit) (location : Text),
      (∀ fault, (fetch location ()).1 ≠ .raised fault) →
        (∃ records, (load fetch location ()).1 = .ok records) ∨
        ∃ failure, (load fetch location ()).1 = .error (.load failure) := by
  intro total
  have stops := load_ones [] 4301 (by decide)
  have ends := total (fetchOnes 4301) [] (fetchOnes_answers 4301 [])
  simp [stops] at ends

end Transcript

end ChatTranscript
