import ChatTranscript.Fetch.Client
import ChatTranscript.Proofs.Session.Growth
import ChatTranscript.Proofs.Transcript.Loading

/-!
# Which locations are answered

Over a client that answers, the text of a location is found or the fetch fails, whatever stands on
the disk. Only a location that is no reference is met as a fault, by its authority: there are
brackets in it, or characters that fold to the delimiters of a URL.

## Main definitions

* `Url.spoils`: the characters without which every text is a reference.
* `fetchOver`: fetching over a client and a disk that do not change.

## Main statements

* `fetchText_answers_iff`: which locations are answered, and what templates and transcripts make of
  the others.
* `fetchText_not_total`: there are locations that are not answered.
-/

namespace ChatTranscript

/-! ## references -/

namespace Url

variable {authority url : Text} {fault : Fault}

/-- A bracket, or a character that folds to a delimiter. -/
def spoils (c : Char) : Bool := c = '[' || c = ']' || Host.foldsToDelimiter.contains c

theorem exists_spoils_of_checkBrackets (h : checkBrackets authority = .error fault) :
    ∃ c ∈ authority, spoils c = true := by
  have bracket : '[' ∈ authority ∨ ']' ∈ authority := by
    by_contra neither
    simp_all [checkBrackets]
  obtain opening | closing := bracket
  · exact ⟨_, opening, by simp [spoils]⟩
  · exact ⟨_, closing, by simp [spoils]⟩

theorem exists_spoils_of_isDeceptive (h : Host.isDeceptive authority = true) :
    ∃ c ∈ authority, spoils c = true := by
  obtain ⟨c, member, folds⟩ := List.any_eq_true.1 h
  exact ⟨c, member, by simp [spoils, folds]⟩

theorem sublist_clean (url : Text) : (clean url).Sublist url :=
  List.filter_sublist.trans (List.dropWhile_sublist _)

theorem suffix_splitScheme (url : Text) : (splitScheme url).2 <:+ url := by
  unfold splitScheme
  split
  · rename_i rest span
    have colon : ':' :: rest <:+ url := by
      rw [← (Prod.mk.inj span).2]
      exact List.dropWhile_suffix _
    split
    · exact (List.suffix_cons _ _).trans colon
    · exact List.suffix_rfl
  · exact List.suffix_rfl

/-- A text is no reference because of a character that spoils its authority. -/
theorem exists_spoils_of_split (h : split url = .error fault) : ∃ c ∈ url, spoils c = true := by
  have inside := (suffix_splitScheme (clean url)).sublist.trans (sublist_clean url)
  suffices found : ∃ c ∈ (splitScheme (clean url)).2, spoils c = true by
    obtain ⟨c, member, spoiled⟩ := found
    exact ⟨c, inside.subset member, spoiled⟩
  unfold split at h
  split at h
  rename_i scheme rest found
  rw [found]
  split at h
  · rename_i rest
    have inside : rest.takeWhile (fun c => !isAuthorityEnd c) ⊆ '/' :: '/' :: rest :=
      fun c member => by simp [(List.takeWhile_sublist _).subset member]
    suffices found : ∃ c ∈ rest.takeWhile (fun c => !isAuthorityEnd c), spoils c = true by
      obtain ⟨c, member, spoiled⟩ := found
      exact ⟨c, inside member, spoiled⟩
    dsimp only [Text.spanWhile] at h
    split at h
    · rename_i brackets
      exact exists_spoils_of_checkBrackets brackets
    · split at h
      · rename_i deceptive
        exact exists_spoils_of_isDeceptive deceptive
      · cases h
  · cases h

end Url

/-! ## locations -/

variable {client : Client} {disk : Disk} {location : Text} {store : Template.Store}

theorem Response.outcome_cases (response : Response) :
    (∃ body, response.outcome = .text body) ∨ ∃ failure, response.outcome = .failed failure := by
  unfold outcome
  split
  · exact .inl ⟨_, rfl⟩
  · exact .inr ⟨_, rfl⟩

/-- A client that raises no fault of another kind answers a URL. -/
theorem Reply.outcome_cases {reply : Reply} (sound : ∀ fault, reply ≠ .raised fault) :
    (∃ body, reply.outcome = .text body) ∨ ∃ failure, reply.outcome = .failed failure := by
  cases reply with
  | answer response => exact response.outcome_cases
  | failed failure => exact .inr ⟨failure, rfl⟩
  | raised fault => exact absurd rfl (sound fault)

theorem readFile_cases (disk : Disk) (path : FilePath) :
    (∃ body, readFile disk path = .text body) ∨
      ∃ failure, readFile disk path = .failed failure := by
  unfold readFile
  split
  · exact .inr ⟨_, rfl⟩
  · split
    · exact .inr ⟨_, rfl⟩
    · exact .inl ⟨_, rfl⟩

theorem fetchText_error {fault : Url.Fault} (split : Url.split location = .error fault) :
    fetchText client disk location = .raised (.address fault) := by
  simp [fetchText, Url.isRemote, FilePath.ofLocation, split, Except.map]

theorem fetchText_ok {parts : Url.Parts} (disk : Disk)
    (sound : ∀ fault, client location ≠ .raised fault) (split : Url.split location = .ok parts) :
    (∃ body, fetchText client disk location = .text body) ∨
      ∃ failure, fetchText client disk location = .failed failure := by
  unfold fetchText
  simp only [Url.isRemote, FilePath.ofLocation, split, Except.map]
  cases Url.isHttp parts.scheme with
  | true => exact Reply.outcome_cases sound
  | false => exact readFile_cases disk _

/-- Fetching over a client and a disk that do not change. -/
def fetchOver (client : Client) (disk : Disk) : Fetcher Unit := fun location source =>
  (fetchText client disk location, source)

namespace Template.Store

theorem get_fetchOver (store : Store) (location : Text) :
    (store.get (fetchOver client disk) location ()).1 =
      store.answer (fetchText client disk) location := by
  have fixed (path : Text) (source : Unit) :
      (fetchOver client disk path source).1 = fetchText client disk path := rfl
  exact get_answer fixed location store ()

/-- A template is found exactly if it is kept or its path is a reference. It is the kept text, the
fetched text or the fallback. -/
theorem get_fetchOver_iff (sound : ∀ fault, client location ≠ .raised fault)
    (store : Store) :
    (∃ template, (store.get (fetchOver client disk) location ()).1 = .ok template ∧
      (store.get? location = some template ∨ fetchText client disk location = .text template ∨
        template = store.fallback)) ↔
      (∃ template, store.get? location = some template) ∨
        ∃ parts, Url.split location = .ok parts := by
  rw [get_fetchOver, answer]
  cases kept : store.get? location with
  | some template => simp
  | none =>
    cases split : Url.split location with
    | error fault => simp [fetchText_error split, settle]
    | ok parts =>
      obtain ⟨body, text⟩ | ⟨failure, failed⟩ := fetchText_ok disk sound split
      · simp [text, settle]
      · simp [failed, settle]

end Template.Store

/-- A location is answered, with a text or a failure, exactly if it is a reference, and else its
fault is met: over such a client nothing else leaves. So every path that is a reference has a
template, kept or fetched or the fallback, and a transcript that cannot be fetched is a load
failure. -/
theorem fetchText_answers_iff (sound : ∀ fault, client location ≠ .raised fault) :
    (((∃ body, fetchText client disk location = .text body) ∨
        ∃ failure, fetchText client disk location = .failed failure) ↔
      ∃ parts, Url.split location = .ok parts) ∧
    (∀ fault, fetchText client disk location = .raised fault ↔
      ∃ cause, Url.split location = .error cause ∧ fault = .address cause) ∧
    (∀ cause, Url.split location = .error cause → ∃ c ∈ location, Url.spoils c = true) ∧
    (∀ store : Template.Store,
      (∃ template, (store.get (fetchOver client disk) location ()).1 = .ok template ∧
        (store.get? location = some template ∨
          fetchText client disk location = .text template ∨ template = store.fallback)) ↔
      (∃ template, store.get? location = some template) ∨
        ∃ parts, Url.split location = .ok parts) ∧
    ∀ failure, fetchText client disk location = .failed failure →
      (Transcript.load (fetchOver client disk) location ()).1 =
        .error (.load (.unavailable location failure)) := by
  refine ⟨?_, fun fault => ?_, fun cause => Url.exists_spoils_of_split,
    Template.Store.get_fetchOver_iff sound, fun failure failed => Transcript.load_failed failed⟩
  · cases split : Url.split location with
    | error fault => simp [fetchText_error split]
    | ok parts => simpa using fetchText_ok disk sound split
  · cases split : Url.split location with
    | error cause => simp [fetchText_error split, eq_comm]
    | ok parts =>
      obtain ⟨body, text⟩ | ⟨failure, failed⟩ := fetchText_ok disk sound split
      · simp [text]
      · simp [failed]

/-- A client that finds nothing. -/
def nothingFound : Client := fun _ => .answer ⟨404, []⟩

theorem fetchText_answers_nothingFound :
    (∀ fault, nothingFound "http://t.test/x.html".toList ≠ .raised fault) ∧
      fetchText nothingFound .empty "http://t.test/x.html".toList = .failed (.status 404) ∧
      (Transcript.load (fetchOver nothingFound .empty) "http://t.test/x.html".toList ()).1 =
        .error (.load (.unavailable "http://t.test/x.html".toList (.status 404))) := by
  have sound (fault : Fault) : nothingFound "http://t.test/x.html".toList ≠ .raised fault := by
    simp [nothingFound]
  have failed : fetchText nothingFound .empty "http://t.test/x.html".toList =
      .failed (.status 404) := rfl
  exact ⟨sound, failed, (fetchText_answers_iff sound).2.2.2.2 _ failed⟩

/-- A bracket that is not closed is met as a fault, though the client raises none. -/
theorem fetchText_not_total :
    ¬ ∀ (client : Client) (disk : Disk) (location : Text),
      (∀ url fault, client url ≠ .raised fault) →
        (∃ body, fetchText client disk location = .text body) ∨
        ∃ failure, fetchText client disk location = .failed failure := by
  intro total
  have raises : fetchText nothingFound .empty "http://[".toList =
      .raised (.address .unbalancedBracket) := rfl
  have answers := total nothingFound .empty "http://[".toList (by simp [nothingFound])
  rw [raises] at answers
  simp at answers

end ChatTranscript
