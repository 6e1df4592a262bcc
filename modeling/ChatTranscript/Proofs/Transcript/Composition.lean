import ChatTranscript.Proofs.Transcript.Trace

/-!
# Transcripts one after the other

A transcript that is continued renders as its two parts do, the second in the session that the first
leaves. Only messages of the second part that repeat a notice of the first are left out, which they
are not if the second part is rendered by itself.

## Main definitions

* `Transcript.beyond`: the records that repeat no notice of another transcript.
* `Renderer.Returns`: renders that return, record by record.

## Main statements

* `Renderer.Returns.append`: a render goes on where the render of its first part stops.
* `Renderer.transcript_append`: what comes later does not change what was rendered before.
-/

namespace ChatTranscript

/-- The records that repeat no notice of another transcript. -/
def Transcript.beyond (earlier records : List Record) : List Record :=
  records.filter fun record => ¬ record.Repeats earlier

/-- The contents in `more` are those in `seen` and those of the notices of a transcript. -/
def Joins (earlier : List Record) (seen more : List ContentKey) : Prop :=
  ∀ key, key ∈ more ↔ key ∈ seen ∨
    ∃ notice ∈ earlier, notice.isSystem = true ∧ notice.content.contentKey = key

namespace Joins

variable {earlier : List Record} {seen more : List ContentKey} {record : Record}

theorem ofTracks (h : Tracks more earlier) : Joins earlier [] more := by
  intro key
  simp [h key]

theorem cons (h : Joins earlier seen more) (key : ContentKey) :
    Joins earlier (key :: seen) (key :: more) := by
  intro other
  rw [List.mem_cons, List.mem_cons, h other, or_assoc]

theorem contains_of_repeats (h : Joins earlier seen more) (repeats : record.Repeats earlier) :
    more.contains record.content.contentKey = true :=
  List.contains_iff_mem.2 ((h _).2 (.inr repeats.2))

theorem contains_eq (h : Joins earlier seen more) (message : record.isSystem = false)
    (new : ¬ record.Repeats earlier) :
    more.contains record.content.contentKey = seen.contains record.content.contentKey := by
  have unrepeated := fun repeated => new ⟨message, repeated⟩
  rw [Bool.eq_iff_iff, List.contains_iff_mem, List.contains_iff_mem, h, or_iff_left unrepeated]

end Joins

namespace Renderer

variable {σ : Type} {renderer : Renderer σ} {view : AvatarView} {record : Record}
  {before earlier later records : List Record} {session middle after : Session σ}
  {seen more : List ContentKey} {fragment : Text} {first fragments : List Text}

/-! ## renders that return -/

/-- A render that returns, record by record. -/
inductive Returns (renderer : Renderer σ) (view : AvatarView) :
    List ContentKey → List Record → Session σ → List Text → Session σ → Prop where
  | done (seen : List ContentKey) (session : Session σ) :
      Returns renderer view seen [] session [] session
  | notice {record : Record} {records : List Record} {session after : Session σ}
      {seen : List ContentKey} {fragments : List Text} (system : record.isSystem = true)
      (rest : Returns renderer view (record.content.contentKey :: seen) records session fragments
        after) :
      Returns renderer view seen (record :: records) session (renderer.notice record :: fragments)
        after
  | repeated {record : Record} {records : List Record} {session after : Session σ}
      {seen : List ContentKey} {fragments : List Text} (message : record.isSystem = false)
      (known : seen.contains record.content.contentKey = true)
      (rest : Returns renderer view seen records session fragments after) :
      Returns renderer view seen (record :: records) session fragments after
  | shown {record : Record} {records : List Record} {session middle after : Session σ}
      {seen : List ContentKey} {fragment : Text} {fragments : List Text}
      (message : record.isSystem = false)
      (new : ¬ seen.contains record.content.contentKey = true)
      (item : renderer.item view record session = (.ok fragment, middle))
      (rest : Returns renderer view seen records middle fragments after) :
      Returns renderer view seen (record :: records) session (fragment :: fragments) after

theorem prepend_eq_ok {rest : Except Fault (List Text) × Session σ}
    (h : prepend fragment rest = (.ok fragments, after)) :
    ∃ later, rest = (.ok later, after) ∧ fragments = fragment :: later := by
  obtain ⟨result, last⟩ := rest
  cases result with
  | error fault => cases h
  | ok later =>
    cases h
    exact ⟨later, rfl, rfl⟩

theorem returns_of_eq_ok
    (h : renderer.fragmentsFrom view seen records session = (.ok fragments, after)) :
    Returns renderer view seen records session fragments after := by
  induction records generalizing seen session fragments with
  | nil =>
    cases h
    exact .done _ _
  | cons record records ih =>
    cases system : record.isSystem with
    | true =>
      rw [fragmentsFrom_notice system] at h
      obtain ⟨later, rest, rfl⟩ := prepend_eq_ok h
      exact .notice system (ih rest)
    | false =>
      by_cases known : seen.contains record.content.contentKey = true
      · rw [fragmentsFrom_repeated system known] at h
        exact .repeated system known (ih h)
      · rcases item : renderer.item view record session with ⟨fault | fragment, middle⟩
        · rw [fragmentsFrom_stopped system known item] at h
          cases h
        · rw [fragmentsFrom_shown system known item] at h
          obtain ⟨later, rest, rfl⟩ := prepend_eq_ok h
          exact .shown system known item (ih rest)

theorem Returns.eq_ok (h : Returns renderer view seen records session fragments after) :
    renderer.fragmentsFrom view seen records session = (.ok fragments, after) := by
  induction h with
  | done => rfl
  | notice system _ ih =>
    rw [fragmentsFrom_notice system, ih]
    rfl
  | repeated message known _ ih => rw [fragmentsFrom_repeated message known, ih]
  | shown message new item _ ih =>
    rw [fragmentsFrom_shown message new item, ih]
    rfl

/-- What a session holds does not decide whether a record can be shown. -/
theorem item_returns (message : record.isSystem = false)
    (returns : renderer.item view record session = (.ok fragment, middle)) (other : Session σ) :
    ∃ fragment after, renderer.item view record other = (.ok fragment, after) := by
  obtain ⟨count, large⟩ | ⟨fragment, after, item, -⟩ := item_shows renderer view other message
  · rw [item_of_oversized large] at returns
    cases returns
  · exact ⟨fragment, after, item⟩

/-- A render that returns also returns from another session, and if more contents were seen. -/
theorem Returns.from_other (h : Returns renderer view seen records session fragments after)
    (wider : seen ⊆ more) (other : Session σ) :
    ∃ fragments after, Returns renderer view more records other fragments after := by
  induction h generalizing more other with
  | done => exact ⟨[], other, .done _ _⟩
  | notice system _ ih =>
    obtain ⟨shown, last, rest⟩ := ih (List.cons_subset_cons _ wider) other
    exact ⟨_, last, .notice system rest⟩
  | repeated message known _ ih =>
    obtain ⟨shown, last, rest⟩ := ih wider other
    have known := List.contains_iff_mem.2 (wider (List.contains_iff_mem.1 known))
    exact ⟨shown, last, .repeated message known rest⟩
  | @shown record _ _ _ _ _ _ _ message _ item _ ih =>
    by_cases known : more.contains record.content.contentKey = true
    · obtain ⟨shown, last, rest⟩ := ih wider other
      exact ⟨shown, last, .repeated message known rest⟩
    · obtain ⟨fragment, next, item⟩ := item_returns message item other
      obtain ⟨shown, last, rest⟩ := ih wider next
      exact ⟨fragment :: shown, last, .shown message known item rest⟩

/-! ## one part after the other -/

/-- Both outcomes of the rest of a render, after the fragments before it. -/
def prependAll (first : List Text) (rest : Except Fault (List Text) × Session σ) :
    Except Fault (List Text) × Session σ :=
  (rest.1.map (first ++ ·), rest.2)

@[simp] theorem prepend_prependAll (rest : Except Fault (List Text) × Session σ) :
    prepend fragment (prependAll first rest) = prependAll (fragment :: first) rest := by
  obtain ⟨fault | fragments, after⟩ := rest <;> rfl

/-- A render goes on where the render of its first part stops, with the notices of that part
seen. -/
theorem Returns.append (h : Returns renderer view seen earlier session first middle)
    (tracks : Tracks seen before) :
    ∃ more, Tracks more (before ++ earlier) ∧ ∀ later,
      renderer.fragmentsFrom view seen (earlier ++ later) session =
        prependAll first (renderer.fragmentsFrom view more later middle) := by
  induction h generalizing before with
  | done seen session =>
    refine ⟨seen, by rwa [List.append_nil], fun later => ?_⟩
    rw [List.nil_append]
    rcases renderer.fragmentsFrom view seen later session with ⟨fault | fragments, after⟩ <;> rfl
  | notice system _ ih =>
    rw [List.append_cons]
    obtain ⟨more, tracks, goesOn⟩ := ih (tracks.notice system)
    refine ⟨more, tracks, fun later => ?_⟩
    rw [List.cons_append, fragmentsFrom_notice system, goesOn, prepend_prependAll]
  | repeated message known _ ih =>
    rw [List.append_cons]
    obtain ⟨more, tracks, goesOn⟩ := ih (tracks.message message)
    refine ⟨more, tracks, fun later => ?_⟩
    rw [List.cons_append, fragmentsFrom_repeated message known, goesOn]
  | shown message new item _ ih =>
    rw [List.append_cons]
    obtain ⟨more, tracks, goesOn⟩ := ih (tracks.message message)
    refine ⟨more, tracks, fun later => ?_⟩
    rw [List.cons_append, fragmentsFrom_shown message new item, goesOn, prepend_prependAll]

/-- Contents of an earlier transcript only leave out the records that repeat its notices. -/
theorem fragmentsFrom_beyond (h : Joins earlier seen more) :
    renderer.fragmentsFrom view more records session =
      renderer.fragmentsFrom view seen (Transcript.beyond earlier records) session := by
  induction records generalizing seen more session with
  | nil => rfl
  | cons record records ih =>
    rw [Transcript.beyond, List.filter_cons]
    cases system : record.isSystem with
    | true =>
      have new : ¬ record.Repeats earlier := by simp [Record.Repeats, system]
      rw [if_pos (decide_eq_true new), fragmentsFrom_notice system, fragmentsFrom_notice system,
        ih (h.cons _), Transcript.beyond]
    | false =>
      by_cases repeats : record.Repeats earlier
      · rw [if_neg (by simpa using repeats),
          fragmentsFrom_repeated system (h.contains_of_repeats repeats), ih h, Transcript.beyond]
      · rw [if_pos (decide_eq_true repeats)]
        have same := h.contains_eq system repeats
        by_cases known : seen.contains record.content.contentKey = true
        · rw [fragmentsFrom_repeated system known, fragmentsFrom_repeated system (same.trans known),
            ih h, Transcript.beyond]
        · have new : ¬ more.contains record.content.contentKey = true := by rwa [same]
          rcases item : renderer.item view record session with ⟨fault | fragment, next⟩
          · rw [fragmentsFrom_stopped system known item, fragmentsFrom_stopped system new item]
          · rw [fragmentsFrom_shown system known item, fragmentsFrom_shown system new item, ih h,
              Transcript.beyond]

theorem returns_of_transcript {markup : Text}
    (returns : renderer.transcript view records session = (.ok markup, after)) :
    ∃ fragments, Returns renderer view [] records session fragments after ∧
      fragments.flatten = markup := by
  unfold transcript Renderer.fragments at returns
  rcases outcome : renderer.fragmentsFrom view [] records session with ⟨fault | fragments, last⟩
  · rw [outcome] at returns
    cases returns
  · rw [outcome] at returns
    cases returns
    exact ⟨fragments, returns_of_eq_ok outcome, rfl⟩

theorem Returns.transcript (h : Returns renderer view [] records session fragments after) :
    renderer.transcript view records session = (.ok fragments.flatten, after) := by
  rw [Renderer.transcript, Renderer.fragments, h.eq_ok]
  rfl

/-- A transcript that is continued gives the markup of its first part, followed by the markup of the
records of the second part that repeat no notice of the first, rendered in the session that the
first part left. If no record does, this is the markup of the second part. -/
theorem transcript_append (earlier later : List Record) {start second : Text}
    (returns : renderer.transcript view earlier session = (.ok start, middle))
    (continues : renderer.transcript view later middle = (.ok second, after)) :
    (∃ rest last,
      renderer.transcript view (Transcript.beyond earlier later) middle = (.ok rest, last) ∧
      renderer.transcript view (earlier ++ later) session = (.ok (start ++ rest), last)) ∧
    ((∀ record ∈ later, ¬ record.Repeats earlier) →
      renderer.transcript view (earlier ++ later) session = (.ok (start ++ second), after)) := by
  obtain ⟨first, shown, rfl⟩ := returns_of_transcript returns
  obtain ⟨fragments, continued, rfl⟩ := returns_of_transcript continues
  obtain ⟨more, tracks, goesOn⟩ := shown.append .nil
  obtain ⟨rest, last, goesOnWith⟩ := continued.from_other (List.nil_subset more) middle
  have whole : renderer.transcript view (earlier ++ later) session =
      (.ok (first.flatten ++ rest.flatten), last) := by
    rw [transcript, Renderer.fragments, goesOn, goesOnWith.eq_ok]
    simp [prependAll, Except.map]
  have alone := goesOnWith.eq_ok
  rw [fragmentsFrom_beyond (Joins.ofTracks tracks), List.nil_append] at alone
  refine ⟨⟨rest.flatten, last, (returns_of_eq_ok alone).transcript, whole⟩, fun apart => ?_⟩
  have same : Transcript.beyond earlier later = later :=
    List.filter_eq_self.2 fun record member => decide_eq_true (apart record member)
  rw [same, continued.eq_ok] at alone
  cases alone
  exact whole

/-- A notice with some content, and two messages after it of which one repeats it. -/
def sampleParts : List Record × List Record :=
  ([⟨"sys".toList, .text, .str "A".toList, none⟩],
    [⟨"bob".toList, .text, .str "A".toList, none⟩, ⟨"eve".toList, .text, .str "B".toList, none⟩])

/-- A renderer without templates. -/
def sampleRenderer : Renderer Unit := ⟨fun _ _ => (.text [], ()), .counting 0 0, [], []⟩

theorem transcript_append_sample :
    ∃ start second middle after,
      sampleRenderer.transcript ⟨[], false⟩ sampleParts.1 (.fresh [] [] ()) =
        (.ok start, middle) ∧
      sampleRenderer.transcript ⟨[], false⟩ sampleParts.2 middle = (.ok second, after) ∧
      ∃ rest last,
        sampleRenderer.transcript ⟨[], false⟩ (Transcript.beyond sampleParts.1 sampleParts.2)
          middle = (.ok rest, last) ∧
        sampleRenderer.transcript ⟨[], false⟩ (sampleParts.1 ++ sampleParts.2)
          (.fresh [] [] ()) = (.ok (start ++ rest), last) :=
  ⟨_, _, _, _, rfl, rfl, (transcript_append sampleParts.1 sampleParts.2 rfl rfl).1⟩

end Renderer

end ChatTranscript
