import ChatTranscript.Proofs.Fetch.Locations
import ChatTranscript.Proofs.Pairs
import ChatTranscript.Proofs.Style.Order
import Mathlib.Data.List.Forall2

/-!
# Turns through the pool of avatars

Those who ask for an avatar share one roster. Own messages and usable hints do not come to it. The
names that do take turns through the pool in the order in which they came first, and each keeps the
image of its turn.

## Main definitions

* `Avatar.HintGives`: the image that a hint gives by itself, and when it does.
* `Avatar.Call`: what a roster is asked for, and `Avatar.Roster.run`: calls one after the other.
* `Avatar.Roster.Serves`: the names that have taken their turns.

## Main statements

* `Avatar.ofHint?_eq_some_iff`: which hints give an image.
* `Avatar.turns_of_calls`: the answers and the roster after any calls.
-/

namespace ChatTranscript

/-! ## references without a scheme or authority -/

namespace Url

/-- Without colons and slashes there is a path only. -/
theorem split_of_bare {url : Text} (bare : ∀ c ∈ url, c ≠ ':' ∧ c ≠ '/') :
    split url = .ok ⟨[], [], beforeQuery (clean url)⟩ := by
  have inside : ∀ c ∈ clean url, c ≠ ':' ∧ c ≠ '/' := fun c member =>
    bare c ((sublist_clean url).subset member)
  have scheme : splitScheme (clean url) = ([], clean url) := by
    unfold splitScheme
    split
    · rename_i rest span
      have colon : ':' ∈ (clean url).dropWhile isSchemeChar := by
        rw [(Prod.mk.inj span).2]
        simp
      exact absurd rfl (inside ':' ((List.dropWhile_sublist _).subset colon)).1
    · rfl
  unfold split
  rw [scheme]
  dsimp only
  split
  · rename_i rest eq
    exact absurd rfl (inside '/' (by simp [eq])).2
  · rfl

end Url

namespace Avatar

/-! ## hints -/

/-- The image that a hint gives by itself. Blanks around the hint do not count. -/
inductive HintGives (hint : Text) : Text → Prop where
  | absolute {parts : Url.Parts} (split : Url.split (Text.strip hint) = .ok parts)
      (http : parts.scheme = "http".toList ∨ parts.scheme = "https".toList)
      (host : parts.authority ≠ []) : HintGives hint (Text.strip hint)
  | account (some : Text.strip hint ≠ [])
      (digits : ∀ c ∈ Text.strip hint, Text.isDigitChar c = true) :
      HintGives hint (ofAccount (Text.strip hint))

variable {hint url : Text}

/-- An account number is a reference, but not an absolute one. -/
theorem split_digits {number : Text} (digits : ∀ c ∈ number, Text.isDigitChar c = true) :
    ∃ path, Url.split number = .ok ⟨[], [], path⟩ := by
  refine ⟨_, Url.split_of_bare fun c member => ⟨?_, ?_⟩⟩
  · rintro rfl
    exact absurd (digits ':' member) (by decide)
  · rintro rfl
    exact absurd (digits '/' member) (by decide)

theorem isAbsolute_iff : Url.isAbsolute url = true ↔ ∃ parts, Url.split url = .ok parts ∧
    (parts.scheme = "http".toList ∨ parts.scheme = "https".toList) ∧ parts.authority ≠ [] := by
  unfold Url.isAbsolute
  cases Url.split url with
  | ok parts => simp [Url.isHttp]
  | error fault => simp

theorem ofHint?_eq_some_iff : ofHint? hint = some url ↔ HintGives hint url := by
  unfold ofHint?
  dsimp only
  constructor
  · intro gives
    split at gives
    · rename_i absolute
      obtain ⟨parts, split, http, host⟩ := isAbsolute_iff.1 absolute
      cases gives
      exact .absolute split http host
    · split at gives
      · rename_i digits
        cases gives
        rw [Bool.and_eq_true, List.all_eq_true] at digits
        exact .account (by simpa using digits.1) digits.2
      · cases gives
  · intro gives
    cases gives with
    | absolute split http host => rw [if_pos (isAbsolute_iff.2 ⟨_, split, http, host⟩)]
    | account some digits =>
      obtain ⟨path, split⟩ := split_digits digits
      have relative : ¬ Url.isAbsolute (Text.strip hint) = true := by
        simp [Url.isAbsolute, split, Url.isHttp]
      have number :
          (!(Text.strip hint).isEmpty && (Text.strip hint).all Text.isDigitChar) = true := by
        rw [Bool.and_eq_true, List.all_eq_true]
        exact ⟨by simpa using some, digits⟩
      rw [if_neg relative, if_pos number]

/-- A hint that is no reference gives nothing. -/
theorem ofHint?_of_fault {fault : Url.Fault}
    (rejected : Url.split (Text.strip hint) = .error fault) : ofHint? hint = none := by
  refine Option.eq_none_iff_forall_ne_some.2 fun url gives => ?_
  cases ofHint?_eq_some_iff.1 gives with
  | absolute split => cases rejected.symm.trans split
  | account some digits =>
    obtain ⟨path, split⟩ := split_digits digits
    cases rejected.symm.trans split

/-! ## calls -/

/-- What a roster is asked for: the image for a sender, or at once the one for a name. -/
inductive Call where
  | choose (myAvatar : Text) (sender : Sender)
  | assign (name : Text)

namespace Call

def answer (roster : Roster) : Call → Text × Roster
  | .choose myAvatar sender => Avatar.choose myAvatar sender roster
  | .assign name => roster.assign name

def name : Call → Text
  | .choose _ sender => sender.name
  | .assign name => name

/-- The image that a call has without the roster. -/
def own? : Call → Option Text
  | .choose myAvatar sender => if sender.isOwn then some myAvatar else sender.hint.bind ofHint?
  | .assign _ => none

/-- The name with which a call comes to the roster. -/
def reaching (call : Call) : Option Text :=
  match call.own? with
  | some _ => none
  | none => some call.name

/-- The reader's own messages have the reader's image, and others have what their hint gives. -/
inductive Gives : Call → Text → Prop where
  | own (myAvatar name : Text) (hint : Option Text) :
      Gives (.choose myAvatar ⟨name, hint, true⟩) myAvatar
  | hinted (myAvatar name : Text) {hint url : Text} (gives : HintGives hint url) :
      Gives (.choose myAvatar ⟨name, some hint, false⟩) url

variable {call : Call}

theorem own?_eq_some_iff : call.own? = some url ↔ call.Gives url := by
  constructor
  · intro found
    cases call with
    | assign name => cases found
    | choose myAvatar sender =>
      obtain ⟨name, hint, isOwn⟩ := sender
      cases isOwn with
      | true =>
        cases found
        exact .own _ name hint
      | false =>
        obtain ⟨hint, rfl, gives⟩ := Option.bind_eq_some_iff.1 found
        exact .hinted myAvatar name (ofHint?_eq_some_iff.1 gives)
  · intro gives
    cases gives with
    | own => rfl
    | hinted _ _ gives => exact ofHint?_eq_some_iff.2 gives

/-- A call that has its image leaves the roster alone. -/
theorem answer_of_some (own : call.own? = some url) (roster : Roster) :
    call.answer roster = (url, roster) := by
  cases call with
  | assign name => cases own
  | choose myAvatar sender =>
    rw [own?] at own
    rw [Call.answer, Avatar.choose]
    split at own
    · rename_i isOwn
      cases own
      rw [if_pos isOwn]
    · rename_i other
      rw [if_neg other, own]

theorem answer_of_none (own : call.own? = none) (roster : Roster) :
    call.answer roster = roster.assign call.name := by
  cases call with
  | assign name => rfl
  | choose myAvatar sender =>
    rw [own?] at own
    rw [Call.answer, Avatar.choose]
    split at own
    · cases own
    · rename_i other
      rw [if_neg other, own]
      rfl

theorem reaching_eq_some_iff {name : Text} :
    call.reaching = some name ↔ call.own? = none ∧ call.name = name := by
  unfold reaching
  cases call.own? <;> simp

end Call

/-! ## rosters -/

namespace Roster

variable {roster : Roster} {names : List Text}

@[grind =] theorem get?_eq_none_iff {name : Text} :
    roster.get? name = none ↔ name ∉ roster.assigned.map Prod.fst :=
  Pairs.lookup_eq_none_iff

theorem next_eq (roster : Roster) :
    roster.pool[roster.cursor % roster.pool.length]? = some roster.next := by
  rw [next, List.getElem?_eq_some_iff]
  exact ⟨_, rfl⟩

/-- The names have taken turns through the pool, in this order. -/
structure Serves (roster : Roster) (names : List Text) : Prop where
  assigned : roster.assigned.map Prod.fst = names
  cursor : roster.cursor = names.length
  image : ∀ k name, names[k]? = some name →
    roster.get? name = roster.pool[k % roster.pool.length]?

theorem serves_ofPool (pool : List Text) : (ofPool pool).Serves [] := by
  cases pool <;> exact ⟨rfl, rfl, by simp⟩

theorem Serves.get?_eq_none_iff (h : roster.Serves names) {name : Text} :
    roster.get? name = none ↔ name ∉ names := by
  rw [Roster.get?_eq_none_iff, h.assigned]

theorem Serves.known {name url : Text} (h : roster.Serves names)
    (has : roster.get? name = some url) : name ∈ names := by
  by_contra absent
  cases (h.get?_eq_none_iff.2 absent).symm.trans has

/-- A new name takes the next turn, and a known one takes none. -/
theorem Serves.assign (h : roster.Serves names) (name : Text) :
    (roster.assign name).2.Serves (names ++ if name ∈ names then [] else [name]) := by
  have kept := roster.assign_extends name
  have own := roster.get?_assign name
  revert kept own
  unfold Roster.assign
  cases found : roster.get? name with
  | some url =>
    intro _ _
    rw [if_pos (h.known found), List.append_nil]
    exact h
  | none =>
    intro kept own
    rw [if_neg (h.get?_eq_none_iff.1 found)]
    refine ⟨by simp [h.assigned], by simp [h.cursor], fun k other at_k => ?_⟩
    rw [List.getElem?_append] at at_k
    split at at_k
    · have before := h.image k other at_k
      obtain ⟨url, image⟩ : ∃ url, roster.get? other = some url :=
        Option.ne_none_iff_exists'.1 fun missing =>
          h.get?_eq_none_iff.1 missing (List.mem_of_getElem? at_k)
      rw [kept other url image, ← before, image]
    · rename_i beyond
      obtain ⟨here, rfl⟩ : k - names.length = 0 ∧ name = other := by
        simpa [List.getElem?_singleton] using at_k
      obtain rfl : k = roster.cursor := by
        have := h.cursor
        omega
      rw [own, roster.next_eq]

end Roster

/-! ## runs -/

namespace Roster

/-- The images for calls one after the other. -/
def run (roster : Roster) : List Call → List Text × Roster
  | [] => ([], roster)
  | call :: calls =>
    let (url, roster) := call.answer roster
    let (urls, roster) := roster.run calls
    (url :: urls, roster)

@[simp] theorem run_cons (roster : Roster) (call : Call) (calls : List Call) :
    roster.run (call :: calls) = ((call.answer roster).1 :: ((call.answer roster).2.run calls).1,
      ((call.answer roster).2.run calls).2) := rfl

variable {roster : Roster} {calls : List Call} {seen names : List Text}

theorem pool_answer (call : Call) (roster : Roster) :
    (call.answer roster).2.pool = roster.pool := by
  cases own : call.own? with
  | some url => rw [Call.answer_of_some own]
  | none =>
    rw [Call.answer_of_none own, Roster.assign]
    split <;> rfl

theorem answer_extends (call : Call) (roster : Roster) : roster.Extends (call.answer roster).2 := by
  cases own : call.own? with
  | some url =>
    rw [Call.answer_of_some own]
    exact .refl roster
  | none =>
    rw [Call.answer_of_none own]
    exact roster.assign_extends call.name

theorem run_extends (roster : Roster) (calls : List Call) :
    roster.Extends (roster.run calls).2 := by
  induction calls generalizing roster with
  | nil => exact .refl roster
  | cons call calls ih => exact (answer_extends call roster).trans (ih _)

@[simp] theorem pool_run (roster : Roster) (calls : List Call) :
    (roster.run calls).2.pool = roster.pool := by
  induction calls generalizing roster with
  | nil => rfl
  | cons call calls ih => rw [run_cons, ih, pool_answer]

/-- One call serves the name that it comes with. -/
theorem Serves.answer (h : roster.Serves seen.eraseDups) (call : Call) :
    (call.answer roster).2.Serves (seen ++ call.reaching.toList).eraseDups := by
  rw [Call.reaching]
  cases own : call.own? with
  | some url =>
    rw [Call.answer_of_some own]
    simpa using h
  | none =>
    rw [Call.answer_of_none own]
    have next := h.assign call.name
    simp only [List.mem_eraseDups] at next
    rwa [← Style.eraseDups_append_singleton] at next

/-- Calls serve the names that they come with, each once. -/
theorem Serves.run (h : roster.Serves seen.eraseDups) (calls : List Call) :
    (roster.run calls).2.Serves (seen ++ calls.filterMap Call.reaching).eraseDups := by
  induction calls generalizing roster seen with
  | nil => rwa [List.filterMap_nil, List.append_nil]
  | cons call calls ih =>
    have served := ih (h.answer call)
    rw [List.append_assoc] at served
    rw [run_cons, List.filterMap_cons]
    cases reached : call.reaching with
    | none => simpa [reached] using served
    | some name => simpa [reached] using served

/-- Each call is answered with its own image, or with the one that its name has at the end. -/
theorem run_fst (roster : Roster) (calls : List Call) :
    List.Forall₂ (fun call url => call.own?.or ((roster.run calls).2.get? call.name) = some url)
      calls (roster.run calls).1 := by
  induction calls generalizing roster with
  | nil => exact .nil
  | cons call calls ih =>
    rw [run_cons]
    refine .cons ?_ (ih (call.answer roster).2)
    cases own : call.own? with
    | some url => rw [Call.answer_of_some own, Option.some_or]
    | none =>
      have later := run_extends (call.answer roster).2 calls
      rw [Call.answer_of_none own] at later ⊢
      rw [Option.none_or]
      exact later _ _ (roster.get?_assign call.name)

/-- A call that has its own image is answered with that. Any other is answered with the image whose
turn it is at the place of its name among the names. -/
inductive Answers (images names : List Text) (call : Call) (url : Text) : Prop where
  | own (gives : call.Gives url)
  | turn {name : Text} {k : Nat} (reaches : call.reaching = some name)
      (place : names[k]? = some name) (image : images[k % images.length]? = some url)

theorem Serves.answers (h : roster.Serves names) {call : Call} {url : Text}
    (answer : call.own?.or (roster.get? call.name) = some url) :
    Answers roster.pool names call url := by
  cases own : call.own? with
  | some image =>
    rw [own, Option.some_or] at answer
    exact .own (Call.own?_eq_some_iff.1 (own.trans answer))
  | none =>
    rw [own, Option.none_or] at answer
    obtain ⟨k, place⟩ := List.mem_iff_getElem?.1 (h.known answer)
    exact .turn (Call.reaching_eq_some_iff.2 ⟨own, rfl⟩) place
      ((h.image k call.name place).symm.trans answer)

end Roster

/-- After any calls, the names that have come to the roster are its names, in the order in which
they came first, and the cursor counts them. Each has the image whose turn it was, and every call
is answered with that. A call for the reader or with a usable hint is answered with its own image,
whatever the roster, and leaves it alone; a hint that is no reference does not count. -/
theorem turns_of_calls (pool : List Text) (calls : List Call) :
    let start := Roster.ofPool pool
    let urls := (start.run calls).1
    let after := (start.run calls).2
    let names := (calls.filterMap Call.reaching).eraseDups
    (pool ≠ [] → start.pool = pool) ∧
    after.pool = start.pool ∧
    after.cursor = after.assigned.length ∧
    after.assigned.map Prod.fst = names ∧
    (∀ k name, names[k]? = some name →
      after.get? name = start.pool[k % start.pool.length]?) ∧
    List.Forall₂ (Roster.Answers start.pool names) calls urls ∧
    (∀ call : Call, call.reaching = none ↔ ∃ url, call.Gives url) ∧
    (∀ (call : Call) (url : Text), call.Gives url → ∀ roster, call.answer roster = (url, roster)) ∧
    ∀ myAvatar name hint fault, Url.split (Text.strip hint) = .error fault →
      (Call.choose myAvatar ⟨name, some hint, false⟩).reaching = some name := by
  intro start urls after names
  have unserved : start.Serves ([] : List Text).eraseDups := Roster.serves_ofPool pool
  have serves : after.Serves names := unserved.run calls
  have samePool : after.pool = start.pool := start.pool_run calls
  refine ⟨fun notEmpty => ?_, samePool, ?_, serves.assigned, fun k name place => ?_, ?_,
    fun call => ?_, fun call url gives roster => ?_, fun myAvatar name hint fault rejected => ?_⟩
  · obtain ⟨url, pool, rfl⟩ := List.exists_cons_of_ne_nil notEmpty
    rfl
  · rw [serves.cursor, ← serves.assigned, List.length_map]
  · rw [← samePool]
    exact serves.image k name place
  · rw [← samePool]
    exact (start.run_fst calls).imp fun call url answer => serves.answers answer
  · rw [Call.reaching]
    simp only [← Call.own?_eq_some_iff]
    cases call.own? <;> simp
  · exact Call.answer_of_some (Call.own?_eq_some_iff.2 gives) roster
  · simp [Call.reaching, Call.own?, Call.name, ofHint?_of_fault rejected]

/-- A hint that is no reference takes a turn, an account number does not. -/
example : ((Roster.ofPool ["p".toList, "q".toList]).run [.assign "a".toList,
    .choose [] ⟨"b".toList, some "http://[".toList, false⟩,
    .choose [] ⟨"c".toList, some " 12 ".toList, false⟩, .assign "d".toList, .assign "b".toList]).1 =
    ["p".toList, "q".toList, ofAccount "12".toList, "p".toList, "q".toList] := by decide

end Avatar

end ChatTranscript
