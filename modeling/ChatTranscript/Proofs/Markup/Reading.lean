import ChatTranscript.Markup.Token
import ChatTranscript.Proofs.Text.Places
import Mathlib.Data.List.TakeWhile
import Mathlib.Data.List.Basic

/-!
# What the rules of the markup read

Each rule reads the written forms of one kind of token, and nothing else. Whether it reads one does
not depend on the text that follows.

## Main definitions

* `Markup.Kind`: the kinds of markup, each with its rule.
* `Markup.Token.Fits`: the groups of a token are as its rule wants them.

## Main statements

* `Markup.Kind.read_iff`: a rule reads exactly the written forms of the tokens that fit.
-/

namespace ChatTranscript

namespace Markup

/-- Markup starts with this mark. -/
def opener : Text := ['[', ':']

/-- Markup ends with this mark. -/
def closer : Text := [':', ':', ']']

/-! ## kinds of markup -/

inductive Kind where
  | image | chat | link | mention | quote
  deriving DecidableEq

/-- The kinds in the order in which their rules apply. -/
def Kind.all : List Kind := [.image, .chat, .link, .mention, .quote]

def Kind.rule : Kind → Rule
  | .image => readImage
  | .chat => readChat
  | .link => readLink
  | .mention => readMention
  | .quote => readQuote

theorem rules_eq : rules = Kind.all.map Kind.rule := rfl

/-- Literal text is of no kind. -/
def Token.kind? : Token → Option Kind
  | .literal _ => none
  | .image _ => some .image
  | .chat _ _ => some .chat
  | .link _ => some .link
  | .mention _ => some .mention
  | .quote _ _ => some .quote

/-! ## groups -/

/-- A group that ends at the closing mark: at least `least` characters, all of them `allowed`, and
after the first `least` characters no closing mark before the one that follows. -/
structure IsGroup (allowed : Char → Bool) (least : Nat) (group : Text) : Prop where
  long : least ≤ group.length
  allowed : ∀ c ∈ group, allowed c = true
  shortest : ∀ n, least ≤ n → n < group.length → ¬ closer <+: group.drop n ++ closer

variable {allowed : Char → Bool} {least : Nat} {c stop : Char} {text rest group after : Text}
  {token : Token} {kind : Kind}

theorem isPrefixOf?_eq_none_iff {mark : Text} : mark.isPrefixOf? text = none ↔ ¬ mark <+: text := by
  rw [Option.eq_none_iff_forall_ne_some]
  simp only [ne_eq, List.isPrefixOf?_eq_some_iff_append_eq]
  exact not_exists.symm

/-- A mark at the front of a text that is not shorter stands there without what follows. -/
theorem prefix_append_iff {mark : Text} (long : mark.length ≤ text.length) (rest : Text) :
    mark <+: text ++ rest ↔ mark <+: text :=
  ⟨fun h => List.prefix_of_prefix_length_le h (List.prefix_append text rest) long,
    fun h => h.trans (List.prefix_append text rest)⟩

theorem closer_prefix_cons_iff (rest : Text) :
    closer <+: c :: (group ++ (closer ++ rest)) ↔ closer <+: c :: (group ++ closer) := by
  have long : closer.length ≤ (c :: (group ++ closer)).length := by
    simp only [List.length_cons, List.length_append]
    omega
  rw [← prefix_append_iff long rest]
  simp

namespace IsGroup

theorem nil : IsGroup allowed 0 [] := ⟨Nat.le_refl 0, by simp, by simp⟩

theorem cons_succ_iff :
    IsGroup allowed (least + 1) (c :: group) ↔ allowed c = true ∧ IsGroup allowed least group := by
  constructor
  · rintro ⟨long, all, shortest⟩
    obtain ⟨first, later⟩ := List.forall_mem_cons.1 all
    refine ⟨first, by simpa using long, later, fun n enough short => ?_⟩
    simpa using shortest (n + 1) (by omega) (by simpa using short)
  · rintro ⟨first, long, later, shortest⟩
    refine ⟨by simpa using long, List.forall_mem_cons.2 ⟨first, later⟩, fun n enough short => ?_⟩
    obtain ⟨n, rfl⟩ : ∃ m, n = m + 1 := ⟨n - 1, by omega⟩
    simpa using shortest n (by omega) (by simpa using short)

theorem cons_zero_iff : IsGroup allowed 0 (c :: group) ↔
    allowed c = true ∧ ¬ closer <+: c :: (group ++ closer) ∧ IsGroup allowed 0 group := by
  constructor
  · rintro ⟨-, all, shortest⟩
    obtain ⟨first, later⟩ := List.forall_mem_cons.1 all
    refine ⟨first, shortest 0 (by simp) (by simp), by simp, later, fun n _ short => ?_⟩
    simpa using shortest (n + 1) (by simp) (by simpa using short)
  · rintro ⟨first, opens, -, later, shortest⟩
    refine ⟨by simp, List.forall_mem_cons.2 ⟨first, later⟩, fun n _ short => ?_⟩
    cases n with
    | zero => exact opens
    | succ n => simpa using shortest n (by simp) (by simpa using short)

end IsGroup

theorem map_cons_iff {read : Option (Text × Text)} :
    (read.map fun (group, after) => (c :: group, after)) = some (group, after) ↔
      ∃ inner, group = c :: inner ∧ read = some (inner, after) := by
  cases read with
  | none => simp
  | some pair =>
    obtain ⟨inner, rest⟩ := pair
    simp only [Option.map_some, Option.some.injEq, Prod.mk.injEq]
    constructor
    · rintro ⟨rfl, rfl⟩
      exact ⟨inner, rfl, rfl, rfl⟩
    · rintro ⟨_, rfl, rfl, rfl⟩
      exact ⟨rfl, rfl⟩

theorem readGroup_iff : readGroup allowed least text = some (group, after) ↔
    IsGroup allowed least group ∧ text = group ++ (closer ++ after) := by
  fun_induction readGroup allowed least text generalizing group with
  | case1 text rest closed =>
    -- the closing mark stands here, so the group is empty
    obtain rfl := List.append_eq_of_isPrefixOf?_eq_some closed
    constructor
    · rintro ⟨⟩
      exact ⟨.nil, rfl⟩
    · rintro ⟨isGroup, split⟩
      cases group with
      | nil => simpa [closer] using split
      | cons c group =>
        have opens := (IsGroup.cons_zero_iff.1 isGroup).2.1
        rw [← closer_prefix_cons_iff after, ← List.cons_append, ← split] at opens
        exact absurd (List.prefix_append _ _) opens
  | case2 => simp [closer]
  | case3 c cs ok opens ih =>
    rw [map_cons_iff]
    constructor
    · rintro ⟨inner, rfl, read⟩
      obtain ⟨isGroup, rfl⟩ := ih.1 read
      refine ⟨IsGroup.cons_zero_iff.2 ⟨ok, ?_, isGroup⟩, rfl⟩
      rw [← closer_prefix_cons_iff after]
      exact isPrefixOf?_eq_none_iff.1 opens
    · rintro ⟨isGroup, split⟩
      cases group with
      | nil => exact absurd ⟨after, split.symm⟩ (isPrefixOf?_eq_none_iff.1 opens)
      | cons d inner =>
        obtain ⟨rfl, rest⟩ := List.cons.inj split
        exact ⟨inner, rfl, ih.2 ⟨(IsGroup.cons_zero_iff.1 isGroup).2.2, rest⟩⟩
  | case4 c cs bad opens =>
    simp only [reduceCtorEq, false_iff, not_and]
    intro isGroup split
    cases group with
    | nil => exact absurd ⟨after, split.symm⟩ (isPrefixOf?_eq_none_iff.1 opens)
    | cons d inner =>
      obtain ⟨rfl, -⟩ := List.cons.inj split
      exact bad (IsGroup.cons_zero_iff.1 isGroup).1
  | case5 least c cs ok ih =>
    rw [map_cons_iff]
    constructor
    · rintro ⟨inner, rfl, read⟩
      obtain ⟨isGroup, rfl⟩ := ih.1 read
      exact ⟨IsGroup.cons_succ_iff.2 ⟨ok, isGroup⟩, rfl⟩
    · rintro ⟨isGroup, split⟩
      cases group with
      | nil => exact absurd isGroup.long (by simp)
      | cons d inner =>
        obtain ⟨rfl, rest⟩ := List.cons.inj split
        exact ⟨inner, rfl, ih.2 ⟨(IsGroup.cons_succ_iff.1 isGroup).2, rest⟩⟩
  | case6 least c cs bad =>
    simp only [reduceCtorEq, false_iff, not_and]
    intro isGroup split
    cases group with
    | nil => exact absurd isGroup.long (by simp)
    | cons d inner =>
      obtain ⟨rfl, -⟩ := List.cons.inj split
      exact bad (IsGroup.cons_succ_iff.1 isGroup).1
  | case7 least => simp [closer]

theorem readUntil_iff : readUntil stop text = some (group, after) ↔
    group ≠ [] ∧ stop ∉ group ∧ text = group ++ stop :: after := by
  unfold readUntil
  constructor
  · intro read
    split at read
    · rename_i c cs d rest spanned
      obtain ⟨rfl, rfl⟩ := Prod.mk.inj (Option.some.inj read)
      obtain ⟨-, absent, split⟩ := Text.spanWhile_mark_iff.1 spanned
      exact ⟨List.cons_ne_nil c cs, absent, split⟩
    · cases read
  · rintro ⟨notEmpty, absent, rfl⟩
    obtain ⟨c, cs, rfl⟩ := List.exists_cons_of_ne_nil notEmpty
    rw [Text.spanWhile_mark_iff.2 ⟨rfl, absent, rfl⟩]

/-! ## addresses -/

def schemes : List Text := ["http://".toList, "https://".toList]

/-- A scheme and something that is not blank, up to the closing mark. -/
def IsUrl (url : Text) : Prop :=
  ∃ scheme ∈ schemes, ∃ host, IsGroup (fun c => !Text.isBlank c) 1 host ∧ url = scheme ++ host

theorem readUrl_iff {url : Text} :
    readUrl text = some (url, after) ↔ IsUrl url ∧ text = url ++ (closer ++ after) := by
  have reads (scheme : Text) : (do
        let rest ← scheme.isPrefixOf? text
        let (host, after) ← readGroup (fun c => !Text.isBlank c) 1 rest
        return (scheme ++ host, after)) = some (url, after) ↔
      ∃ host, IsGroup (fun c => !Text.isBlank c) 1 host ∧ url = scheme ++ host ∧
        text = url ++ (closer ++ after) := by
    simp only [Option.bind_eq_bind, Option.bind_eq_some_iff, Prod.exists, readGroup_iff,
      List.isPrefixOf?_eq_some_iff_append_eq]
    constructor
    · rintro ⟨_, rfl, host, _, ⟨isGroup, rfl⟩, ⟨⟩⟩
      exact ⟨host, isGroup, rfl, by simp⟩
    · rintro ⟨host, isGroup, rfl, rfl⟩
      exact ⟨host ++ (closer ++ after), by simp, host, after, ⟨isGroup, rfl⟩, rfl⟩
  constructor
  · intro read
    obtain ⟨scheme, known, found⟩ := List.exists_of_findSome?_eq_some read
    obtain ⟨host, isGroup, eq, split⟩ := (reads scheme).1 found
    exact ⟨⟨scheme, known, host, isGroup, eq⟩, split⟩
  · rintro ⟨⟨scheme, known, host, isGroup, eq⟩, split⟩
    have found := (reads scheme).2 ⟨host, isGroup, eq, split⟩
    simp only [schemes, List.mem_cons, List.not_mem_nil, or_false] at known
    unfold readUrl
    obtain rfl | rfl := known
    · rw [List.findSome?_cons, found]
    · -- the other scheme is tried first, but does not stand here
      have other : "http://".toList.isPrefixOf? text = none := by
        rw [isPrefixOf?_eq_none_iff, split, eq]
        simp
      rw [List.findSome?_cons, other, List.findSome?_cons, found]
      rfl

/-! ## tokens -/

namespace Token

@[simp] theorem print_literal (text : Text) : (literal text).print = text := rfl

@[simp] theorem print_image (url : Text) :
    (image url).print = "[:image::".toList ++ url ++ closer := rfl

@[simp] theorem print_chat (title path : Text) :
    (chat title path).print = "[:chat:(".toList ++ title ++ ")::".toList ++ path ++ closer := rfl

@[simp] theorem print_link (url : Text) : (link url).print = "[:a::".toList ++ url ++ closer := rfl

@[simp] theorem print_mention (name : Text) :
    (mention name).print = "[:call::@".toList ++ name ++ closer := rfl

@[simp] theorem print_quote (user quoted : Text) :
    (quote user quoted).print = "[:rep:[".toList ++ user ++ "]:".toList ++ quoted ++ closer := rfl

/-- The groups of the token are as its rule wants them. -/
def Fits : Token → Prop
  | .literal _ => False
  | .image url => IsUrl url
  | .chat title path => title ≠ [] ∧ ')' ∉ title ∧ IsGroup (fun c => !Text.isBlank c) 1 path
  | .link url => IsUrl url
  | .mention name => IsGroup (· != ':') 1 name
  | .quote user quoted => user ≠ [] ∧ ']' ∉ user ∧ IsGroup (· != '\n') 0 quoted

end Token

/-- An address in a frame of its own. -/
theorem readFramed_iff {front : Text} {make : Text → Token}
    (print : ∀ url, (make url).print = front ++ url ++ closer) : (do
      let rest ← front.isPrefixOf? text
      let (url, after) ← readUrl rest
      return (make url, after)) = some (token, rest) ↔
    ∃ url, token = make url ∧ IsUrl url ∧ text = token.print ++ rest := by
  simp only [Option.bind_eq_bind, Option.bind_eq_some_iff, Prod.exists, readUrl_iff,
    List.isPrefixOf?_eq_some_iff_append_eq, Option.pure_def, Option.some.injEq, Prod.mk.injEq]
  constructor
  · rintro ⟨held, rfl, url, after, ⟨isUrl, rfl⟩, rfl, rfl⟩
    exact ⟨url, rfl, isUrl, by simp only [print, List.append_assoc]⟩
  · rintro ⟨url, rfl, isUrl, rfl⟩
    exact ⟨url ++ (closer ++ rest), by simp only [print, List.append_assoc], url, rest,
      ⟨isUrl, rfl⟩, rfl, rfl⟩

theorem readChat_iff : readChat text = some (token, rest) ↔
    ∃ title path, token = .chat title path ∧ token.Fits ∧ text = token.print ++ rest := by
  simp only [readChat, Option.bind_eq_bind, Option.bind_eq_some_iff, Prod.exists, readUntil_iff,
    readGroup_iff, List.isPrefixOf?_eq_some_iff_append_eq, Option.pure_def, Option.some.injEq,
    Prod.mk.injEq]
  constructor
  · rintro ⟨held, rfl, title, _, ⟨notEmpty, closed, rfl⟩, _, rfl, path, after, ⟨isGroup, rfl⟩, rfl,
      rfl⟩
    exact ⟨title, path, rfl, ⟨notEmpty, closed, isGroup⟩, by simp⟩
  · rintro ⟨title, path, rfl, ⟨notEmpty, closed, isGroup⟩, rfl⟩
    exact ⟨_, by simp, title, _, ⟨notEmpty, closed, rfl⟩, _, rfl, path, rest, ⟨isGroup, rfl⟩, rfl,
      rfl⟩

theorem readMention_iff : readMention text = some (token, rest) ↔
    ∃ name, token = .mention name ∧ token.Fits ∧ text = token.print ++ rest := by
  simp only [readMention, Option.bind_eq_bind, Option.bind_eq_some_iff, Prod.exists,
    readGroup_iff, List.isPrefixOf?_eq_some_iff_append_eq, Option.pure_def, Option.some.injEq,
    Prod.mk.injEq]
  constructor
  · rintro ⟨held, rfl, name, after, ⟨isGroup, rfl⟩, rfl, rfl⟩
    exact ⟨name, rfl, isGroup, by simp only [Token.print_mention, List.append_assoc]⟩
  · rintro ⟨name, rfl, isGroup, rfl⟩
    exact ⟨name ++ (closer ++ rest), by simp only [Token.print_mention, List.append_assoc], name,
      rest, ⟨isGroup, rfl⟩, rfl, rfl⟩

theorem readQuote_iff : readQuote text = some (token, rest) ↔
    ∃ user quoted, token = .quote user quoted ∧ token.Fits ∧ text = token.print ++ rest := by
  simp only [readQuote, Option.bind_eq_bind, Option.bind_eq_some_iff, Prod.exists, readUntil_iff,
    readGroup_iff, List.isPrefixOf?_eq_some_iff_append_eq, Option.pure_def, Option.some.injEq,
    Prod.mk.injEq]
  constructor
  · rintro ⟨held, rfl, user, _, ⟨notEmpty, closed, rfl⟩, _, rfl, quoted, after, ⟨isGroup, rfl⟩, rfl,
      rfl⟩
    exact ⟨user, quoted, rfl, ⟨notEmpty, closed, isGroup⟩, by simp⟩
  · rintro ⟨user, quoted, rfl, ⟨notEmpty, closed, isGroup⟩, rfl⟩
    exact ⟨_, by simp, user, _, ⟨notEmpty, closed, rfl⟩, _, rfl, quoted, rest, ⟨isGroup, rfl⟩, rfl,
      rfl⟩

/-- A rule reads the written forms of the tokens of its kind that fit, whatever follows them. -/
theorem Kind.read_iff : kind.rule text = some (token, rest) ↔
    token.kind? = some kind ∧ token.Fits ∧ text = token.print ++ rest := by
  cases kind with
  | image =>
    refine (readFramed_iff Token.print_image).trans ⟨?_, ?_⟩
    · rintro ⟨url, rfl, read⟩
      exact ⟨rfl, read⟩
    · rintro ⟨same, read⟩
      cases token with
      | image url => exact ⟨url, rfl, read⟩
      | _ => cases same
  | chat =>
    refine readChat_iff.trans ⟨?_, ?_⟩
    · rintro ⟨title, path, rfl, read⟩
      exact ⟨rfl, read⟩
    · rintro ⟨same, read⟩
      cases token with
      | chat title path => exact ⟨title, path, rfl, read⟩
      | _ => cases same
  | link =>
    refine (readFramed_iff Token.print_link).trans ⟨?_, ?_⟩
    · rintro ⟨url, rfl, read⟩
      exact ⟨rfl, read⟩
    · rintro ⟨same, read⟩
      cases token with
      | link url => exact ⟨url, rfl, read⟩
      | _ => cases same
  | mention =>
    refine readMention_iff.trans ⟨?_, ?_⟩
    · rintro ⟨name, rfl, read⟩
      exact ⟨rfl, read⟩
    · rintro ⟨same, read⟩
      cases token with
      | mention name => exact ⟨name, rfl, read⟩
      | _ => cases same
  | quote =>
    refine readQuote_iff.trans ⟨?_, ?_⟩
    · rintro ⟨user, quoted, rfl, read⟩
      exact ⟨rfl, read⟩
    · rintro ⟨same, read⟩
      cases token with
      | quote user quoted => exact ⟨user, quoted, rfl, read⟩
      | _ => cases same

/-! ## written forms -/

namespace Token

theorem Fits.kind?_ne_none (fits : token.Fits) : token.kind? ≠ none := by
  cases token with
  | literal text => exact fits.elim
  | _ => exact Option.some_ne_none _

theorem opener_starts (fits : token.Fits) : opener <+: token.print := by
  cases token with
  | literal text => exact fits.elim
  | _ => simp [opener]

theorem getLast?_print (fits : token.Fits) : token.print.getLast? = some ']' := by
  cases token with
  | literal text => exact fits.elim
  | _ =>
    simp only [print_image, print_chat, print_link, print_mention, print_quote,
      List.getLast?_append]
    rfl

theorem print_ne_nil (fits : token.Fits) : token.print ≠ [] := by
  have front := (opener_starts fits).length_le
  rintro empty
  simp [empty, opener] at front

end Token

end Markup

end ChatTranscript
