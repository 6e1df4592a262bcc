import ChatTranscript.Proofs.Markup.Recognition

/-!
# Tokens stand by themselves

What a text is split into does not hang together: each token is what its own stretch is read as,
without the text around it. The passes see to that. A pass leaves no written form of its kind in
what stays literal, and later passes only take stretches out of that.

## Main definitions

* `Markup.Kind.Missing`: no markup of a kind is written in a text.
* `Markup.Settled`: what the passes so far make sure of for a stretch.

## Main statements

* `Markup.Kind.missing_of_scan`: a pass leaves no markup of its kind in what stays literal.
* `Markup.tokenize_alone`: each token is read again from its own stretch.
-/

namespace ChatTranscript

namespace Markup

open Text (Piece)

variable {text part : Text} {token : Token} {kind : Kind} {kinds past : List Kind}
  {pieces : List (Piece Token)} {piece : Piece Token}

/-! ## text without markup of a kind -/

/-- No markup of the kind is written in the text. -/
def Kind.Missing (kind : Kind) (text : Text) : Prop :=
  ∀ token : Token, token.kind? = some kind → token.Fits → ¬ token.print <:+: text

theorem Kind.Missing.of_part (h : kind.Missing text) (inside : part <:+: text) :
    kind.Missing part :=
  fun token same fits written => h token same fits (written.trans inside)

@[simp] theorem Kind.missing_nil : kind.Missing [] :=
  fun _ _ fits written => Token.print_ne_nil fits (List.infix_nil.1 written)

/-- Where the rule reads nothing, no markup of its kind starts. -/
theorem Kind.not_prefix_of_unread (unread : kind.rule text = none) (same : token.kind? = some kind)
    (fits : token.Fits) : ¬ token.print <+: text := by
  rintro ⟨rest, rfl⟩
  rw [Kind.read_iff.2 ⟨same, fits, rfl⟩] at unread
  cases unread

/-- Where no markup of the kind is written, its rule reads nothing. -/
theorem Kind.Missing.unread (h : kind.Missing text) (ends : part <:+ text) :
    kind.rule part = none := by
  cases read : kind.rule part with
  | none => rfl
  | some result =>
    obtain ⟨token, rest⟩ := result
    obtain ⟨same, fits, rfl⟩ := Kind.read_iff.1 read
    exact absurd ((List.prefix_append _ rest).isInfix.trans ends.isInfix) (h token same fits)

theorem Kind.missing_cons {c : Char} {rest : Text} (unread : kind.rule (c :: rest) = none)
    (front : part <+: rest) (h : kind.Missing part) : kind.Missing (c :: part) := by
  intro token same fits written
  obtain starts | later := List.infix_cons_iff.1 written
  · exact Kind.not_prefix_of_unread unread same fits
      (starts.trans ((List.prefix_cons_inj c).2 front))
  · exact h token same fits later

/-! ## one pass -/

/-- A plain piece behind one more character is one that was there, or begins with it. -/
theorem plain_of_mem_push {c : Char} (member : .plain part ∈ Piece.push c pieces) :
    .plain part ∈ pieces ∨
      ∃ first, part = c :: first ∧ (first = [] ∨ pieces.head? = some (.plain first)) := by
  revert member
  fun_cases Piece.push c pieces with
  | case1 first rest =>
    rw [List.mem_cons]
    rintro (⟨⟨⟩⟩ | later)
    · exact .inr ⟨first, rfl, .inr rfl⟩
    · exact .inl (List.mem_cons_of_mem _ later)
  | case2 pieces =>
    rw [List.mem_cons]
    rintro (⟨⟨⟩⟩ | later)
    · exact .inr ⟨[], rfl, .inl rfl⟩
    · exact .inl later

/-- A scan leaves no markup of its kind in what stays plain. -/
theorem Kind.missing_of_scan (kind : Kind) (text : Text) :
    ∀ part, .plain part ∈ Text.scan kind.rule text → kind.Missing part := by
  refine Text.scan_induction kind.reads
    (motive := fun _ pieces => ∀ part, .plain part ∈ pieces → kind.Missing part) ?_ ?_ ?_ text
  · simp
  · intro c rest unread ih part member
    obtain before | ⟨first, rfl, rfl | head⟩ := plain_of_mem_push member
    · exact ih part before
    · exact Kind.missing_cons unread List.nil_prefix Kind.missing_nil
    · -- the piece in front is where the rest of the text starts
      have front : first <+: rest := by
        obtain ⟨pieces, eq⟩ := List.head?_eq_some_iff.1 head
        have whole := (Text.scan_isSplit kind.reads rest).whole
        rw [eq, List.flatMap_cons] at whole
        exact ⟨_, whole⟩
      exact Kind.missing_cons unread front (ih first (List.mem_of_mem_head? head))
  · intro stretch token rest _ _ ih part member
    exact ih part (by simpa using member)

/-- A pass leaves a literal alone in which its kind is missing. -/
theorem Kind.Missing.refine (h : kind.Missing text) (notEmpty : text ≠ []) :
    Token.refine kind.rule (.literal text) = [.literal text] := by
  have passes : Text.scan kind.rule (text ++ []) = text.foldr Piece.push [] :=
    Text.scan_passes fun front back split _ => by
      rw [List.append_nil]
      exact h.unread ⟨front, split.symm⟩
  have marked : Marked [] := by simp [Marked]
  rw [List.append_nil] at passes
  rw [Token.refine, passes, (marked.ofPiece_foldr_push notEmpty).2]
  rfl

/-- A pass takes the written form of a token of its kind as a whole. -/
theorem Token.refine_print (same : token.kind? = some kind) (fits : token.Fits) :
    Token.refine kind.rule (.literal token.print) = [token] := by
  have read : kind.rule (token.print ++ []) = some (token, []) :=
    Kind.read_iff.2 ⟨same, fits, rfl⟩
  have found := Text.scan_found (Token.print_ne_nil fits) read
  rw [List.append_nil] at found
  rw [Token.refine, found]
  rfl

/-! ## all passes -/

@[simp] theorem Kind.mem_all (kind : Kind) : kind ∈ Kind.all := by
  cases kind <;> decide

/-- The kinds whose rules apply before the one of this kind. -/
def Kind.earlier (kind : Kind) : List Kind := Kind.all.takeWhile (· != kind)

theorem Kind.earlier_eq (order : past ++ kind :: kinds = Kind.all) : kind.earlier = past := by
  have distinct : (past ++ kind :: kinds).Nodup := order ▸ by decide
  have before : ∀ other ∈ past, (other != kind) = true := fun other member => by
    simpa using (List.nodup_append.1 distinct).2.2 other member kind (by simp)
  rw [Kind.earlier, ← order, List.takeWhile_append_of_pos before]
  simp

/-- What the passes of the past kinds make sure of: in what is still plain they are all missing, and
in a token those before its own kind are. -/
def Settled (past : List Kind) : Piece Token → Prop
  | .plain text => ∀ kind ∈ past, kind.Missing text
  | .found stretch token =>
    ∃ kind, token.kind? = some kind ∧ ∀ other ∈ kind.earlier, other.Missing stretch

theorem Kind.reads_kind (kind : Kind) :
    Text.Reads (fun _ token => token.kind? = some kind) kind.rule := by
  intro text token rest read
  obtain ⟨same, fits, split⟩ := Kind.read_iff.1 read
  exact ⟨token.print, Token.print_ne_nil fits, split, same⟩

/-- One more pass settles its kind. -/
theorem Settled.rescan (order : past ++ kind :: kinds = Kind.all) (h : Settled past piece) :
    ∀ next ∈ Piece.rescan kind.rule piece, Settled (past ++ [kind]) next := by
  intro next member
  cases piece with
  | found stretch token =>
    obtain rfl := List.mem_singleton.1 member
    exact h
  | plain text =>
    have split := Text.scan_isSplit kind.reads_kind text
    have inside : next.text <:+: text := by
      rw [← split.whole]
      exact List.infix_of_mem_flatten (List.mem_map_of_mem member)
    have kept : ∀ other ∈ past, other.Missing next.text :=
      fun other known => (h other known).of_part inside
    cases next with
    | plain part =>
      intro other known
      obtain before | now := List.mem_append.1 known
      · exact kept other before
      · obtain rfl := List.mem_singleton.1 now
        exact other.missing_of_scan text part member
    | found stretch token =>
      refine ⟨kind, split.holds stretch token member, ?_⟩
      rw [Kind.earlier_eq order]
      exact kept

theorem settled_foldl (order : past ++ kinds = Kind.all)
    (h : ∀ piece ∈ pieces, Settled past piece) :
    ∀ piece ∈ (kinds.map Kind.rule).foldl rescanAll pieces, Settled Kind.all piece := by
  induction kinds generalizing past pieces with
  | nil =>
    rw [List.append_nil] at order
    exact order ▸ h
  | cons kind kinds ih =>
    have order' : past ++ [kind] ++ kinds = Kind.all := by simpa using order
    refine ih order' fun next member => ?_
    obtain ⟨piece, known, member⟩ := List.mem_flatMap.1 member
    exact (h piece known).rescan order next member

theorem settled_slices (text : Text) : ∀ slice ∈ slices text, Settled Kind.all slice := by
  have order : [] ++ Kind.all = Kind.all := List.nil_append _
  refine settled_foldl order fun piece member => ?_
  cases text with
  | nil => cases member
  | cons c text =>
    obtain rfl := List.mem_singleton.1 member
    exact fun kind known => by cases known

/-- After all passes no markup is written in what is plain. -/
theorem missing_of_plain (member : .plain part ∈ slices text) (kind : Kind) : kind.Missing part :=
  settled_slices text _ member kind kind.mem_all

/-! ## reading again -/

/-- Passes leave a literal alone in which their kinds are missing. -/
theorem foldl_refineAll_missing (missing : ∀ kind ∈ kinds, kind.Missing text)
    (notEmpty : text ≠ []) :
    (kinds.map Kind.rule).foldl refineAll [.literal text] = [.literal text] := by
  induction kinds with
  | nil => rfl
  | cons kind kinds ih =>
    obtain ⟨first, later⟩ := List.forall_mem_cons.1 missing
    rw [List.map_cons, List.foldl_cons, refineAll, List.flatMap_singleton, first.refine notEmpty]
    exact ih later

/-- Passes leave markup alone. -/
theorem foldl_refineAll_markup (markup : token.kind? ≠ none) (rules : List Rule) :
    rules.foldl refineAll [token] = [token] := by
  induction rules with
  | nil => rfl
  | cons rule rules ih =>
    cases token with
    | literal text => exact absurd rfl markup
    | _ => exact ih

/-- A text in which all markup is missing is one literal. -/
theorem tokenize_missing (missing : ∀ kind : Kind, kind.Missing text) (notEmpty : text ≠ []) :
    tokenize text = [.literal text] := by
  rw [tokenize, if_neg (by simpa using notEmpty), rules_eq]
  exact foldl_refineAll_missing (fun kind _ => missing kind) notEmpty

/-- The written form of a token in which the earlier kinds are missing is that token. -/
theorem tokenize_print (same : token.kind? = some kind) (fits : token.Fits)
    (missing : ∀ earlier ∈ kind.earlier, earlier.Missing token.print) :
    tokenize token.print = [token] := by
  have notEmpty := Token.print_ne_nil fits
  obtain ⟨later, order⟩ : ∃ later, Kind.all = kind.earlier ++ kind :: later := by
    cases kind <;> exact ⟨_, rfl⟩
  rw [tokenize, if_neg (by simpa using notEmpty), rules_eq, order, List.map_append,
    List.foldl_append, foldl_refineAll_missing missing notEmpty, List.map_cons, List.foldl_cons,
    refineAll, List.flatMap_singleton, Token.refine_print same fits]
  exact foldl_refineAll_markup (by simp [same]) _

/-- A slice is read by itself as the token that it stands for. -/
theorem tokenize_slice {slice : Piece Token} (member : slice ∈ slices text) :
    tokenize slice.text = [Token.ofPiece slice] := by
  obtain ⟨split, -⟩ := slices_isSplit text
  cases slice with
  | plain part => exact tokenize_missing (missing_of_plain member) (split.notEmpty _ member)
  | found stretch token =>
    obtain ⟨fits, rfl⟩ := split.holds stretch token member
    obtain ⟨kind, same, missing⟩ := settled_slices text _ member
    exact tokenize_print same fits missing

/-- Each token is what its stretch of the text is read as by itself. No markup is written in a
literal, and none of an earlier kind in the other tokens. -/
theorem tokenize_alone (text : Text) :
    tokenize text = (slices text).map Token.ofPiece ∧
    (∀ slice ∈ slices text, tokenize slice.text = [Token.ofPiece slice]) ∧
    (∀ token ∈ tokenize text, tokenize token.print = [token]) ∧
    (∀ part, .literal part ∈ tokenize text → ∀ kind : Kind, kind.Missing part) ∧
    ∀ token ∈ tokenize text, ∀ kind, token.kind? = some kind →
      ∀ earlier ∈ kind.earlier, earlier.Missing token.print := by
  obtain ⟨split, tokens⟩ := slices_isSplit text
  have stands {token : Token} (member : token ∈ tokenize text) :
      ∃ slice ∈ slices text, Token.ofPiece slice = token ∧ slice.text = token.print := by
    rw [tokens] at member
    obtain ⟨slice, known, rfl⟩ := List.mem_map.1 member
    cases slice with
    | plain part => exact ⟨_, known, rfl, rfl⟩
    | found stretch token => exact ⟨_, known, rfl, (split.holds stretch token known).2⟩
  refine ⟨tokens, fun slice member => tokenize_slice member, fun token member => ?_,
    fun part member kind => ?_, fun token member kind same => ?_⟩
  · obtain ⟨slice, known, rfl, written⟩ := stands member
    rw [← written]
    exact tokenize_slice known
  · obtain ⟨slice, known, eq, -⟩ := stands member
    cases slice with
    | plain text =>
      cases eq
      exact missing_of_plain known kind
    | found stretch token =>
      cases eq
      exact (split.holds stretch _ known).1.elim
  · obtain ⟨slice, known, rfl, written⟩ := stands member
    have settled := settled_slices text slice known
    cases slice with
    | plain text => cases same
    | found stretch token =>
      obtain ⟨own, same', missing⟩ := settled
      cases same'.symm.trans same
      rw [← written]
      exact missing

/-- An image inside of a link is taken first, and what is left is no link. -/
example : tokenize "[:a::http://x/[:image::http://y/::]::]".toList =
    [.literal "[:a::http://x/".toList, .image "http://y/".toList, .literal "::]".toList] := by
  decide +kernel

end Markup

end ChatTranscript
