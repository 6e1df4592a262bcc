import ChatTranscript.Proofs.Markup.Partition

/-!
# Written tokens are recognised

Tokens that are written one after the other are read back in order, whatever their kinds and however
close they stand, as long as the marks of the markup stand nowhere but at the ends of each.

## Main definitions

* `Markup.Token.IsClear`: tokens in which the marks stand at the ends alone.
* `Markup.merge`: the tokens of some kinds, with all other text taken as literal.

## Main statements

* `Markup.refineAll_merge`: a pass sets the tokens of its kind apart.
* `Markup.tokenize_printAll`: clear tokens are read back.
-/

namespace ChatTranscript

namespace Markup

open Text (Piece)

variable {rule : Rule} {text rest front group : Text} {token : Token} {tokens : List Token}
  {kind : Kind} {settled : Token → Bool}

/-! ## clear tokens -/

/-- The characters that a kind of markup allows in its groups. -/
def Token.IsProper : Token → Prop
  | .literal text => text ≠ []
  | .image url | .link url => ∃ scheme ∈ schemes, ∃ host,
    url = scheme ++ host ∧ host ≠ [] ∧ ∀ c ∈ host, Text.isBlank c = false
  | .chat title path => title ≠ [] ∧ ')' ∉ title ∧ path ≠ [] ∧ ∀ c ∈ path, Text.isBlank c = false
  | .mention name => name ≠ [] ∧ ':' ∉ name
  | .quote user quoted => user ≠ [] ∧ ']' ∉ user ∧ '\n' ∉ quoted

/-- The opening mark stands only where markup starts, and the closing mark only where it ends. -/
def Token.IsClear (token : Token) : Prop :=
  token.IsProper ∧
    if token.kind? = none then ¬ opener <:+: token.print
    else ¬ opener <:+: token.print.tail ∧ ¬ closer <:+: token.print.dropLast

/-- A group behind which the first closing mark stands. -/
theorem IsGroup.of_last {allowed : Char → Bool} {least : Nat} (long : least ≤ group.length)
    (all : ∀ c ∈ group, allowed c = true)
    (once : ¬ closer <:+: (front ++ group ++ closer).dropLast) :
    IsGroup allowed least group := by
  refine ⟨long, all, fun n _ short closed => once ?_⟩
  have last : (front ++ group ++ closer).dropLast = front ++ (group ++ closer.dropLast) := by
    rw [List.dropLast_append_of_ne_nil (by decide), List.append_assoc]
  -- an earlier mark ends before the last character does
  have earlier : closer <+: group.drop n ++ closer.dropLast := by
    refine (prefix_append_iff ?_ [']']).1 (by simpa [closer] using closed)
    simp only [closer, List.length_append, List.length_drop]
    simp
    omega
  rw [last]
  refine earlier.isInfix.trans (List.IsInfix.trans ?_ (List.suffix_append _ _).isInfix)
  refine List.IsSuffix.isInfix ⟨group.take n, ?_⟩
  rw [← List.append_assoc, List.take_append_drop]

theorem IsUrl.of_last {url : Text}
    (proper : ∃ scheme ∈ schemes, ∃ host,
      url = scheme ++ host ∧ host ≠ [] ∧ ∀ c ∈ host, Text.isBlank c = false)
    (once : ¬ closer <:+: (front ++ url ++ closer).dropLast) : IsUrl url := by
  obtain ⟨scheme, known, host, rfl, notEmpty, notBlank⟩ := proper
  rw [← List.append_assoc] at once
  refine ⟨scheme, known, host, .of_last (List.length_pos_of_ne_nil notEmpty) ?_ once, rfl⟩
  simpa using notBlank

theorem Token.IsClear.fits (clear : token.IsClear) (markup : token.kind? ≠ none) : token.Fits := by
  obtain ⟨proper, marks⟩ := clear
  rw [if_neg markup] at marks
  obtain ⟨-, closes⟩ := marks
  cases token with
  | literal text => exact markup rfl
  | image url => exact .of_last proper closes
  | link url => exact .of_last proper closes
  | chat title path =>
    obtain ⟨notEmpty, closed, long, notBlank⟩ := proper
    exact ⟨notEmpty, closed, .of_last (List.length_pos_of_ne_nil long) (by simpa using notBlank)
      closes⟩
  | mention name =>
    obtain ⟨notEmpty, noColon⟩ := proper
    refine .of_last (List.length_pos_of_ne_nil notEmpty) (fun c member => ?_) closes
    simpa using ne_of_mem_of_not_mem member noColon
  | quote user quoted =>
    obtain ⟨notEmpty, closed, oneLine⟩ := proper
    refine ⟨notEmpty, closed, .of_last (Nat.zero_le _) (fun c member => ?_) closes⟩
    simpa using ne_of_mem_of_not_mem member oneLine

theorem Token.IsClear.print_ne_nil (clear : token.IsClear) : token.print ≠ [] := by
  by_cases literal : token.kind? = none
  · cases token with
    | literal text => exact clear.1
    | _ => cases literal
  · exact Token.print_ne_nil (clear.fits literal)

/-! ## one rule on written tokens -/

theorem Kind.rule_eq_none (h : ¬ opener <+: text) : kind.rule text = none := by
  cases read : kind.rule text with
  | none => rfl
  | some result =>
    obtain ⟨token, rest⟩ := result
    obtain ⟨-, fits, split⟩ := Kind.read_iff.1 read
    rw [split] at h
    exact absurd ((Token.opener_starts fits).trans (List.prefix_append _ _)) h

/-- The frames of two kinds differ. -/
theorem Kind.eq_of_print_append {other : Token} {later : Text} (fits : token.Fits)
    (fits' : other.Fits) (same : token.print ++ rest = other.print ++ later) :
    token.kind? = other.kind? := by
  cases token with
  | literal text => exact fits.elim
  | _ =>
    cases other with
    | literal text => exact fits'.elim
    | _ => first | rfl | simp at same

/-- A character that no opening mark starts with what follows. -/
theorem not_opener_starts {c : Char} (inside : ¬ opener <+: c :: text)
    (last : text = [] → c ≠ '[' ∨ rest.head? ≠ some ':') : ¬ opener <+: c :: (text ++ rest) := by
  cases text with
  | cons d text =>
    intro opens
    rw [← List.cons_append, prefix_append_iff (by simp [opener]) _] at opens
    exact inside opens
  | nil =>
    rintro ⟨later, split⟩
    simp only [opener, List.cons_append, List.nil_append, List.cons.injEq] at split
    obtain ⟨rfl, rfl⟩ := split
    simp at last

/-- What follows a literal does not complete an opening mark at its end. -/
theorem head?_printAll_ne (clear : ∀ token ∈ tokens, token.IsClear)
    (markup : ∀ token ∈ tokens.head?, token.kind? ≠ none) :
    (tokens.flatMap Token.print).head? ≠ some ':' := by
  cases tokens with
  | nil => simp
  | cons token tokens =>
    have fits := (clear token (by simp)).fits (markup token rfl)
    obtain ⟨inner, split⟩ := Token.opener_starts fits
    rw [List.flatMap_cons, ← split]
    simp [opener]

/-- Of a clear token, no rule of another kind reads anything. -/
theorem Kind.unread (clear : token.IsClear) (other : token.kind? ≠ some kind)
    (follows : token.kind? = none → rest.head? ≠ some ':') (front back : Text)
    (split : token.print = front ++ back) (notEmpty : back ≠ []) :
    kind.rule (back ++ rest) = none := by
  obtain ⟨c, back, rfl⟩ := List.exists_cons_of_ne_nil notEmpty
  have marks := clear.2
  by_cases literal : token.kind? = none
  · rw [if_pos literal] at marks
    refine Kind.rule_eq_none (not_opener_starts (fun opens => marks ?_) fun _ => .inr
      (follows literal))
    rw [split]
    exact opens.isInfix.trans (List.suffix_append _ _).isInfix
  · rw [if_neg literal] at marks
    have fits := clear.fits literal
    cases front with
    | nil =>
      cases read : kind.rule (c :: back ++ rest) with
      | none => rfl
      | some result =>
        obtain ⟨token', later⟩ := result
        obtain ⟨same, fits', eq⟩ := Kind.read_iff.1 read
        rw [← List.nil_append (c :: back), ← split] at eq
        exact absurd ((Kind.eq_of_print_append fits fits' eq).trans same) other
    | cons d front =>
      refine Kind.rule_eq_none (not_opener_starts (fun opens => marks.1 ?_) fun last => .inl ?_)
      · rw [split]
        exact opens.isInfix.trans (List.suffix_append _ _).isInfix
      · have ends := Token.getLast?_print fits
        rw [split, last, List.getLast?_append] at ends
        rintro rfl
        simp at ends

/-! ## tokens set apart -/

/-- A literal stretch in front, joined to a literal that follows it. -/
def pushLiteral (text : Text) : List Token → List Token
  | .literal other :: rest => .literal (text ++ other) :: rest
  | rest => .literal text :: rest

/-- The settled tokens stand apart; all other text is literal. -/
def merge (settled : Token → Bool) : List Token → List Token
  | [] => []
  | token :: rest =>
    if settled token then token :: merge settled rest
    else pushLiteral token.print (merge settled rest)

theorem pushLiteral_append (text other : Text) (tokens : List Token) :
    pushLiteral (text ++ other) tokens = pushLiteral text (pushLiteral other tokens) := by
  fun_cases pushLiteral other tokens with
  | case1 last rest => simp only [pushLiteral, List.append_assoc]
  | case2 tokens noLiteral =>
    cases tokens with
    | nil => rfl
    | cons token rest =>
      cases token with
      | literal last => exact absurd rfl (noLiteral last rest)
      | _ => rfl

variable {pieces : List (Piece Token)}

/-- No piece stands for literal text but the plain ones. -/
def Marked (pieces : List (Piece Token)) : Prop :=
  ∀ stretch token, .found stretch token ∈ pieces → token.kind? ≠ none

theorem Marked.push (marked : Marked pieces) (c : Char) : Marked (Piece.push c pieces) := by
  intro stretch token member
  refine marked stretch token ?_
  fun_cases Piece.push c pieces <;> simpa [Piece.push] using member

theorem Marked.ofPiece_push (marked : Marked pieces) (c : Char) :
    (Piece.push c pieces).map Token.ofPiece = pushLiteral [c] (pieces.map Token.ofPiece) := by
  cases pieces with
  | nil => rfl
  | cons piece rest =>
    cases piece with
    | plain text => rfl
    | found stretch token =>
      have markup := marked stretch token (by simp)
      cases token with
      | literal text => exact absurd rfl markup
      | _ => rfl

theorem Marked.ofPiece_foldr_push (marked : Marked pieces) (notEmpty : text ≠ []) :
    Marked (text.foldr Piece.push pieces) ∧
      (text.foldr Piece.push pieces).map Token.ofPiece =
        pushLiteral text (pieces.map Token.ofPiece) := by
  induction text with
  | nil => exact absurd rfl notEmpty
  | cons c text ih =>
    cases text with
    | nil => exact ⟨marked.push c, marked.ofPiece_push c⟩
    | cons d text =>
      obtain ⟨stays, eq⟩ := ih (by simp)
      rw [List.foldr_cons, stays.ofPiece_push, eq, ← pushLiteral_append]
      exact ⟨stays.push c, rfl⟩

/-- Scanning written tokens sets those of the rule's kind apart. -/
theorem scan_printAll (clear : ∀ token ∈ tokens, token.IsClear)
    (apart : Apart tokens) :
    (Text.scan kind.rule (tokens.flatMap Token.print)).map Token.ofPiece =
      merge (fun token => token.kind? == some kind) tokens := by
  induction tokens with
  | nil => rfl
  | cons token tokens ih =>
    obtain ⟨first, later⟩ := List.forall_mem_cons.1 clear
    have rest := ih later apart.tail
    rw [List.flatMap_cons, merge]
    by_cases same : token.kind? = some kind
    · have markup : token.kind? ≠ none := by simp [same]
      have fits := first.fits markup
      rw [Text.scan_found (Token.print_ne_nil fits) (Kind.read_iff.2 ⟨same, fits, rfl⟩)]
      simp [same, rest, Token.ofPiece]
    · have follows (literal : token.kind? = none) :
          (tokens.flatMap Token.print).head? ≠ some ':' := by
        refine head?_printAll_ne later fun next member => ?_
        exact (apart.rel_head? member).resolve_left (not_not_intro literal)
      have marked : Marked (Text.scan kind.rule (tokens.flatMap Token.print)) := by
        intro stretch token member literal
        have fits := ((Text.scan_isSplit kind.reads _).holds stretch token member).1
        exact fits.kind?_ne_none literal
      rw [Text.scan_passes (Kind.unread first same follows),
        (marked.ofPiece_foldr_push first.print_ne_nil).2, rest]
      simp [same]

/-! ## passes -/

theorem pushLiteral_markup (markup : token.kind? ≠ none) (text : Text) (before after : List Token) :
    pushLiteral text (before ++ token :: after) = pushLiteral text before ++ token :: after := by
  cases before with
  | nil =>
    cases token with
    | literal last => exact absurd rfl markup
    | _ => rfl
  | cons first before =>
    cases first <;> rfl

/-- What is settled keeps the text before it from the text behind it. -/
theorem merge_append (markup : token.kind? ≠ none) (stands : settled token = true)
    (before after : List Token) :
    merge settled (before ++ token :: after) =
      merge settled before ++ token :: merge settled after := by
  induction before with
  | nil => simp [merge, stands]
  | cons first before ih =>
    rw [List.cons_append, merge, merge, ih]
    split
    · rfl
    · exact pushLiteral_markup markup _ _ _

theorem merge_unsettled (none : ∀ token ∈ tokens, settled token = false) :
    merge settled tokens =
      if tokens.isEmpty then [] else [.literal (tokens.flatMap Token.print)] := by
  induction tokens with
  | nil => rfl
  | cons token tokens ih =>
    obtain ⟨first, later⟩ := List.forall_mem_cons.1 none
    rw [merge, first, ih later]
    cases tokens with
    | nil => simp [pushLiteral]
    | cons next tokens => simp [pushLiteral]

theorem merge_congr {other : Token → Bool} (same : ∀ token ∈ tokens, settled token = other token) :
    merge settled tokens = merge other tokens := by
  induction tokens with
  | nil => rfl
  | cons token tokens ih =>
    obtain ⟨first, later⟩ := List.forall_mem_cons.1 same
    rw [merge, merge, first, ih later]

@[simp] theorem refineAll_append (before after : List Token) :
    refineAll (before ++ after) rule = refineAll before rule ++ refineAll after rule :=
  List.flatMap_append

/-- A pass over text in which nothing is settled. -/
theorem refineAll_unsettled (kind : Kind) (clear : ∀ token ∈ tokens, token.IsClear)
    (apart : Apart tokens)
    (none : ∀ token ∈ tokens, settled token = false) :
    refineAll (merge settled tokens) kind.rule =
      merge (fun token => settled token || token.kind? == some kind) tokens := by
  have after : merge (fun token => settled token || token.kind? == some kind) tokens =
      merge (fun token => token.kind? == some kind) tokens :=
    merge_congr fun token member => by simp [none token member]
  rw [after, merge_unsettled none, ← scan_printAll clear apart]
  cases tokens with
  | nil => rfl
  | cons token tokens => simp [refineAll, Token.refine]

/-- A pass sets the tokens of its kind apart, and keeps apart what is. -/
theorem refineAll_merge (clear : ∀ token ∈ tokens, token.IsClear)
    (apart : Apart tokens)
    (markup : ∀ token, settled token = true → token.kind? ≠ none) :
    refineAll (merge settled tokens) kind.rule =
      merge (fun token => settled token || token.kind? == some kind) tokens := by
  -- the tokens up to the first settled one are scanned together
  induction length : tokens.length using Nat.strong_induction_on generalizing tokens with
  | h n ih =>
    have parts := @List.takeWhile_append_dropWhile _ (fun token => !settled token) tokens
    have unsettled : ∀ token ∈ tokens.takeWhile (fun token => !settled token),
        settled token = false := by
      intro token member
      simpa using List.mem_takeWhile_imp member
    generalize tokens.takeWhile (fun token => !settled token) = before at parts unsettled
    cases rest : tokens.dropWhile (fun token => !settled token) with
    | nil =>
      rw [rest, List.append_nil] at parts
      rw [← parts] at clear apart ⊢
      exact refineAll_unsettled kind clear apart unsettled
    | cons token after =>
      have stands : settled token = true := by
        have first := List.head?_dropWhile_not (fun token => !settled token) tokens
        simpa [rest] using first
      rw [rest] at parts
      rw [← parts] at clear apart length ⊢
      have isMarkup := markup token stands
      have kept : Token.refine kind.rule token = [token] := by
        cases token with
        | literal text => exact absurd rfl isMarkup
        | _ => rfl
      have first := refineAll_unsettled kind
        (fun token member => clear token (List.mem_append_left _ member)) apart.left_of_append
        unsettled
      have later := ih after.length (by simp [← length]; omega)
        (fun token member => clear token (List.mem_append_right _ (.tail _ member)))
        apart.right_of_append.tail rfl
      rw [merge_append isMarkup stands, merge_append isMarkup (by simp [stands]), refineAll_append,
        first, ← later]
      simp [refineAll, kept]

/-! ## all passes -/

/-- The tokens of the given kinds. -/
def isOf (kinds : List Kind) (token : Token) : Bool := token.kind?.any kinds.contains

theorem foldl_refineAll_merge (clear : ∀ token ∈ tokens, token.IsClear)
    (apart : Apart tokens)
    (kinds past : List Kind) :
    (kinds.map Kind.rule).foldl refineAll (merge (isOf past) tokens) =
      merge (isOf (past ++ kinds)) tokens := by
  induction kinds generalizing past with
  | nil => simp
  | cons kind kinds ih =>
    have markup : ∀ token, isOf past token = true → token.kind? ≠ none := by
      intro token settled literal
      simp [isOf, literal] at settled
    have next : (fun token => isOf past token || token.kind? == some kind) =
        isOf (past ++ [kind]) := by
      funext token
      simp only [isOf]
      cases token.kind? <;> simp [beq_eq_decide]
    rw [List.map_cons, List.foldl_cons, refineAll_merge clear apart markup, next, ih]
    simp

theorem merge_all (apart : Apart tokens) : merge (isOf Kind.all) tokens = tokens := by
  induction tokens with
  | nil => rfl
  | cons token tokens ih =>
    rw [merge, ih apart.tail]
    cases token with
    | literal text =>
      cases tokens with
      | nil => rfl
      | cons next tokens =>
        cases next with
        | literal other => simp [Token.kind?] at apart
        | _ => rfl
    | _ => rfl

/-- Clear tokens, no two literals of them side by side, are read back from their written forms. -/
theorem tokenize_printAll (clear : ∀ token ∈ tokens, token.IsClear) (apart : Apart tokens) :
    tokenize (tokens.flatMap Token.print) = tokens := by
  have start : (if (tokens.flatMap Token.print).isEmpty then []
      else [.literal (tokens.flatMap Token.print)]) = merge (isOf []) tokens := by
    rw [merge_unsettled fun token _ => by cases h : token.kind? <;> simp [isOf, h]]
    cases tokens with
    | nil => rfl
    | cons token tokens =>
      have notEmpty := (clear token (by simp)).print_ne_nil
      simp [notEmpty]
  rw [tokenize, start, rules_eq, foldl_refineAll_merge clear apart]
  exact merge_all apart

/-- All kinds of markup side by side, with colons and brackets at their ends. -/
def samples : List Token := [
  .literal "a [".toList, .mention "bob".toList, .image "https://x/y:".toList,
  .quote "a".toList [], .chat "t ]".toList "p:".toList, .link "http://:".toList,
  .literal "::]".toList]

theorem tokenize_samples : (∀ token ∈ samples, token.IsClear) ∧ Apart samples ∧
    tokenize (samples.flatMap Token.print) = samples := by
  have clear : ∀ token ∈ samples, token.IsClear := by
    simp only [samples, List.forall_mem_cons, List.not_mem_nil, false_implies, implies_true]
    have literal {text : Text} (notEmpty : text ≠ []) (opens : ¬ opener <:+: text) :
        (Token.literal text).IsClear := ⟨notEmpty, opens⟩
    have bare {text : Text} (h : text.all (fun c => !Text.isBlank c) = true) :
        ∀ c ∈ text, Text.isBlank c = false := by simpa using h
    refine ⟨literal (by decide) (by decide), ⟨⟨by decide, by decide⟩, by decide +kernel⟩,
      ⟨?_, by decide +kernel⟩, ⟨⟨by decide, by decide, by decide⟩, by decide +kernel⟩,
      ⟨⟨by decide, by decide, by decide, bare (by decide)⟩, by decide +kernel⟩,
      ⟨?_, by decide +kernel⟩, literal (by decide) (by decide), trivial⟩
    · exact ⟨"https://".toList, by decide, "x/y:".toList, by decide, by decide, bare (by decide)⟩
    · exact ⟨"http://".toList, by decide, ":".toList, by decide, by decide, bare (by decide)⟩
  have apart : Apart samples := by simp [Apart, samples, Token.kind?]
  exact ⟨clear, apart, tokenize_printAll clear apart⟩

end Markup

end ChatTranscript
