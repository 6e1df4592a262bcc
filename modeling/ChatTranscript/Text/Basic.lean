/-!
# Text as a sequence of code points

Lengths, offsets and slices count code points. The scan at the end splits a text into the matches
of a rule and the plain stretches between them, leftmost match first.

## Main definitions

* `Text.cut?`: the two sides of the first occurrence of a needle.
* `Text.scan`: the pieces of a text under a matching rule.
-/

namespace ChatTranscript

abbrev Text := List Char

namespace Text

/-! ## searching -/

/-- The text on either side of the first `needle`. -/
def cut? (needle : Text) : Text → Option (Text × Text)
  | [] => if needle.isEmpty then some ([], []) else none
  | c :: cs =>
    match needle.isPrefixOf? (c :: cs) with
    | some after => some ([], after)
    | none => (cut? needle cs).map fun (before, after) => (c :: before, after)

def has (needle text : Text) : Bool := (cut? needle text).isSome

/-- The longest stretch of characters in `p` at the front, and what follows it. -/
def spanWhile (p : Char → Bool) (text : Text) : Text × Text :=
  (text.takeWhile p, text.dropWhile p)

/-- The text before the last `c` and the text after it. -/
def cutLast? (c : Char) (text : Text) : Option (Text × Text) :=
  match text.reverse.dropWhile (· != c) with
  | [] => none
  | _ :: before => some (before.reverse, (text.reverse.takeWhile (· != c)).reverse)

def trimEnd (p : Char → Bool) (text : Text) : Text := (text.reverse.dropWhile p).reverse

def trim (p : Char → Bool) (text : Text) : Text := trimEnd p (text.dropWhile p)

/-- An empty or absent text stands for the default. -/
def orDefault (default : Text) : Option Text → Text
  | none | some [] => default
  | some text => text

/-! ## line ends and layout -/

/-- Every line end, `CR LF` or a lone `CR`, becomes `LF`. -/
def unifyLineEnds : Text → Text
  | '\r' :: '\n' :: rest => '\n' :: unifyLineEnds rest
  | '\r' :: rest => '\n' :: unifyLineEnds rest
  | c :: rest => c :: unifyLineEnds rest
  | [] => []

def padEnd (width : Nat) (text : Text) : Text :=
  text ++ List.replicate (width - text.length) ' '

def padStart (width : Nat) (text : Text) : Text :=
  List.replicate (width - text.length) ' ' ++ text

/-! ## order -/

/-- Code point order. -/
def le : Text → Text → Bool
  | [], _ => true
  | _ :: _, [] => false
  | a :: as, b :: bs => if a.val < b.val then true else if b.val < a.val then false else le as bs

/-! ## scanning -/

/-- A stretch of a scanned text. -/
inductive Piece (α : Type) where
  | plain (text : Text)
  | found (text : Text) (value : α)

def Piece.text {α : Type} : Piece α → Text
  | .plain text => text
  | .found text _ => text

/-- One more plain character in front. -/
def Piece.push {α : Type} (c : Char) : List (Piece α) → List (Piece α)
  | .plain text :: rest => .plain (c :: text) :: rest
  | rest => .plain [c] :: rest

/-- Scans after `skip` characters. A rule reads a value from the front and gives the rest. -/
def scanFrom {α : Type} (rule : Text → Option (α × Text)) : Nat → Text → List (Piece α)
  | _, [] => []
  | skip + 1, _ :: cs => scanFrom rule skip cs
  | 0, c :: cs =>
    match rule (c :: cs) with
    | some (value, rest) =>
      let width := cs.length - rest.length
      .found (c :: cs.take width) value :: scanFrom rule width cs
    | none => Piece.push c (scanFrom rule 0 cs)

/-- The matches of a rule, leftmost first, and the plain stretches between them. -/
def scan {α : Type} (rule : Text → Option (α × Text)) (text : Text) : List (Piece α) :=
  scanFrom rule 0 text

end Text

end ChatTranscript
