import ChatTranscript.Text.Blank
import ChatTranscript.Text.WordChar

/-!
# Style tags in a template

A style tag is a style element with its content, or a link that names a stylesheet. Names match in
any case.

## Main definitions

* `Style.readElement`, `Style.readLink`: the two kinds of tag at the front of a text.
* `Style.tags`: all style tags of a text, leftmost first.
-/

namespace ChatTranscript

namespace Style

/-! ## names in any case -/

/-- Lower case; the dotted and the dotless i, the long s and the kelvin sign are i, s and k. -/
def foldCase (c : Char) : Char :=
  if c = '\u0130' || c = '\u0131' then 'i'
  else if c = '\u017f' then 's'
  else if c = '\u212a' then 'k'
  else c.toLower

/-- The text after a word in lower case that stands in front of it in any case. -/
def dropWord? : Text → Text → Option Text
  | [], text => some text
  | _ :: _, [] => none
  | w :: word, c :: text => if foldCase c = w then dropWord? word text else none

def endsWord : Text → Bool
  | [] => true
  | c :: _ => !Text.isWordChar c

/-- What follows an opening angle and a whole name. -/
def dropName? (name : Text) (text : Text) : Option Text := do
  let rest ← dropWord? ('<' :: name) text
  if endsWord rest then some rest else none

/-- What stands before the first closing angle, and what follows it. -/
def readToAngle (text : Text) : Option (Text × Text) :=
  match Text.spanWhile (· != '>') text with
  | (inner, _ :: after) => some (inner, after)
  | (_, []) => none

/-! ## style elements -/

def readEnd (text : Text) : Option Text := do
  let rest ← dropWord? "</style".toList text
  ['>'].isPrefixOf? (rest.dropWhile Text.isBlank)

/-- What follows the nearest end tag. -/
def dropContent? : Text → Option Text
  | [] => none
  | c :: cs =>
    match readEnd (c :: cs) with
    | some after => some after
    | none => dropContent? cs

def readElement (text : Text) : Option Text := do
  let rest ← dropName? "style".toList text
  let (_, rest) ← readToAngle rest
  dropContent? rest

/-! ## links -/

def dropQuote : Text → Text
  | '"' :: rest | '\'' :: rest => rest
  | text => text

/-- The text starts with `rel = stylesheet`, with or without an opening quote. -/
def namesStylesheet (text : Text) : Bool :=
  match dropWord? "rel".toList text with
  | none => false
  | some rest =>
    match rest.dropWhile Text.isBlank with
    | '=' :: rest =>
      (dropWord? "stylesheet".toList (dropQuote (rest.dropWhile Text.isBlank))).isSome
    | _ => false

/-- Somewhere after the front, a word starts that names a stylesheet. -/
def relatesToStylesheet : Text → Bool
  | [] => false
  | c :: cs => (!Text.isWordChar c && namesStylesheet cs) || relatesToStylesheet cs

def readLink (text : Text) : Option Text := do
  let rest ← dropName? "link".toList text
  let (inner, after) ← readToAngle rest
  if relatesToStylesheet inner then some after else none

/-! ## tags -/

def readTag (text : Text) : Option (Unit × Text) :=
  ((readElement text).or (readLink text)).map fun after => ((), after)

def ofPiece? : Text.Piece Unit → Option Text
  | .plain _ => none
  | .found text _ => some text

def tags (text : Text) : List Text := (Text.scan readTag text).filterMap ofPiece?

end Style

end ChatTranscript
