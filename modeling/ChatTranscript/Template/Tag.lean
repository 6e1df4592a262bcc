import ChatTranscript.Text.Blank

/-!
# Tags in a template

A tag stands between double braces: a variable, or the opening or closing of a loop. Blanks inside
the braces do not count, and a tag holds no closing brace.

## Main definitions

* `Template.readVariable`: a tag at the front of a text.
* `Template.readBlock`: a loop, from its opening tag to the nearest closing tag.
-/

namespace ChatTranscript

namespace Template

def openBraces : Text := ['{', '{']

def closeBraces : Text := ['}', '}']

/-- What stands between the braces of a tag, with the text after the tag. -/
def readBraces (text : Text) : Option (Text × Text) := do
  let rest ← openBraces.isPrefixOf? text
  let (inner, rest) := Text.spanWhile (· != '}') rest
  let after ← closeBraces.isPrefixOf? rest
  return (inner, after)

/-- A variable tag holds at least one character; its key is what is not blank at the ends. -/
def readVariable (text : Text) : Option (Text × Text) :=
  match readBraces text with
  | some (c :: inner, after) => some (Text.strip (c :: inner), after)
  | _ => none

/-- The path of an opening tag. A blank and at least one more character follow `#each`. -/
def openingPath? (inner : Text) : Option Text :=
  match "#each".toList.isPrefixOf? (inner.dropWhile Text.isBlank) with
  | some (blank :: c :: rest) =>
    if Text.isBlank blank then some (Text.strip (c :: rest)) else none
  | _ => none

def isClosing (inner : Text) : Bool := Text.strip inner == "/each".toList

def readOpening (text : Text) : Option (Text × Text) := do
  let (inner, after) ← readBraces text
  let path ← openingPath? inner
  return (path, after)

def readClosing (text : Text) : Option Text := do
  let (inner, after) ← readBraces text
  if isClosing inner then some after else none

/-- The text up to the nearest closing tag, and the text after that tag. -/
def readBody : Text → Option (Text × Text)
  | [] => none
  | c :: cs =>
    match readClosing (c :: cs) with
    | some after => some ([], after)
    | none => (readBody cs).map fun (body, after) => (c :: body, after)

structure Block where
  path : Text
  body : Text

def readBlock (text : Text) : Option (Block × Text) := do
  let (path, rest) ← readOpening text
  let (body, after) ← readBody rest
  return (⟨path, body⟩, after)

end Template

end ChatTranscript
