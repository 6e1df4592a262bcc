import ChatTranscript.Text.Blank

/-!
# Inline markup

A message text holds images, forwarded transcripts, links, mentions and quoted replies, each in a
frame of brackets and colons. The five rules apply one after another, each to the text that the
rules before it left over.

## Main definitions

* `Markup.Token`: literal text and the five kinds of markup.
* `Markup.Token.print`: the written form of a token.
* `Markup.rules`: for each kind, how its written form is recognised at the front of a text.
* `Markup.tokenize`: the tokens of a text.
-/

namespace ChatTranscript

namespace Markup

inductive Token where
  | literal (text : Text)
  | image (url : Text)
  | chat (title path : Text)
  | link (url : Text)
  | mention (name : Text)
  | quote (user quoted : Text)
  deriving DecidableEq

/-- The written form of a token. -/
def Token.print : Token → Text
  | .literal text => text
  | .image url => "[:image::".toList ++ url ++ "::]".toList
  | .chat title path => "[:chat:(".toList ++ title ++ ")::".toList ++ path ++ "::]".toList
  | .link url => "[:a::".toList ++ url ++ "::]".toList
  | .mention name => "[:call::@".toList ++ name ++ "::]".toList
  | .quote user quoted => "[:rep:[".toList ++ user ++ "]:".toList ++ quoted ++ "::]".toList

/-! ## reading a group -/

/-- The shortest group of at least `least` characters in `allowed` that `::]` follows. -/
def readGroup (allowed : Char → Bool) : Nat → Text → Option (Text × Text)
  | 0, text =>
    match "::]".toList.isPrefixOf? text with
    | some after => some ([], after)
    | none =>
      match text with
      | [] => none
      | c :: cs =>
        if allowed c then (readGroup allowed 0 cs).map fun (group, after) => (c :: group, after)
        else none
  | least + 1, c :: cs =>
    if allowed c then (readGroup allowed least cs).map fun (group, after) => (c :: group, after)
    else none
  | _ + 1, [] => none

/-- A group that is not empty, up to the first `stop`, which must be there. -/
def readUntil (stop : Char) (text : Text) : Option (Text × Text) :=
  match Text.spanWhile (· != stop) text with
  | (c :: cs, _ :: after) => some (c :: cs, after)
  | _ => none

/-- `http://` or `https://` and at least one character that is not blank. -/
def readUrl (text : Text) : Option (Text × Text) :=
  ["http://".toList, "https://".toList].findSome? fun scheme => do
    let rest ← scheme.isPrefixOf? text
    let (host, after) ← readGroup (fun c => !Text.isBlank c) 1 rest
    return (scheme ++ host, after)

/-! ## reading a token -/

abbrev Rule := Text → Option (Token × Text)

def readImage : Rule := fun text => do
  let rest ← "[:image::".toList.isPrefixOf? text
  let (url, after) ← readUrl rest
  return (.image url, after)

def readChat : Rule := fun text => do
  let rest ← "[:chat:(".toList.isPrefixOf? text
  let (title, rest) ← readUntil ')' rest
  let rest ← "::".toList.isPrefixOf? rest
  let (path, after) ← readGroup (fun c => !Text.isBlank c) 1 rest
  return (.chat title path, after)

def readLink : Rule := fun text => do
  let rest ← "[:a::".toList.isPrefixOf? text
  let (url, after) ← readUrl rest
  return (.link url, after)

def readMention : Rule := fun text => do
  let rest ← "[:call::@".toList.isPrefixOf? text
  let (name, after) ← readGroup (· != ':') 1 rest
  return (.mention name, after)

def readQuote : Rule := fun text => do
  let rest ← "[:rep:[".toList.isPrefixOf? text
  let (user, rest) ← readUntil ']' rest
  let rest ← ":".toList.isPrefixOf? rest
  let (quoted, after) ← readGroup (· != '\n') 0 rest
  return (.quote user quoted, after)

/-- The rules in the order in which they apply. -/
def rules : List Rule := [readImage, readChat, readLink, readMention, readQuote]

/-! ## tokens -/

def Token.ofPiece : Text.Piece Token → Token
  | .plain text => .literal text
  | .found _ token => token

/-- Applies a rule to a literal; markup stays. -/
def Token.refine (rule : Rule) : Token → List Token
  | .literal text => (Text.scan rule text).map ofPiece
  | token => [token]

def refineAll (tokens : List Token) (rule : Rule) : List Token :=
  tokens.flatMap (Token.refine rule)

/-- The tokens of a text, by all rules in order. -/
def tokenize (text : Text) : List Token :=
  rules.foldl refineAll (if text.isEmpty then [] else [.literal text])

end Markup

end ChatTranscript
