import ChatTranscript.Fault

/-!
# Standard output

What is printed goes to a console, which takes a text or refuses it. Its charset may lack a
character, or there may be no room for the text behind what was printed before.
-/

namespace ChatTranscript

/-- What comes of printing a text behind what was printed before. -/
abbrev Console := Text → Text → Except Fault Unit

namespace Console

def takesAll : Console := fun _ _ => .ok ()

/-- A console that takes what can be encoded. -/
def ofCharset (charset : Charset) : Console := fun _ text =>
  match charset.lacks? text with
  | some gap => .error (.unencodable gap)
  | none => .ok ()

end Console

end ChatTranscript
