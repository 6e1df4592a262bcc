import ChatTranscript.Text.Basic

/-!
# Escaping for HTML

The five characters that mean something in HTML become entities. Two spellings of the quotes are in
use: one for fragments and attributes, one for the page frame.
-/

namespace ChatTranscript

namespace Html

/-- The entities of the two quotes. -/
structure QuoteEntities where
  double : Text
  single : Text

def inFragments : QuoteEntities := ⟨"&quot;".toList, "&#x27;".toList⟩

def inPages : QuoteEntities := ⟨"&#34;".toList, "&#39;".toList⟩

def escapeChar (quotes : QuoteEntities) (c : Char) : Text :=
  if c = '&' then "&amp;".toList
  else if c = '<' then "&lt;".toList
  else if c = '>' then "&gt;".toList
  else if c = '"' then quotes.double
  else if c = '\'' then quotes.single
  else [c]

def escapeWith (quotes : QuoteEntities) (text : Text) : Text := text.flatMap (escapeChar quotes)

def escapeAttribute (text : Text) : Text := escapeWith inFragments text

/-- Escapes text that comes from outside, with its line ends unified. -/
def escape (text : Text) : Text := escapeAttribute (Text.unifyLineEnds text)

end Html

end ChatTranscript
