import ChatTranscript.Fault
import ChatTranscript.Text.Blank
import ChatTranscript.Text.LowerCase

/-!
# Card variants

The app that sent a card and the view it asks for decide which template shows it.

## Main definitions

* `Card.Variant`, `Card.classify`: the variants and the choice among them.
* `Card.templatePath`: where the template of a variant lies.
-/

namespace ChatTranscript

namespace Card

inductive Variant where
  | news
  | chatRecord
  | miniProgram
  | channel
  | social
  | default
  deriving DecidableEq

def Variant.name : Variant → Text
  | .news => "news".toList
  | .chatRecord => "chat_record".toList
  | .miniProgram => "mini_program".toList
  | .channel => "channel".toList
  | .social => "social".toList
  | .default => "default".toList

def variants : List Variant :=
  [.news, .chatRecord, .miniProgram, .channel, .social, .default]

def Variant.named (name : Text) : Except Fault Variant :=
  match variants.find? (·.name == name) with
  | some variant => .ok variant
  | none => .error (.unknownVariant name)

/-! ## classification -/

/-- A variant is chosen if a marker occurs in the app and the view is as required. -/
structure Rule where
  variant : Variant
  markers : List Text
  view : Option Text

/-- The first rule that applies decides. -/
def rules : List Rule := [
  ⟨.news, ["tuwen".toList], some "news".toList⟩,
  ⟨.chatRecord, ["multimsg".toList], some "contact".toList⟩,
  ⟨.miniProgram, ["miniprogram".toList, "app".toList], none⟩,
  ⟨.channel, ["guild".toList, "channel".toList], none⟩,
  ⟨.social, ["contact".toList, "social".toList], none⟩]

/-- The app is given in lower case. -/
def Rule.applies (rule : Rule) (app view : Text) : Bool :=
  (match rule.view with
    | some required => view == required
    | none => true) &&
  rule.markers.any fun marker => Text.has marker app

def classify (app view : Text) : Variant :=
  match rules.find? (·.applies (Text.lower app) view) with
  | some rule => rule.variant
  | none => .default

/-! ## template paths -/

/-- The directory of an app. -/
def namespaceOf (app : Text) : Text :=
  match Text.lower (Text.strip app) with
  | [] => "default".toList
  | name => name

def templatePath (base app : Text) (variant : Variant) : Text :=
  Text.trimEnd (· = '/') base ++ "/".toList ++ namespaceOf app ++ "/".toList ++ variant.name ++
    ".html".toList

end Card

end ChatTranscript
