import ChatTranscript.Text.Quoted
import ChatTranscript.Text.Similarity
import ChatTranscript.Binary64.Layout

/-!
# Command line arguments

One argument, the source, and options before, between and after it. An option is spelled in full or,
for the output, in short. Everything after `--` is an argument.

## Main definitions

* `CommandLine.Setting`: the options.
* `CommandLine.Invocation`: what a command line asks for.
* `CommandLine.Invocation.ofArguments`: reads a command line, or says what is wrong with it.
-/

namespace ChatTranscript

namespace CommandLine

/-! ## options -/

inductive Setting where
  | myAvatar
  | output
  | title
  | hideAvatars
  | templatesUrl
  | mountId
  | openBrowser
  | debug
  deriving DecidableEq

def longNames : List (Text × Setting) := [
  ("--my-avatar".toList, .myAvatar),
  ("--output".toList, .output),
  ("--title".toList, .title),
  ("--hide-avatars".toList, .hideAvatars),
  ("--templates-url".toList, .templatesUrl),
  ("--mount-id".toList, .mountId),
  ("--open-browser".toList, .openBrowser),
  ("--debug".toList, .debug)]

def shortNames : List (Text × Setting) := [("-o".toList, .output)]

def Setting.takesValue : Setting → Bool
  | .hideAvatars | .openBrowser | .debug => false
  | _ => true

def named? (names : List (Text × Setting)) (name : Text) : Option Setting :=
  (names.find? (·.1 == name)).map (·.2)

/-! ## usage -/

inductive UsageFault where
  | noSuchOption (name : Text) (candidates : List Text)
  | needsValue (name : Text)
  | takesNoValue (name : Text)
  | missingSource
  | missingMyAvatar
  | extraArguments (arguments : List Text)

/-- All names in full; `--help` is answered before anything else. -/
def knownNames : List Text := longNames.map (·.1) ++ ["--help".toList]

def suggestion : List Text → Text
  | [] => []
  | [name] => " Did you mean ".toList ++ Text.quoted name ++ "?".toList
  | names =>
    " (Did you mean one of: ".toList ++
      List.intercalate ", ".toList ((names.mergeSort Text.le).map Text.quoted) ++ "?)".toList

def UsageFault.message : UsageFault → Text
  | .noSuchOption name candidates =>
    "No such option ".toList ++ Text.quoted name ++ ".".toList ++ suggestion candidates
  | .needsValue name => "Option ".toList ++ Text.quoted name ++ " requires an argument.".toList
  | .takesNoValue name =>
    "Option ".toList ++ Text.quoted name ++ " does not take a value.".toList
  | .missingSource => "Missing argument 'SOURCE'.".toList
  | .missingMyAvatar => "Missing option '--my-avatar'.".toList
  | .extraArguments arguments =>
    (match arguments with
      | [_] => "Got unexpected extra argument (".toList
      | _ => "Got unexpected extra arguments (".toList) ++
      List.intercalate [' '] arguments ++ ")".toList

/-! ## words -/

/-- What a word of the command line says by itself. -/
inductive Word where
  | argument (text : Text)
  | ending
  | flag (setting : Setting)
  | setTo (setting : Setting) (value : Text)
  | setToNext (setting : Setting) (name : Text)
  | wrong (fault : UsageFault)

/-- A name and the value attached to it, if there is one. -/
def splitValue (word : Text) : Text × Option Text :=
  match Text.spanWhile (· != '=') word with
  | (name, _ :: value) => (name, some value)
  | (name, []) => (name, none)

/-- A short option takes the rest of the word as its value. -/
def Word.ofShort (name rest : Text) : Word :=
  match named? shortNames name, rest with
  | some setting, [] => .setToNext setting name
  | some setting, rest => .setTo setting rest
  | none, _ => .wrong (.noSuchOption name [])

def Word.ofOption (word : Text) : Word :=
  let (name, value) := splitValue word
  match named? longNames name with
  | some setting =>
    match setting.takesValue, value with
    | true, some value => .setTo setting value
    | true, none => .setToNext setting name
    | false, none => .flag setting
    | false, some _ => .wrong (.takesNoValue name)
  | none =>
    match word with
    | '-' :: '-' :: _ => .wrong (.noSuchOption name (Text.closeMatches name knownNames))
    | dash :: letter :: rest => .ofShort [dash, letter] rest
    | word => .argument word

def Word.ofText : Text → Word
  | ['-', '-'] => .ending
  | '-' :: c :: rest => .ofOption ('-' :: c :: rest)
  | word => .argument word

/-! ## command lines -/

/-- Settings in order, and the arguments. -/
structure Given where
  settings : List (Setting × Text)
  arguments : List Text

def Given.set (setting : Setting) (value : Text) (given : Given) : Given :=
  { given with settings := (setting, value) :: given.settings }

def Given.ofWords : List Text → Except UsageFault Given
  | [] => .ok ⟨[], []⟩
  | word :: rest =>
    match Word.ofText word with
    | .ending => .ok ⟨[], rest⟩
    | .wrong fault => .error fault
    | .argument text =>
      (ofWords rest).map fun given => { given with arguments := text :: given.arguments }
    | .flag setting => (ofWords rest).map (Given.set setting [])
    | .setTo setting value => (ofWords rest).map (Given.set setting value)
    | .setToNext setting name =>
      match rest with
      | [] => .error (.needsValue name)
      | value :: rest => (ofWords rest).map (Given.set setting value)

/-- Of a repeated setting the last value counts. -/
def Given.get? (given : Given) (setting : Setting) : Option Text :=
  (given.settings.reverse.find? (·.1 = setting)).map (·.2)

structure Invocation where
  source : Text
  myAvatar : Text
  output : Option Text
  title : Option Text
  hideAvatars : Bool
  templatesUrl : Option Text
  mountId : Option Text

def Invocation.ofArguments (words : List Text) : Except UsageFault Invocation := do
  let given ← Given.ofWords words
  match given.arguments, given.get? .myAvatar with
  | [], _ => .error .missingSource
  | _, none => .error .missingMyAvatar
  | [source], some myAvatar =>
    return {
      source
      myAvatar
      output := given.get? .output
      title := given.get? .title
      hideAvatars := (given.get? .hideAvatars).isSome
      templatesUrl := given.get? .templatesUrl
      mountId := given.get? .mountId }
  | _ :: extra, some _ => .error (.extraArguments extra)

end CommandLine

end ChatTranscript
