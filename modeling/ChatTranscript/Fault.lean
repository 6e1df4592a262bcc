import ChatTranscript.Json.Reader
import ChatTranscript.Json.Writer
import ChatTranscript.Validation
import ChatTranscript.Files.Disk
import ChatTranscript.Text.Charset

/-!
# What can go wrong

Faults are told apart by their cause; the wording is in one place for each.

## Main definitions

* `FetchFailure`: why a resource could not be loaded. It is recovered for templates.
* `LoadFailure`: why there is no transcript to render.
* `CardRejection`: why a card's content is not a card.
* `Fault`: everything that can leave an operation; `Fault.raised` stands for what a fetcher, a
  client or standard output may raise on its own account.
-/

namespace ChatTranscript

/-! ## resources -/

inductive FetchFailure where
  | status (code : Nat)
  | transport (kind message : Text)
  | malformedUrl (message : Text)
  | disk (fault : Disk.Fault)
  | notUtf8 (fault : Utf8.Fault)

def Utf8.Reason.message : Utf8.Reason → Text
  | .start => "invalid start byte".toList
  | .continuation => "invalid continuation byte".toList
  | .ending => "unexpected end of data".toList

def Utf8.Fault.message (fault : Utf8.Fault) : Text :=
  "'utf-8' codec can't decode byte".toList ++
    (if fault.width = 1 then
      " 0x".toList ++ Hex.lowerDigits 2 fault.byte.toNat ++ " in position ".toList ++
        Text.ofNat fault.position
    else
      "s in position ".toList ++ Text.ofNat fault.position ++ "-".toList ++
        Text.ofNat (fault.position + fault.width - 1)) ++
    ": ".toList ++ fault.reason.message

def FetchFailure.message : FetchFailure → Text
  | .status code => "HTTP ".toList ++ Text.ofNat code
  | .transport kind message => if message.isEmpty then kind else message
  | .malformedUrl message => message
  | .disk fault => fault.message
  | .notUtf8 fault => fault.message

/-! ## transcripts -/

inductive LoadFailure where
  | unavailable (source : Text) (failure : FetchFailure)
  | notJson (fault : Json.Malformed)
  | notArray (kind : Json.Kind)
  | notObject (index : Nat) (kind : Json.Kind)
  | invalidRecord (index : Nat) (rejection : Rejection)

def LoadFailure.message : LoadFailure → Text
  | .unavailable source failure =>
    "Failed to load chat data from ".toList ++ source ++ ": ".toList ++ failure.message
  | .notJson fault => "Transcript is not valid JSON: ".toList ++ fault.message
  | .notArray kind => "Transcript must be a JSON array, got ".toList ++ kind.name
  | .notObject index kind =>
    "Transcript record ".toList ++ Text.ofNat index ++ " must be an object, got ".toList ++
      kind.name
  | .invalidRecord index rejection =>
    "Invalid transcript record ".toList ++ Text.ofNat index ++ ": ".toList ++ rejection.message

/-! ## cards -/

inductive CardRejection where
  | notJson (reason : Json.Reason)
  | notObject (kind : Json.Kind)
  | invalidPayload (rejection : Rejection)

def CardRejection.message : CardRejection → Text
  | .notJson reason => "invalid JSON: ".toList ++ reason.message
  | .notObject kind => "expected a JSON object, got ".toList ++ kind.name
  | .invalidPayload rejection =>
    "invalid card payload (".toList ++ Text.ofNat rejection.issues.length ++ " errors)".toList

/-! ## all faults -/

inductive Fault where
  | load (failure : LoadFailure)
  | fetch (location : Text) (failure : FetchFailure)
  | card (rejection : CardRejection)
  | invalid (rejection : Rejection)
  | malformedJson (fault : Json.Malformed)
  | tooManyDigits (count : Nat)
  | address (fault : Url.Fault)
  | unencodable (gap : Charset.Gap)
  | notObject (kind : Json.Kind)
  | notKey (kind : Json.Kind)
  | unknownVariant (name : Text)
  | namelessPath (path : Text)
  | disk (fault : Disk.Fault)
  | raised (kind : Text) (details : List Json)

namespace Fault

/-- The name of a kind of fault, shown where a fault has no message. -/
def kind : Fault → Text
  | .load _ => "FatalLoadError".toList
  | .fetch _ _ => "FetchError".toList
  | .card _ => "RecoverableCardError".toList
  | .invalid _ => "ValidationError".toList
  | .malformedJson _ => "JSONDecodeError".toList
  | .tooManyDigits _ | .address _ | .unknownVariant _ | .namelessPath _ => "ValueError".toList
  | .unencodable _ => "UnicodeEncodeError".toList
  | .notObject _ => "AttributeError".toList
  | .notKey _ => "TypeError".toList
  | .disk (.refused .absent _) => "FileNotFoundError".toList
  | .disk (.refused .exists _) => "FileExistsError".toList
  | .disk (.refused .notDirectory _) => "NotADirectoryError".toList
  | .disk (.refused .isDirectory _) => "IsADirectoryError".toList
  | .disk (.refused .nameTooLong _) => "OSError".toList
  | .disk .nullByte => "ValueError".toList
  | .raised kind _ => kind

/-- The kinds of faults that come from the system. -/
def systemKinds : List Text :=
  ["OSError", "IOError", "EnvironmentError", "BlockingIOError", "ChildProcessError",
    "ConnectionError", "BrokenPipeError", "ConnectionAbortedError", "ConnectionRefusedError",
    "ConnectionResetError", "FileExistsError", "FileNotFoundError", "InterruptedError",
    "IsADirectoryError", "NotADirectoryError", "PermissionError", "ProcessLookupError",
    "TimeoutError"].map String.toList

/-- The files that a system fault concerns come third and fifth among its details. -/
def filesMessage : List Json → Text
  | [] | .null :: _ => []
  | [file] | [file, _] | [file, _, .null] => ": ".toList ++ file.literal
  | file :: _ :: second :: _ => ": ".toList ++ file.literal ++ " -> ".toList ++ second.literal

def systemMessage (number reason : Json) (files : List Json) : Text :=
  "[Errno ".toList ++ number.asText ++ "] ".toList ++ reason.asText ++ filesMessage files

/-- One detail stands alone, quoted if it is a missing key; several stand in parentheses, unless
they say where a system or a fetcher failed, and why. -/
def detailsMessage (kind : Text) : List Json → Text
  | [] => []
  | [detail] => if kind == "KeyError".toList then detail.literal else detail.asText
  | first :: second :: more =>
    if systemKinds.contains kind && more.length ≤ 3 then systemMessage first second more
    else if kind == "FetchError".toList && more.isEmpty then
      "Failed to load ".toList ++ first.asText ++ ": ".toList ++ second.asText
    else '(' :: Json.literalItems (first :: second :: more) ++ [')']

def message : Fault → Text
  | .load failure => failure.message
  | .fetch location failure =>
    "Failed to load ".toList ++ location ++ ": ".toList ++ failure.message
  | .card rejection => rejection.message
  | .invalid rejection => rejection.message
  | .malformedJson fault => fault.message
  | .tooManyDigits count =>
    "Exceeds the limit (4300 digits) for integer string conversion: value has ".toList ++
      Text.ofNat count ++
      " digits; use sys.set_int_max_str_digits() to increase the limit".toList
  | .address fault => fault.message
  | .unencodable gap => gap.message
  | .notObject kind => "'".toList ++ kind.name ++ "' object has no attribute 'get'".toList
  | .notKey kind => "unhashable type: '".toList ++ kind.name ++ "'".toList
  | .unknownVariant name => Text.quoted name ++ " is not a valid CardVariant".toList
  | .namelessPath path =>
    "PosixPath(".toList ++ Text.quoted path ++ ") has an empty name".toList
  | .disk fault => fault.message
  | .raised kind details => detailsMessage kind details

/-- The message, or the kind where the message is empty. -/
def description (fault : Fault) : Text :=
  if fault.message.isEmpty then fault.kind else fault.message

def ofReadError : Json.ReadError → Fault
  | .malformed fault => .malformedJson fault
  | .tooManyDigits count => .tooManyDigits count

end Fault

end ChatTranscript
