import ChatTranscript.Url.Reference
import ChatTranscript.Text.Charset
import ChatTranscript.Text.PercentEncoding
import ChatTranscript.Text.Blank
import ChatTranscript.Text.Digit
import ChatTranscript.Text.LowerCase
import ChatTranscript.Binary64.Layout
import ChatTranscript.DomainName.Encoding

/-!
# URLs of requests

A URL is brought into one form before it is requested: scheme and host in lower case, no
socket number that is the usual one, no dot segments, and escapes for what may not stand for itself.

## Main definitions

* `Url.Address.of`: the parts of a URL in that form, or what is wrong with it.
* `Url.request`: what is asked for; a URL that names no server is cut down to its path and query.
* `Url.obstacle?`: why a request cannot be put together although its URL is sound.
-/

namespace ChatTranscript

namespace Url

/-- What can be wrong with the URL of a request. -/
inductive RequestFault where
  | tooLong
  | pathTooLong
  | queryTooLong
  | notPrintable (c : Char) (position : Nat)
  | invalidSocket (number : Text)
  | invalidIPv4 (host : Text)
  | invalidIPv6 (host : Text)
  | invalidDomain (host : Text)

def RequestFault.message : RequestFault → Text
  | .tooLong => "URL too long".toList
  | .pathTooLong => "URL component 'path' too long".toList
  | .queryTooLong => "URL component 'query' too long".toList
  | .notPrintable c position =>
    "Invalid non-printable ASCII character in URL, ".toList ++ Text.quoted [c] ++
      " at position ".toList ++ Text.ofNat position ++ ".".toList
  | .invalidSocket number => "Invalid port: ".toList ++ Text.quoted number
  | .invalidIPv4 host => "Invalid IPv4 address: ".toList ++ Text.quoted host
  | .invalidIPv6 host => "Invalid IPv6 address: ".toList ++ Text.quoted host
  | .invalidDomain host => "Invalid IDNA hostname: ".toList ++ Text.quoted host

def maxLength : Nat := 65536

/-! ## escapes -/

def keepsInPath (c : Char) : Bool :=
  0x20 < c.toNat && c.toNat < 0x7F && !"\"#<>?\x60\x7b\x7d".toList.contains c

def keepsInQuery (c : Char) : Bool :=
  0x20 < c.toNat && c.toNat < 0x7F && !"\"#<>".toList.contains c

def keepsInFragment (c : Char) : Bool :=
  0x20 < c.toNat && c.toNat < 0x7F && !"\"<>\x60".toList.contains c

def keepsInUser (c : Char) : Bool :=
  keepsInPath c && !"/;=@[\\]^|".toList.contains c

def keepsInHost (c : Char) : Bool :=
  (keepsInUser c && c != ':') || ";=\"\x60\x7b\x7d|\\".toList.contains c

def escape (keeps : Char → Bool) (text : Text) : Text :=
  text.flatMap fun c =>
    if keeps c then [c] else (String.utf8EncodeChar c).flatMap PercentEncoding.escapeByte

/-! ## socket numbers -/

/-- Digits with single underscores between them. -/
def areDigits : Text → Bool
  | [] => false
  | [d] => Text.isDecimalDigit d
  | d :: '_' :: rest => Text.isDecimalDigit d && areDigits rest
  | d :: rest => Text.isDecimalDigit d && areDigits rest

def maxDigits : Nat := 4300

def integer? (number : Text) : Option Int :=
  let (negative, digits) : Bool × Text :=
    match Text.strip number with
    | '-' :: digits => (true, digits)
    | '+' :: digits => (false, digits)
    | digits => (false, digits)
  let plain := digits.filter (· != '_')
  if areDigits digits && plain.length ≤ maxDigits then
    let n : Int := Text.natOfDigits plain
    some (if negative then -n else n)
  else none

/-- The socket number that goes without saying. A scheme in capitals has none. -/
def usualSocket? (scheme : Text) : Option Int :=
  if scheme == "http".toList then some 80
  else if scheme == "https".toList then some 443
  else none

def readSocket (scheme number : Text) : Except RequestFault (Option Int) :=
  if number.isEmpty then .ok none
  else
    match integer? number with
    | none => .error (.invalidSocket number)
    | some n => .ok (if usualSocket? scheme = some n then none else some n)

/-! ## hosts -/

def isAsciiDigit (c : Char) : Bool := '0' ≤ c && c ≤ '9'

/-- Four runs of digits with points between them. -/
def looksLikeIPv4 (host : Text) : Bool :=
  let parts := host.splitOn '.'
  parts.length = 4 && parts.all fun part => !part.isEmpty && part.all isAsciiDigit

/-- The host without its brackets. -/
def readHost (host : Text) : Except RequestFault Text :=
  if looksLikeIPv4 host then
    if Host.isIPv4 host then .ok host else .error (.invalidIPv4 host)
  else if host.head? = some '[' && host.getLast? = some ']' then
    let address := (host.drop 1).dropLast
    if Host.isIPv6 address then .ok address else .error (.invalidIPv6 host)
  else if DomainName.isAscii host then .ok (escape keepsInHost (host.map Char.toLower))
  else (DomainName.encode (Text.lower host)).mapError fun _ => .invalidDomain host

/-! ## addresses -/

/-- The parts of a URL as they are requested. -/
structure Address where
  scheme : Text
  user : Text
  host : Text
  socket : Option Int
  path : Text
  query : Option Text
  fragment : Option Text

/-- The user part, the host and the socket number of an authority. -/
def splitAuthority (authority : Text) : Text × Text × Text :=
  let (user, server) := (Text.cutLast? '@' authority).getD ([], authority)
  let bracketed :=
    match server with
    | '[' :: _ => Text.cutLast? ']' server
    | _ => none
  let (host, rest) :=
    match bracketed with
    | some (host, rest) => (host ++ [']'], rest)
    | none => Text.spanWhile (· != ':') server
  (user, host, if rest.head? = some ':' then rest.drop 1 else rest)

/-- A double dot takes back the segment before it, unless only the root is left. `done` holds the
segments so far, the latest first. -/
def walkSegments (done : List Text) : List Text → List Text
  | [] => done.reverse
  | segment :: rest =>
    if segment == ['.'] then walkSegments done rest
    else if segment == ['.', '.'] then
      walkSegments (if done == [[]] then done else done.drop 1) rest
    else walkSegments (segment :: done) rest

def dropDotSegments (path : Text) : Text :=
  List.intercalate ['/'] (walkSegments [] (path.splitOn '/'))

/-- The text up to a mark, and the text after the mark if it is there. -/
def splitAt (mark : Char) (text : Text) : Text × Option Text :=
  match Text.spanWhile (· != mark) text with
  | (before, _ :: after) => (before, some after)
  | (before, []) => (before, none)

/-- The scheme as it is written, the authority, and what follows them. -/
def splitFront (url : Text) : Text × Text × Text :=
  let (scheme, rest) :=
    match Text.spanWhile isSchemeChar url with
    | (c :: cs, ':' :: rest) => if isLetter c then (c :: cs, rest) else ([], url)
    | _ => ([], url)
  match rest with
  | '/' :: '/' :: rest => (scheme, Text.spanWhile (fun c => !isAuthorityEnd c) rest)
  | _ => (scheme, [], rest)

def isControl (c : Char) : Bool := c.toNat < 0x20 || c.toNat = 0x7F

namespace Address

/-- Dot segments stay only in a URL that is a path and no more. -/
def of (url : Text) : Except RequestFault Address := do
  if maxLength < url.length then .error .tooLong
  match Text.spanWhile (fun c => !isControl c) url with
  | (before, c :: _) => .error (.notPrintable c before.length)
  | (_, []) =>
    let (scheme, authority, rest) := splitFront url
    let (user, host, number) := splitAuthority authority
    let host ← readHost host
    let socket ← readSocket scheme number
    let (rest, fragment) := splitAt '#' rest
    let (path, query) := splitAt '?' rest
    let isBare := scheme.isEmpty && user.isEmpty && host.isEmpty && socket.isNone
    let path := if isBare then path else dropDotSegments path
    return ⟨scheme.map Char.toLower, escape keepsInUser user, host, socket,
      escape keepsInPath path, query.map (escape keepsInQuery),
      fragment.map (escape keepsInFragment)⟩

/-- The host, in brackets if it holds a colon, and the socket number. -/
def server (address : Address) : Text :=
  (if address.host.contains ':' then '[' :: address.host ++ [']'] else address.host) ++
    (match address.socket with
      | some n => ':' :: Text.ofInt n
      | none => [])

def writeQuery (address : Address) : Text :=
  match address.query with
  | some query => '?' :: query
  | none => []

def write (address : Address) : Text :=
  address.scheme ++ "://".toList ++
    (if address.user.isEmpty then [] else address.user ++ ['@']) ++ address.server ++
    address.path ++ address.writeQuery ++
    (match address.fragment with
      | some fragment => '#' :: fragment
      | none => [])

def namesServer (address : Address) : Bool := !address.scheme.isEmpty && !address.host.isEmpty

end Address

/-! ## requests -/

/-- What is asked for. -/
inductive Request where
  | ofServer (address : Address)
  | ofPath (path : Text)

def Request.url : Request → Text
  | .ofServer address => address.write
  | .ofPath path => path

/-- A URL that names no server is cut down to its path and query, with one slash in front. -/
def request (url : Text) : Except RequestFault Request := do
  let address ← Address.of url
  if address.namesServer then return .ofServer address
  let path := '/' :: address.path.dropWhile (· = '/')
  if maxLength < path.length then .error .pathTooLong
  else if address.query.any fun query => maxLength < query.length then .error .queryTooLong
  else return .ofPath (path ++ address.writeQuery)

/-! ## obstacles -/

/-- What stands in the way of a request whose URL is sound. -/
inductive Obstacle where
  | domain (fault : DomainName.Fault)
  | charset (gap : Charset.Gap)
  | noScheme (url : Text)

/-- A host that is encoded already has to decode, and the name of the server is sent in ASCII. -/
def obstacle? : Request → Option Obstacle
  | .ofPath _ => none
  | .ofServer address =>
    match if DomainName.isEncoded address.host then DomainName.decode address.host else .ok [] with
    | .error fault => some (.domain fault)
    | .ok _ => (Charset.ascii.lacks? address.server).map .charset

/-- An answer is only taken in for a URL with a scheme. -/
def answerObstacle? : Request → Option Obstacle
  | .ofServer _ => none
  | .ofPath path => some (.noScheme path)

end Url

end ChatTranscript
