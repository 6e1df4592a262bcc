import ChatTranscript.Url.Host
import ChatTranscript.Text.Quoted

/-!
# URL references

A reference is a scheme, an authority and a path, each possibly empty; a query and a fragment are
set aside. Control characters and blanks in front, and tabs and line ends anywhere, do not count.

## Main definitions

* `Url.split`: the parts of a reference, or what is wrong with its authority.
* `Url.isAbsolute`: a reference over HTTP that names a host.
-/

namespace ChatTranscript

namespace Url

/-- What can be wrong with an authority. -/
inductive Fault where
  | unbalancedBracket
  | futureAddress
  | notAddress (host : Text)
  | bracketedIPv4
  | deceptive (authority : Text)

def Fault.message : Fault → Text
  | .unbalancedBracket => "Invalid IPv6 URL".toList
  | .futureAddress => "IPvFuture address is invalid".toList
  | .notAddress host =>
    Text.quoted host ++ " does not appear to be an IPv4 or IPv6 address".toList
  | .bracketedIPv4 => "An IPv4 address cannot be in brackets".toList
  | .deceptive authority =>
    "netloc '".toList ++ authority ++
      "' contains invalid characters under NFKC normalization".toList

structure Parts where
  scheme : Text
  authority : Text
  path : Text

def isLetter (c : Char) : Bool := ('a' ≤ c && c ≤ 'z') || ('A' ≤ c && c ≤ 'Z')

def isSchemeChar (c : Char) : Bool :=
  isLetter c || ('0' ≤ c && c ≤ '9') || c = '+' || c = '-' || c = '.'

/-- The reference without what does not count. -/
def clean (url : Text) : Text :=
  (url.dropWhile fun c => c.toNat ≤ 0x20).filter fun c => c != '\t' && c != '\r' && c != '\n'

/-- The scheme in lower case and what follows its colon. -/
def splitScheme (url : Text) : Text × Text :=
  match Text.spanWhile isSchemeChar url with
  | (c :: cs, ':' :: rest) => if isLetter c then ((c :: cs).map Char.toLower, rest) else ([], url)
  | _ => ([], url)

/-- The host of a bracketed authority: brackets go round all of it, and a colon or nothing follows.
A host without brackets ends at a colon. -/
def bracketedHost (authority : Text) : Except Fault Text :=
  let server := (authority.reverse.takeWhile (· != '@')).reverse
  match Text.spanWhile (· != '[') server with
  | (before, _ :: inner) =>
    let after := (inner.dropWhile (· != ']')).drop 1
    if !before.isEmpty || after.head?.any (· != ':') then .error .unbalancedBracket
    else .ok (inner.takeWhile (· != ']'))
  | (_, []) => .ok (server.takeWhile (· != ':'))

def checkBracketedHost (host : Text) : Except Fault Unit :=
  if host.head? = some 'v' then
    if Host.isFutureAddress host then .ok () else .error .futureAddress
  else if Host.isIPv4 host then .error .bracketedIPv4
  else if Host.isIPv6 host then .ok ()
  else .error (.notAddress host)

/-- Brackets come in pairs, and an authority that holds them has an address for its host. -/
def checkBrackets (authority : Text) : Except Fault Unit :=
  match authority.contains '[', authority.contains ']' with
  | false, false => .ok ()
  | true, true => bracketedHost authority >>= checkBracketedHost
  | _, _ => .error .unbalancedBracket

def beforeQuery (rest : Text) : Text := (rest.takeWhile (· != '#')).takeWhile (· != '?')

def isAuthorityEnd (c : Char) : Bool := c = '/' || c = '?' || c = '#'

def split (url : Text) : Except Fault Parts :=
  let (scheme, rest) := splitScheme (clean url)
  match rest with
  | '/' :: '/' :: rest =>
    let (authority, rest) := Text.spanWhile (fun c => !isAuthorityEnd c) rest
    match checkBrackets authority with
    | .error fault => .error fault
    | .ok () =>
      if Host.isDeceptive authority then .error (.deceptive authority)
      else .ok ⟨scheme, authority, beforeQuery rest⟩
  | rest => .ok ⟨scheme, [], beforeQuery rest⟩

def isHttp (scheme : Text) : Bool := scheme == "http".toList || scheme == "https".toList

def isAbsolute (url : Text) : Bool :=
  match split url with
  | .ok parts => isHttp parts.scheme && !parts.authority.isEmpty
  | .error _ => false

/-- The reference is read over the network. -/
def isRemote (url : Text) : Except Fault Bool := (split url).map fun parts => isHttp parts.scheme

end Url

end ChatTranscript
