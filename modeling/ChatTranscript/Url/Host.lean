import ChatTranscript.Text.Basic
import ChatTranscript.Text.Hex
import ChatTranscript.Text.CharRanges

/-!
# Hosts in a URL

A host in brackets is an IPv6 address, with an optional zone, or an address of a future version. A
host beyond ASCII must not hold characters that fold to the delimiters of a URL.
-/

namespace ChatTranscript

namespace Host

/-! ## addresses -/

def isDecimalByte (text : Text) : Bool :=
  !text.isEmpty && text.all (fun c => '0' ≤ c && c ≤ '9') && text.length ≤ 3 &&
    (text == ['0'] || text.head? != some '0') && Nat.ofDigitChars 10 text 0 ≤ 255

def isIPv4 (text : Text) : Bool :=
  let parts := text.splitOn '.'
  parts.length = 4 && parts.all isDecimalByte

def isHexGroup (text : Text) : Bool :=
  !text.isEmpty && text.length ≤ 4 && text.all fun c => (Hex.value? c).isSome

/-- The groups of an address, with an IPv4 ending counted as two; none if that ending is faulty. -/
def groups? (text : Text) : Option (List Text) :=
  let parts := text.splitOn ':'
  match parts.getLast? with
  | some last =>
    if last.contains '.' then
      if isIPv4 last then some (parts.dropLast ++ [['0'], ['0']]) else none
    else some parts
  | none => none

/-- The places of empty groups other than the first and the last. -/
def innerGaps (groups : List Text) : List Nat :=
  (List.range groups.length).filter fun i =>
    0 < i && i + 1 < groups.length && (groups.getD i []).isEmpty

/-- Eight groups, or fewer with one gap. At either end an empty group belongs to the gap. -/
def areGroups (groups : List Text) : Bool :=
  groups.length ≤ 9 &&
    match innerGaps groups with
    | [] => groups.length = 8 && groups.all isHexGroup
    | [gap] =>
      let before := groups.take gap
      let after := groups.drop (gap + 1)
      let before := if before == [[]] then [] else before
      let after := if after == [[]] then [] else after
      before.all isHexGroup && after.all isHexGroup && before.length + after.length ≤ 7
    | _ => false

def isIPv6 (text : Text) : Bool :=
  let address := text.takeWhile (· != '%')
  let zone := text.dropWhile (· != '%')
  (zone.isEmpty || (2 ≤ zone.length && !(zone.drop 1).contains '%')) &&
    2 ≤ address.count ':' &&
    match groups? address with
    | some groups => areGroups groups
    | none => false

/-- `v`, hexadecimal digits, a point and at least one more character. -/
def isFutureAddress : Text → Bool
  | 'v' :: rest =>
    let digits := rest.takeWhile fun c => (Hex.value? c).isSome
    match rest.dropWhile fun c => (Hex.value? c).isSome with
    | '.' :: tail => !digits.isEmpty && !tail.isEmpty && !tail.contains '\n'
    | _ => false
  | _ => false

/-! ## characters that fold to delimiters -/

/-- Characters whose compatibility form holds one of `/ ? # @ :`. -/
def foldsToDelimiter : CharRanges :=
  [(0x2047, 0x2049), (0x2100, 0x2101), (0x2105, 0x2106), (0x2A74, 0x2A74), (0xFE13, 0xFE13),
    (0xFE16, 0xFE16), (0xFE55, 0xFE56), (0xFE5F, 0xFE5F), (0xFE6B, 0xFE6B), (0xFF03, 0xFF03),
    (0xFF0F, 0xFF0F), (0xFF1A, 0xFF1A), (0xFF1F, 0xFF20)]

def isDeceptive (authority : Text) : Bool := authority.any foldsToDelimiter.contains

end Host

end ChatTranscript
