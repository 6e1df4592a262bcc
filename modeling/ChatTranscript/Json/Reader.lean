import ChatTranscript.Json.Basic
import ChatTranscript.Text.Hex
import ChatTranscript.Binary64.Layout

/-!
# Reading JSON text

The grammar of JSON, with `NaN` and the two infinities as numbers. A number with a fraction or an
exponent is a floating-point value; any other has at most 4300 digits. A fault carries its place.

## Main definitions

* `Json.Malformed`: a syntax fault and where it is.
* `Json.read`: the value of a text.
-/

namespace ChatTranscript

namespace Json

/-! ## faults -/

inductive Reason where
  | byteOrderMark
  | value
  | propertyName
  | colon
  | comma
  | extraData
  | unterminatedString
  | controlCharacter
  | escape
  | unicodeEscape
  deriving DecidableEq

def Reason.message : Reason → Text
  | .byteOrderMark => "Unexpected UTF-8 BOM (decode using utf-8-sig)".toList
  | .value => "Expecting value".toList
  | .propertyName => "Expecting property name enclosed in double quotes".toList
  | .colon => "Expecting ':' delimiter".toList
  | .comma => "Expecting ',' delimiter".toList
  | .extraData => "Extra data".toList
  | .unterminatedString => "Unterminated string starting at".toList
  | .controlCharacter => "Invalid control character at".toList
  | .escape => "Invalid \\escape".toList
  | .unicodeEscape => "Invalid \\uXXXX escape".toList

/-- Why reading stopped, with the count of characters left at the faulty place. -/
inductive Stop where
  | malformed (reason : Reason) (left : Nat)
  | tooManyDigits (count : Nat)

/-- A fault with its offset, and its line and column counted from 1. -/
structure Malformed where
  reason : Reason
  offset : Nat
  line : Nat
  column : Nat

inductive ReadError where
  | malformed (fault : Malformed)
  | tooManyDigits (count : Nat)

/-! ## numbers -/

def maxDigits : Nat := 4300

def isAsciiDigit (c : Char) : Bool := '0' ≤ c && c ≤ '9'

/-- The parts of a number: the digits before and after the point and after the `e`. -/
structure NumberToken where
  negative : Bool
  whole : Text
  fraction : Text
  exponent : Option Int

/-- A point must be followed by a digit, else it is not part of the number. -/
def readFraction : Text → Text × Text
  | '.' :: rest =>
    match Text.spanWhile isAsciiDigit rest with
    | ([], _) => ([], '.' :: rest)
    | (digits, after) => (digits, after)
  | text => ([], text)

def readExponentDigits (negative : Bool) (text : Text) : Option (Int × Text) :=
  match Text.spanWhile isAsciiDigit text with
  | ([], _) => none
  | (digits, after) =>
    let n : Int := Nat.ofDigitChars 10 digits 0
    some (if negative then -n else n, after)

/-- Without a digit the `e` is not part of the number. -/
def readExponent : Text → Option (Int × Text)
  | 'e' :: '-' :: rest | 'E' :: '-' :: rest => readExponentDigits true rest
  | 'e' :: '+' :: rest | 'E' :: '+' :: rest => readExponentDigits false rest
  | 'e' :: rest | 'E' :: rest => readExponentDigits false rest
  | _ => none

def readWhole : Text → Option (Text × Text)
  | '0' :: rest => some (['0'], rest)
  | text =>
    match Text.spanWhile isAsciiDigit text with
    | ([], _) => none
    | (digits, after) => some (digits, after)

def readUnsigned (negative : Bool) (text : Text) : Option (NumberToken × Text) :=
  (readWhole text).map fun (whole, rest) =>
    let (fraction, rest) := readFraction rest
    match readExponent rest with
    | some (exponent, rest) => (⟨negative, whole, fraction, some exponent⟩, rest)
    | none => (⟨negative, whole, fraction, none⟩, rest)

def readNumber? : Text → Option (NumberToken × Text)
  | '-' :: rest => readUnsigned true rest
  | text => readUnsigned false text

def NumberToken.value (token : NumberToken) : Except Stop Json :=
  if token.fraction.isEmpty && token.exponent.isNone then
    if maxDigits < token.whole.length then .error (.tooManyDigits token.whole.length)
    else
      let n : Int := Nat.ofDigitChars 10 token.whole 0
      .ok (.int (if token.negative then -n else n))
  else
    let digits := Nat.ofDigitChars 10 (token.whole ++ token.fraction) 0
    let exponent := token.exponent.getD 0 - token.fraction.length
    .ok (.float (.ofDecimal token.negative digits exponent))

/-! ## strings -/

def simpleEscape? : Char → Option Char
  | '"' => some '"'
  | '\\' => some '\\'
  | '/' => some '/'
  | 'b' => some '\x08'
  | 'f' => some '\x0c'
  | 'n' => some '\n'
  | 'r' => some '\r'
  | 't' => some '\t'
  | _ => none

/-- The number that four hexadecimal digits spell. -/
def hexUnit? (a b c d : Char) : Option Nat := do
  let a ← Hex.value? a
  let b ← Hex.value? b
  let c ← Hex.value? c
  let d ← Hex.value? d
  return ((a * 16 + b) * 16 + c) * 16 + d

def isHighSurrogate (unit : Nat) : Bool := 0xD800 ≤ unit && unit < 0xDC00

def isLowSurrogate (unit : Nat) : Bool := 0xDC00 ≤ unit && unit < 0xE000

/-- The code point of a unit; a lone surrogate has none. -/
def unitChar (unit : Nat) : Char :=
  if 0xD800 ≤ unit && unit < 0xE000 then '\ufffd' else Char.ofNat unit

def pairChar (high low : Nat) : Char :=
  Char.ofNat (0x10000 + (high - 0xD800) * 0x400 + (low - 0xDC00))

/-- Reads up to the closing quote. `start` counts the characters left at the opening quote. -/
def readString (start : Nat) : Text → Except Stop (Text × Text)
  | [] => .error (.malformed .unterminatedString start)
  | '"' :: rest => .ok ([], rest)
  | '\\' :: rest =>
    match rest with
    | [] => .error (.malformed .unterminatedString start)
    | 'u' :: a :: b :: c :: d :: next :: more =>
      match hexUnit? a b c d with
      | none => .error (.malformed .unicodeEscape rest.length)
      | some unit =>
        let alone := (readString start (next :: more)).map fun (text, after) =>
          (unitChar unit :: text, after)
        if isHighSurrogate unit then
          match next, more with
          | '\\', 'u' :: e :: f :: g :: h :: last :: others =>
            match hexUnit? e f g h with
            | none => .error (.malformed .unicodeEscape more.length)
            | some low =>
              if isLowSurrogate low then
                (readString start (last :: others)).map fun (text, after) =>
                  (pairChar unit low :: text, after)
              else alone
          | _, _ => alone
        else alone
    | 'u' :: _ => .error (.malformed .unicodeEscape rest.length)
    | c :: more =>
      match simpleEscape? c with
      | some image => (readString start more).map fun (text, after) => (image :: text, after)
      | none => .error (.malformed .escape (rest.length + 1))
  | c :: rest =>
    if c.toNat < 0x20 then .error (.malformed .controlCharacter (rest.length + 1))
    else (readString start rest).map fun (text, after) => (c :: text, after)

/-! ## values -/

def isLayout (c : Char) : Bool := c = ' ' || c = '\t' || c = '\n' || c = '\r'

def skipLayout (text : Text) : Text := text.dropWhile isLayout

def words : List (Text × Json) :=
  [("null".toList, .null), ("true".toList, .bool true), ("false".toList, .bool false),
    ("NaN".toList, .float .nan), ("Infinity".toList, .float (.infinity false)),
    ("-Infinity".toList, .float (.infinity true))]

/-- A value that is one word or one number. -/
def readAtom (text : Text) : Except Stop (Json × Text) :=
  match words.findSome? fun (word, value) => (word.isPrefixOf? text).map (value, ·) with
  | some found => .ok found
  | none =>
    match readNumber? text with
    | some (token, rest) => token.value.map (·, rest)
    | none => .error (.malformed .value text.length)

def readKey : Text → Except Stop (Text × Text)
  | '"' :: rest => readString (rest.length + 1) rest
  | text => .error (.malformed .propertyName text.length)

def readColon : Text → Except Stop Text
  | ':' :: rest => .ok (skipLayout rest)
  | text => .error (.malformed .colon text.length)

mutual

/-- Reads one value. The first argument bounds the calls; twice the length is enough. -/
def readValue : Nat → Text → Except Stop (Json × Text)
  | 0, text => .error (.malformed .value text.length)
  | fuel + 1, text =>
    match text with
    | '"' :: rest => (readString text.length rest).map fun (s, after) => (.str s, after)
    | '[' :: rest =>
      match skipLayout rest with
      | ']' :: after => .ok (.arr [], after)
      | items => (readItems fuel items).map fun (items, after) => (.arr items, after)
    | '{' :: rest =>
      match skipLayout rest with
      | '}' :: after => .ok (.obj [], after)
      | pairs =>
        (readPairs fuel pairs).map fun (pairs, after) => (.obj (Fields.ofPairs pairs), after)
    | _ => readAtom text

/-- Reads the values of an array up to its end. -/
def readItems : Nat → Text → Except Stop (List Json × Text)
  | 0, text => .error (.malformed .value text.length)
  | fuel + 1, text => do
    let (item, rest) ← readValue fuel text
    match skipLayout rest with
    | ']' :: after => return ([item], after)
    | ',' :: more => do
      let (items, after) ← readItems fuel (skipLayout more)
      return (item :: items, after)
    | rest => .error (.malformed .comma rest.length)

/-- Reads the pairs of an object up to its end. -/
def readPairs : Nat → Text → Except Stop (List (Text × Json) × Text)
  | 0, text => .error (.malformed .propertyName text.length)
  | fuel + 1, text => do
    let (key, rest) ← readKey text
    let rest ← readColon (skipLayout rest)
    let (value, rest) ← readValue fuel rest
    match skipLayout rest with
    | '}' :: after => return ([(key, value)], after)
    | ',' :: more => do
      let (pairs, after) ← readPairs fuel (skipLayout more)
      return ((key, value) :: pairs, after)
    | rest => .error (.malformed .comma rest.length)

end

/-! ## texts -/

/-- A value with blanks around it and nothing else. -/
def readAll (text : Text) : Except Stop Json := do
  if text.head? = some '\ufeff' then .error (.malformed .byteOrderMark text.length)
  let (value, rest) ← readValue (2 * text.length + 2) (skipLayout text)
  match skipLayout rest with
  | [] => return value
  | rest => .error (.malformed .extraData rest.length)

def Malformed.locate (text : Text) (reason : Reason) (left : Nat) : Malformed :=
  let offset := text.length - left
  let before := text.take offset
  let column := (before.reverse.takeWhile (· != '\n')).length + 1
  ⟨reason, offset, before.count '\n' + 1, column⟩

def read (text : Text) : Except ReadError Json :=
  match readAll text with
  | .ok value => .ok value
  | .error (.malformed reason left) => .error (.malformed (.locate text reason left))
  | .error (.tooManyDigits count) => .error (.tooManyDigits count)

def Malformed.message (fault : Malformed) : Text :=
  fault.reason.message ++ ": line ".toList ++ Text.ofNat fault.line ++ " column ".toList ++
    Text.ofNat fault.column ++ " (char ".toList ++ Text.ofNat fault.offset ++ ")".toList

end Json

end ChatTranscript
