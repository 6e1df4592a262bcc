import ChatTranscript.Text.Basic

/-!
# UTF-8

Decoding walks over bytes and stops at the first byte that rules a character out. A faulty stretch
is what was good before that byte, so that decoding can go on right after it.

## Main definitions

* `Utf8.encode`: the bytes of a text.
* `Utf8.decode`: the text of some bytes, or the first fault with its place.
* `Utf8.decodeLossy`: the same with U+FFFD for every faulty stretch.
-/

namespace ChatTranscript

namespace Utf8

def encode (text : Text) : List UInt8 := text.flatMap String.utf8EncodeChar

/-! ## one character -/

inductive Reason where
  | start
  | continuation
  | ending

/-- What a first byte promises: how many bytes follow, its own bits, and the range of the next. -/
structure Lead where
  following : Nat
  bits : Nat
  low : Nat
  high : Nat

def lead? (byte : Nat) : Option Lead :=
  if byte < 0x80 then some ⟨0, byte, 0x80, 0xBF⟩
  else if byte < 0xC2 then none
  else if byte < 0xE0 then some ⟨1, byte % 0x20, 0x80, 0xBF⟩
  else if byte = 0xE0 then some ⟨2, byte % 0x10, 0xA0, 0xBF⟩
  else if byte = 0xED then some ⟨2, byte % 0x10, 0x80, 0x9F⟩
  else if byte < 0xF0 then some ⟨2, byte % 0x10, 0x80, 0xBF⟩
  else if byte = 0xF0 then some ⟨3, byte % 0x08, 0x90, 0xBF⟩
  else if byte < 0xF4 then some ⟨3, byte % 0x08, 0x80, 0xBF⟩
  else if byte = 0xF4 then some ⟨3, byte % 0x08, 0x80, 0x8F⟩
  else none

/-- A character or a fault, with the count of bytes it takes. -/
structure Step where
  outcome : Except Reason Char
  width : Nat

/-- Reads the bytes that a first byte promised; `width` counts the bytes read so far. -/
def continueWith (low high bits width : Nat) : Nat → List UInt8 → Step
  | 0, _ => ⟨.ok (Char.ofNat bits), width⟩
  | _ + 1, [] => ⟨.error .ending, width⟩
  | following + 1, byte :: bytes =>
    if low ≤ byte.toNat ∧ byte.toNat ≤ high then
      continueWith 0x80 0xBF (bits * 0x40 + byte.toNat % 0x40) (width + 1) following bytes
    else ⟨.error .continuation, width⟩

def step (byte : UInt8) (bytes : List UInt8) : Step :=
  match lead? byte.toNat with
  | none => ⟨.error .start, 1⟩
  | some lead => continueWith lead.low lead.high lead.bits 1 lead.following bytes

/-! ## texts -/

/-- The steps over some bytes, after `skip` of them. -/
def stepsFrom : Nat → List UInt8 → List Step
  | _, [] => []
  | skip + 1, _ :: bytes => stepsFrom skip bytes
  | 0, byte :: bytes => step byte bytes :: stepsFrom ((step byte bytes).width - 1) bytes

structure Fault where
  reason : Reason
  position : Nat
  width : Nat
  byte : UInt8

def decodeFrom (all : List UInt8) (position : Nat) : List Step → Except Fault Text
  | [] => .ok []
  | ⟨.ok c, width⟩ :: steps => (decodeFrom all (position + width) steps).map (c :: ·)
  | ⟨.error reason, width⟩ :: _ => .error ⟨reason, position, width, all.getD position 0⟩

def decode (bytes : List UInt8) : Except Fault Text :=
  decodeFrom bytes 0 (stepsFrom 0 bytes)

def decodeLossy (bytes : List UInt8) : Text :=
  (stepsFrom 0 bytes).map fun step =>
    match step.outcome with
    | .ok c => c
    | .error _ => '\ufffd'

end Utf8

end ChatTranscript
