/-
UTF-8.

`decode` either gives the characters or says which bytes are at fault and why.  A byte that
cannot start a character is at fault alone.  Bytes that start one but are not continued as
they should be are at fault together, up to where the well-formed beginning ends, and so
are bytes that start one which the input breaks off.  In the other direction only halves
of surrogate pairs are at fault: they have no bytes.
-/
import ZonePlan.Text.Quoted

namespace ZonePlan.Text

/-- Why bytes are not UTF-8. -/
inductive Utf8Cause where
  | invalidStart
  | invalidContinuation
  | unexpectedEnd
deriving DecidableEq, Repr

/-- A run of bytes at fault: the offset of the first, how many there are, and the first one. -/
structure Utf8Fault where
  cause : Utf8Cause
  offset : Nat
  count : Nat
  byte : Nat
deriving DecidableEq, Repr

namespace Utf8

/-- How a character goes on after its first byte: how many bytes follow, the bits that the
first one contributes, and the range of the second. -/
def lead (b : Nat) : Option (Nat × Nat × Nat × Nat) :=
  if b < 0x80 then some (0, b, 0x80, 0xbf)
  else if b < 0xc2 then none
  else if b < 0xe0 then some (1, b - 0xc0, 0x80, 0xbf)
  else if b = 0xe0 then some (2, 0, 0xa0, 0xbf)
  else if b = 0xed then some (2, 0xd, 0x80, 0x9f)
  else if b < 0xf0 then some (2, b - 0xe0, 0x80, 0xbf)
  else if b = 0xf0 then some (3, 0, 0x90, 0xbf)
  else if b < 0xf4 then some (3, b - 0xf0, 0x80, 0xbf)
  else if b = 0xf4 then some (3, 4, 0x80, 0x8f)
  else none

/-- Reads the bytes that continue a character: `owed` of them, the next one within a range.
Gives the code point, or the cause and the number of bytes that were read well. -/
def continuation : (owed value low high : Nat) → List Nat → Except (Utf8Cause × Nat) Nat
  | 0, value, _, _, _ => .ok value
  | _ + 1, _, _, _, [] => .error (.unexpectedEnd, 0)
  | owed + 1, value, low, high, b :: rest =>
    if low ≤ b ∧ b ≤ high then
      match continuation owed (value * 64 + (b - 0x80)) 0x80 0xbf rest with
      | .ok v => .ok v
      | .error (cause, count) => .error (cause, count + 1)
    else .error (.invalidContinuation, 0)

/-- Decodes from an offset on; `skip` counts the bytes that the last character still covers. -/
def decodeFrom : (offset skip : Nat) → List Nat → Except Utf8Fault (List Char)
  | _, _, [] => .ok []
  | offset, skip + 1, _ :: rest => decodeFrom (offset + 1) skip rest
  | offset, 0, b :: rest =>
    match lead b with
    | none => .error ⟨.invalidStart, offset, 1, b⟩
    | some (owed, value, low, high) =>
      match continuation owed value low high rest with
      | .error (cause, count) => .error ⟨cause, offset, count + 1, b⟩
      | .ok code => (decodeFrom (offset + 1) owed rest).map (Char.ofNat code :: ·)

/-- The characters that bytes encode. -/
def decode (bytes : List Nat) : Except Utf8Fault (List Char) := decodeFrom 0 0 bytes

end Utf8

/-- The wording of a cause. -/
def Utf8Cause.text : Utf8Cause → String
  | .invalidStart => "invalid start byte"
  | .invalidContinuation => "invalid continuation byte"
  | .unexpectedEnd => "unexpected end of data"

/-- The wording of a fault: one byte is shown, more are given by their positions. -/
def Utf8Fault.text (f : Utf8Fault) : String :=
  let place :=
    if f.count = 1 then
      "byte 0x" ++ String.ofList (hexText 2 f.byte) ++ " in position " ++ toString f.offset
    else
      "bytes in position " ++ toString f.offset ++ "-" ++ toString (f.offset + f.count - 1)
  "'utf-8' codec can't decode " ++ place ++ ": " ++ f.cause.text

/-! ### What has no bytes -/

/-- A run of surrogates that stand alone: the offset of the first, and all of them. -/
structure EncodeFault where
  offset : Nat
  run : List Nat
deriving DecidableEq, Repr

/-- The first run of surrogates in a text. -/
def encodeFault? (t : Text) : Option EncodeFault :=
  match (t.codes.dropWhile fun code => !isSurrogate code).takeWhile isSurrogate with
  | [] => none
  | run => some ⟨(t.codes.takeWhile fun code => !isSurrogate code).length, run⟩

/-- The bytes of a text. -/
def Utf8.encode (t : Text) : Except EncodeFault (List Nat) :=
  match t.encodeFault? with
  | some fault => .error fault
  | none => .ok ((String.ofList (t.codes.map Char.ofNat)).toUTF8.toList.map (·.toNat))

/-- The wording of a fault: one code point is shown, more are given by their positions. -/
def EncodeFault.text (f : EncodeFault) : String :=
  let place :=
    match f.run with
    | [code] =>
      "character '" ++ String.ofList (codeEscape code) ++ "' in position " ++ toString f.offset
    | run =>
      "characters in position " ++ toString f.offset ++ "-" ++ toString (f.offset + run.length - 1)
  "'utf-8' codec can't encode " ++ place ++ ": surrogates not allowed"

end ZonePlan.Text
