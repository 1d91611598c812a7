/-
Bytes as pairs of hexadecimal digits: written in lower case, read in either.
-/
import Telemetry.Text.Utf8

namespace Telemetry.Text.Hex

/-- The digit of a number below 16, in lower case. -/
def digit (n : Nat) : Char :=
  if n < 10 then Char.ofNat (48 + n) else Char.ofNat (87 + n)

/-- The number that a hexadecimal digit of either case stands for. -/
def value? (c : Char) : Option Nat :=
  if '0' ≤ c ∧ c ≤ '9' then some (c.toNat - 48)
  else if 'a' ≤ c ∧ c ≤ 'f' then some (c.toNat - 87)
  else if 'A' ≤ c ∧ c ≤ 'F' then some (c.toNat - 55)
  else none

/-- Two digits a byte, the higher four bits first. -/
def encodeChars (bytes : Bytes) : List Char :=
  bytes.flatMap fun b => [digit (b.toNat / 16), digit (b.toNat % 16)]

/-- Two digits a byte, the higher four bits first. -/
def encode (bytes : Bytes) : String :=
  String.ofList (encodeChars bytes)

/-- Reads pairs of digits onto the bytes before them. -/
def decodeAux : List Char → Bytes → Option Bytes
  | [], read => some read.reverse
  | [_], _ => none
  | a :: b :: rest, read =>
    match value? a, value? b with
    | some x, some y => decodeAux rest (UInt8.ofNat (x * 16 + y) :: read)
    | _, _ => none

/-- The bytes of an even number of digits; nothing else is read. -/
def decode? (cs : List Char) : Option Bytes :=
  decodeAux cs []

end Telemetry.Text.Hex
