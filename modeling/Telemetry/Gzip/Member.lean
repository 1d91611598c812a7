/-
A gzip member: a header, compressed data, and a checksum and length of the data.

Reading takes the first member and ignores what follows it. Headers may carry an
extra field, a name, a comment and a checksum of their own. A `strict` reader refuses
reserved flags and a wrong header checksum; a lenient one passes over both.
-/
import Telemetry.Gzip.Crc
import Telemetry.Gzip.Deflate
import Telemetry.Gzip.Inflate
import Telemetry.Text.Utf8

namespace Telemetry.Gzip

open Text (Bytes)

/-! ## Writing -/

/-- A number of four bytes, the lowest first. -/
def littleEndian (n : Nat) : Bytes :=
  [UInt8.ofNat (n % 256), UInt8.ofNat (n / 256 % 256), UInt8.ofNat (n / 65536 % 256),
    UInt8.ofNat (n / 16777216 % 256)]

def header : Bytes :=
  [0x1f, 0x8b, 8, 0, 0, 0, 0, 0, 0, 0xff]

def toByteArray (bytes : Bytes) : ByteArray :=
  ⟨bytes.toArray⟩

/-- The member of a text. At level 0 the text is stored, above it is compressed. -/
def encode (level : Nat) (bytes : Bytes) : Bytes :=
  let body := if level = 0 then store (bytes.length / 0xFFFF) bytes else deflate (toByteArray bytes)
  header ++ body ++ littleEndian (Crc.ofBytes bytes).toNat ++
    littleEndian (bytes.length % UInt32.size)

/-! ## Reading -/

/-- What is left after a text that ends in a zero byte. -/
def afterZero : Bytes → Option Bytes
  | [] => none
  | b :: rest => if b = 0 then some rest else afterZero rest

/-- What is left after a field with its length in two bytes. -/
def afterExtra : Bytes → Option Bytes
  | a :: b :: rest =>
    let n := a.toNat + 256 * b.toNat
    if rest.length < n then none else some (rest.drop n)
  | _ => none

def optional (present : Bool) (skip : Bytes → Option Bytes) (bytes : Bytes) : Option Bytes :=
  if present then skip bytes else some bytes

/-- The header's own checksum: two bytes of the checksum of all before them. -/
def afterChecksum (strict : Bool) (all bytes : Bytes) : Option Bytes :=
  match bytes with
  | a :: b :: rest =>
    let crc := (Crc.ofBytes (all.take (all.length - bytes.length))).toNat
    if strict ∧ a.toNat + 256 * b.toNat ≠ crc % 65536 then none else some rest
  | _ => none

def afterHeader (strict : Bool) (all : Bytes) : Option Bytes :=
  match all with
  | m1 :: m2 :: method :: flags :: _ :: _ :: _ :: _ :: _ :: _ :: rest =>
    let flag (k : Nat) : Bool := flags.toNat.testBit k
    if m1 ≠ 0x1f ∨ m2 ≠ 0x8b ∨ method ≠ 8 ∨ (strict ∧ 32 ≤ flags.toNat) then none
    else do
      let rest ← optional (flag 2) afterExtra rest
      let rest ← optional (flag 3) afterZero rest
      let rest ← optional (flag 4) afterZero rest
      optional (flag 1) (afterChecksum strict all) rest
  | _ => none

/-- The number of four bytes at a place. -/
def numberAt? (data : ByteArray) (i : Nat) : Option Nat := do
  let a ← data[i]?
  let b ← data[i + 1]?
  let c ← data[i + 2]?
  let d ← data[i + 3]?
  some (a.toNat + 256 * (b.toNat + 256 * (c.toNat + 256 * d.toNat)))

/-- The text of the first member, unless it is longer than `limit`. -/
def decode (strict : Bool) (limit : Nat) (bytes : Bytes) : Except Stop Bytes :=
  match afterHeader strict bytes with
  | none => .error .corrupt
  | some body => do
    let data := toByteArray body
    let (out, ending) ← inflate limit data 0
    let text := out.toList
    if numberAt? data ending = some (Crc.ofBytes text).toNat ∧
        numberAt? data (ending + 4) = some (text.length % UInt32.size) then .ok text
    else .error .corrupt

end Telemetry.Gzip
