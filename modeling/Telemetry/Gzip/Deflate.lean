/-
Compression in the deflate format.

A text is cut into literals and copies of what came before (`tokens`), and these
are written in the fixed codes. A copy is only taken where the bytes agree, so
what is written always decompresses to the text.
-/
import Telemetry.Gzip.Codes
import Telemetry.Text.Utf8

namespace Telemetry.Gzip

/-- A byte, or bytes that occurred before. -/
inductive Token where
  | literal (b : UInt8)
  | copy (length distance : Nat)
  deriving DecidableEq, Repr

/-- How many bytes agree from two places on, at most `fuel`. -/
def agreement (data : ByteArray) : Nat → Nat → Nat → Nat
  | 0, _, _ => 0
  | fuel + 1, i, j =>
    match data[i]?, data[j]? with
    | some a, some b => if a = b then agreement data fuel (i + 1) (j + 1) + 1 else 0
    | _, _ => 0

/-- A small number for the three bytes at a place. -/
def slot (data : ByteArray) (i : Nat) : Nat :=
  let b (k : Nat) : Nat := (data[i + k]?.getD 0).toNat
  (b 0 * 961 + b 1 * 31 + b 2) % 8192

/-- The tokens from a place on, the last one first. `seen` holds, for three bytes, the place
after the one where they began last. -/
def tokensFrom (data : ByteArray) : Nat → Nat → Array Nat → List Token → List Token
  | 0, _, _, done => done
  | fuel + 1, i, seen, done =>
    match data[i]? with
    | none => done
    | some b =>
      let k := slot data i
      let before := seen.getD k 0
      let seen := seen.setIfInBounds k (i + 1)
      let distance := i + 1 - before
      let length := if before = 0 ∨ 32768 < distance then 0
        else agreement data 258 (before - 1) i
      if 3 ≤ length then tokensFrom data fuel (i + length) seen (.copy length distance :: done)
      else tokensFrom data fuel (i + 1) seen (.literal b :: done)

def tokens (data : ByteArray) : List Token :=
  (tokensFrom data (data.size + 1) 0 (Array.replicate 8192 0) []).reverse

/-- A writer of bits: whole bytes, and the bits of the next one with their number. -/
structure Deflater where
  out : ByteArray
  held : Nat
  count : Nat

namespace Deflater

def start : Deflater :=
  ⟨ByteArray.empty, 0, 0⟩

def bit (w : Deflater) (b : Nat) : Deflater :=
  let held := w.held + b <<< w.count
  if w.count = 7 then ⟨w.out.push (UInt8.ofNat held), 0, 0⟩ else ⟨w.out, held, w.count + 1⟩

/-- A number of `n` bits, the lowest first. -/
def number (w : Deflater) : Nat → Nat → Deflater
  | 0, _ => w
  | n + 1, x => (w.bit (x % 2)).number n (x / 2)

/-- A word of `n` bits, the highest first. -/
def word (w : Deflater) : Nat → Nat → Deflater
  | 0, _ => w
  | n + 1, x => (w.bit (x >>> n % 2)).word n x

/-- A symbol in the fixed code of literals and lengths. -/
def symbol (w : Deflater) (s : Nat) : Deflater :=
  if s < 144 then w.word 8 (0x30 + s)
  else if s < 256 then w.word 9 (0x190 + (s - 144))
  else if s < 280 then w.word 7 (s - 256)
  else w.word 8 (0xC0 + (s - 280))

/-- The last entry of a table whose base is not above `x`. -/
def indexIn (table : List (Nat × Nat)) (x : Nat) : Nat :=
  (table.takeWhile fun (base, _) => base ≤ x).length - 1

def token (w : Deflater) : Token → Deflater
  | .literal b => w.symbol b.toNat
  | .copy length distance =>
    let l := indexIn lengthTable length
    let (lengthBase, lengthExtra) := lengthTable.getD l (0, 0)
    let d := indexIn distanceTable distance
    let (distanceBase, distanceExtra) := distanceTable.getD d (0, 0)
    (((w.symbol (257 + l)).number lengthExtra (length - lengthBase)).word 5 d).number
      distanceExtra (distance - distanceBase)

/-- The bytes written, the last one filled up with zeros. -/
def finish (w : Deflater) : ByteArray :=
  if w.count = 0 then w.out else w.out.push (UInt8.ofNat w.held)

end Deflater

/-- The text compressed as one block. -/
def deflate (data : ByteArray) : List UInt8 :=
  let w := (Deflater.start.number 1 1).number 2 1
  (((tokens data).foldl Deflater.token w).symbol 256).finish.toList

/-- A block of bytes as they are. -/
def storedBlock (last : Bool) (bytes : List UInt8) : List UInt8 :=
  let n := bytes.length
  [if last then 1 else 0, UInt8.ofNat (n % 256), UInt8.ofNat (n / 256),
    UInt8.ofNat (255 - n % 256), UInt8.ofNat (255 - n / 256)] ++ bytes

/-- The text in blocks as it is; `fuel` blocks at most. -/
def store : Nat → List UInt8 → List UInt8
  | 0, bytes => storedBlock true bytes
  | fuel + 1, bytes =>
    if bytes.length ≤ 0xFFFF then storedBlock true bytes
    else storedBlock false (bytes.take 0xFFFF) ++ store fuel (bytes.drop 0xFFFF)

end Telemetry.Gzip
