/-
The checksum of a gzip member: the 32-bit cyclic redundancy check with the
reflected polynomial `0xEDB88320`.
-/

namespace Telemetry.Gzip.Crc

/-- One bit shifted out of the register. -/
def shift (c : UInt32) : UInt32 :=
  if c &&& 1 = 1 then (c >>> 1) ^^^ 0xEDB88320 else c >>> 1

/-- What a byte does to an empty register. -/
def entry (n : Nat) : UInt32 :=
  Nat.repeat shift 8 (UInt32.ofNat n)

def table : Array UInt32 :=
  ((List.range 256).map entry).toArray

def step (c : UInt32) (b : UInt8) : UInt32 :=
  table.getD ((c ^^^ b.toUInt32) &&& 0xFF).toNat 0 ^^^ (c >>> 8)

def start : UInt32 :=
  0xFFFFFFFF

def finish (c : UInt32) : UInt32 :=
  c ^^^ 0xFFFFFFFF

def ofBytes (bytes : List UInt8) : UInt32 :=
  finish (bytes.foldl step start)

end Telemetry.Gzip.Crc
