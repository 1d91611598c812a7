/-
UTF-8, read leniently: bytes become characters, and a byte that belongs to no
character becomes `none`.

Reading is a fold, one byte at a time. A sequence that breaks off gives `none`
for each of its bytes, and the byte that broke it starts anew, so an ASCII
byte is always itself.
-/

namespace Telemetry.Text

abbrev Bytes := List UInt8

namespace Utf8

/-- A character that has begun: the tail bytes it is owed, the range of the next
one, the bits so far and the bytes they came from. -/
structure Begun where
  owed : Nat
  low : Nat
  high : Nat
  code : Nat
  taken : Nat
  deriving DecidableEq, Repr

/-- A reader between two bytes: the units read so far, the last one first. -/
structure Reader where
  units : List (Option Char)
  begun : Option Begun
  deriving DecidableEq, Repr

/-- Puts `n` unreadable bytes in front. -/
def bad (n : Nat) (units : List (Option Char)) : List (Option Char) :=
  List.replicate n none ++ units

/-- A byte between two characters. -/
def Reader.first (units : List (Option Char)) (b : Nat) : Reader :=
  if b < 0x80 then ⟨some (Char.ofNat b) :: units, none⟩
  else if 0xC2 ≤ b ∧ b ≤ 0xDF then ⟨units, some ⟨1, 0x80, 0xBF, b - 0xC0, 1⟩⟩
  else if b = 0xE0 then ⟨units, some ⟨2, 0xA0, 0xBF, 0, 1⟩⟩
  else if b = 0xED then ⟨units, some ⟨2, 0x80, 0x9F, 0xD, 1⟩⟩
  else if 0xE1 ≤ b ∧ b ≤ 0xEF then ⟨units, some ⟨2, 0x80, 0xBF, b - 0xE0, 1⟩⟩
  else if b = 0xF0 then ⟨units, some ⟨3, 0x90, 0xBF, 0, 1⟩⟩
  else if 0xF1 ≤ b ∧ b ≤ 0xF3 then ⟨units, some ⟨3, 0x80, 0xBF, b - 0xF0, 1⟩⟩
  else if b = 0xF4 then ⟨units, some ⟨3, 0x80, 0x8F, 4, 1⟩⟩
  else ⟨none :: units, none⟩

def Reader.step (r : Reader) (byte : UInt8) : Reader :=
  let b := byte.toNat
  match r.begun with
  | none => Reader.first r.units b
  | some p =>
    if p.low ≤ b ∧ b ≤ p.high then
      let code := p.code * 64 + (b - 0x80)
      if p.owed = 1 then ⟨some (Char.ofNat code) :: r.units, none⟩
      else ⟨r.units, some ⟨p.owed - 1, 0x80, 0xBF, code, p.taken + 1⟩⟩
    else Reader.first (bad p.taken r.units) b

/-- The end of the bytes: what has begun stays unfinished. -/
def Reader.finish (r : Reader) : List (Option Char) :=
  match r.begun with
  | none => r.units.reverse
  | some p => (bad p.taken r.units).reverse

/-- The characters of a byte string, with `none` for a byte that belongs to none. -/
def units (bytes : Bytes) : List (Option Char) :=
  (bytes.foldl Reader.step ⟨[], none⟩).finish

def encodeChars (cs : List Char) : Bytes :=
  cs.flatMap String.utf8EncodeChar

def encode (s : String) : Bytes :=
  encodeChars s.toList

/-- The characters of a list that holds nothing unreadable. -/
def wholeAux : List (Option Char) → List Char → Option (List Char)
  | [], read => some read.reverse
  | none :: _, _ => none
  | some c :: rest, read => wholeAux rest (c :: read)

/-- The text of a list that holds nothing unreadable. -/
def whole (units : List (Option Char)) : Option String :=
  (wholeAux units []).map String.ofList

/-- The text that a byte string spells, if it spells one. -/
def decode? (bytes : Bytes) : Option String :=
  whole (units bytes)

end Utf8

end Telemetry.Text
