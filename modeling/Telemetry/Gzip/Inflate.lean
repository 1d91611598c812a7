/-
Decompression of the deflate format.

A reader holds the compressed bytes, its place in them, and what has been
decompressed. Each step either moves on, or ends the reading: the data is corrupt
or cut off, or it grows past the limit. Every symbol takes a bit at least, so the
number of bits bounds the steps.
-/
import Telemetry.Gzip.Codes

namespace Telemetry.Gzip

/-- Why a reading ended early. -/
inductive Stop where
  | corrupt
  | tooLong
  deriving DecidableEq, Repr

/-- A reader: its bytes, its place counted in bits, and its output. -/
structure Inflater where
  data : ByteArray
  place : Nat
  out : ByteArray

namespace Inflater

def bit (r : Inflater) : Except Stop (Nat × Inflater) :=
  match r.data[r.place / 8]? with
  | none => .error .corrupt
  | some b => .ok ((b.toNat >>> (r.place % 8)) % 2, { r with place := r.place + 1 })

/-- The number of the next `n` bits, the lowest first. -/
def bits (r : Inflater) : Nat → Except Stop (Nat × Inflater)
  | 0 => .ok (0, r)
  | n + 1 => do
    let (low, r) ← r.bit
    let (high, r) ← r.bits n
    .ok (2 * high + low, r)

/-- The symbol of the next word: `first` is the first word of a length, `index` the place of
its symbol, and `word` what has been read. -/
def symbolFrom (code : Code) (r : Inflater) (word first index : Nat) :
    List Nat → Except Stop (Nat × Inflater)
  | [] => .error .corrupt
  | count :: counts => do
    let (b, r) ← r.bit
    let word := 2 * word + b
    if word < first + count then
      match code.symbols[index + (word - first)]? with
      | some s => .ok (s, r)
      | none => .error .corrupt
    else symbolFrom code r word (2 * (first + count)) (index + count) counts

def symbol (code : Code) (r : Inflater) : Except Stop (Nat × Inflater) :=
  symbolFrom code r 0 0 0 code.counts

def push (limit : Nat) (b : UInt8) (r : Inflater) : Except Stop Inflater :=
  if r.out.size < limit then .ok { r with out := r.out.push b } else .error .tooLong

/-- Bytes of output taken from `distance` bytes back. -/
def copy (limit distance : Nat) : Nat → Inflater → Except Stop Inflater
  | 0, r => .ok r
  | n + 1, r =>
    match r.out[r.out.size - distance]? with
    | none => .error .corrupt
    | some b =>
      match push limit b r with
      | .error e => .error e
      | .ok r => copy limit distance n r

/-- The length or distance of a symbol, with the bits that follow it. -/
def extended (table : List (Nat × Nat)) (s : Nat) (r : Inflater) :
    Except Stop (Nat × Inflater) :=
  match table[s]? with
  | none => .error .corrupt
  | some (base, extra) => do
    let (n, r) ← r.bits extra
    .ok (base + n, r)

/-- What one symbol of a block does; true when it ends the block. -/
def step (limit : Nat) (literal distance : Code) (r : Inflater) :
    Except Stop (Bool × Inflater) := do
  let (s, r) ← r.symbol literal
  if s < 256 then
    let r ← r.push limit (UInt8.ofNat s)
    .ok (false, r)
  else if s = 256 then .ok (true, r)
  else
    let (length, r) ← r.extended lengthTable (s - 257)
    let (d, r) ← r.symbol distance
    let (back, r) ← r.extended distanceTable d
    if r.out.size < back then .error .corrupt
    else
      let r ← r.copy limit back length
      .ok (false, r)

/-- The symbols of a block up to its end. -/
def symbols (limit : Nat) (literal distance : Code) : Nat → Inflater → Except Stop Inflater
  | 0, _ => .error .corrupt
  | fuel + 1, r =>
    match r.step limit literal distance with
    | .error e => .error e
    | .ok (true, r) => .ok r
    | .ok (false, r) => symbols limit literal distance fuel r

def size (r : Inflater) : Nat :=
  r.data.size * 8

def stored (limit : Nat) : Nat → Inflater → Except Stop Inflater
  | 0, r => .ok r
  | n + 1, r =>
    match r.data[r.place / 8]? with
    | none => .error .corrupt
    | some b =>
      match push limit b { r with place := r.place + 8 } with
      | .error e => .error e
      | .ok r => stored limit n r

/-- The place moved up to a whole byte. -/
def align (r : Inflater) : Inflater :=
  { r with place := (r.place + 7) / 8 * 8 }

/-- A block that is stored: its length twice, the second time inverted, and its bytes. -/
def storedBlock (limit : Nat) (r : Inflater) : Except Stop Inflater := do
  let (n, r) ← r.align.bits 16
  let (inverted, r) ← r.bits 16
  if n + inverted = 0xFFFF then r.stored limit n else .error .corrupt

/-- The lengths of the code for lengths, in the order of its symbols. -/
def lengthLengths (given : List Nat) : List Nat :=
  (List.range 19).map fun s => ((lengthOrder.zip given).lookup s).getD 0

/-- Numbers of three bits. -/
def triples : Nat → Inflater → Except Stop (List Nat × Inflater)
  | 0, r => .ok ([], r)
  | n + 1, r => do
    let (x, r) ← r.bits 3
    let (xs, r) ← triples n r
    .ok (x :: xs, r)

/-- Word lengths until there are `total`, the last one first. A symbol above 15 repeats. -/
def readLengths (code : Code) (total : Nat) :
    Nat → List Nat → Inflater → Except Stop (List Nat × Inflater)
  | 0, _, _ => .error .corrupt
  | fuel + 1, ls, r =>
    if total < ls.length then .error .corrupt
    else if ls.length = total then .ok (ls, r)
    else do
      let (s, r) ← r.symbol code
      if s < 16 then readLengths code total fuel (s :: ls) r
      else if s = 16 then
        match ls with
        | [] => .error .corrupt
        | l :: _ =>
          let (n, r) ← r.bits 2
          readLengths code total fuel (List.replicate (3 + n) l ++ ls) r
      else if s = 17 then
        let (n, r) ← r.bits 3
        readLengths code total fuel (List.replicate (3 + n) 0 ++ ls) r
      else
        let (n, r) ← r.bits 7
        readLengths code total fuel (List.replicate (11 + n) 0 ++ ls) r

def describedBlock (limit : Nat) (r : Inflater) : Except Stop Inflater := do
  let (literals, r) ← r.bits 5
  let (distances, r) ← r.bits 5
  let (given, r) ← r.bits 4
  let literals := literals + 257
  let distances := distances + 1
  if 286 < literals then .error .corrupt
  else
    let (ls, r) ← triples (given + 4) r
    match Code.ofLengths? (lengthLengths ls) with
    | none => .error .corrupt
    | some code =>
      let total := literals + distances
      let (ls, r) ← readLengths code total (total + 1) [] r
      let ls := ls.reverse
      match Code.ofLengths? (ls.take literals), Code.ofLengths? (ls.drop literals) with
      | some literal, some distance => r.symbols limit literal distance (r.size + 1)
      | _, _ => .error .corrupt

/-- A block that uses the codes everyone knows. -/
def fixedBlock (limit : Nat) (r : Inflater) : Except Stop Inflater :=
  match Code.fixedLiteral, Code.fixedDistance with
  | some literal, some distance => r.symbols limit literal distance (r.size + 1)
  | _, _ => .error .corrupt

/-- One block; true when it was the last. -/
def block (limit : Nat) (r : Inflater) : Except Stop (Bool × Inflater) := do
  let (last, r) ← r.bit
  let (form, r) ← r.bits 2
  let r ← match form with
    | 0 => r.storedBlock limit
    | 1 => r.fixedBlock limit
    | 2 => r.describedBlock limit
    | _ => .error .corrupt
  .ok (last = 1, r)

def blocks (limit : Nat) : Nat → Inflater → Except Stop Inflater
  | 0, _ => .error .corrupt
  | fuel + 1, r =>
    match r.block limit with
    | .error e => .error e
    | .ok (true, r) => .ok r
    | .ok (false, r) => blocks limit fuel r

end Inflater

/-- The decompressed bytes, and where the compressed ones end, both counted in bytes. -/
def inflate (limit : Nat) (data : ByteArray) (start : Nat) : Except Stop (ByteArray × Nat) := do
  let r ← Inflater.blocks limit (data.size * 8 + 1) ⟨data, start * 8, ByteArray.empty⟩
  .ok (r.out, r.align.place / 8)

end Telemetry.Gzip
