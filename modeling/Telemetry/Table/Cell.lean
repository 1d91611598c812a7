/-
Cells of a table, and what a column makes of a value put into it.

A text column turns numbers into text. A real column turns whole numbers and
text that looks like a number into reals, and forgets the sign of zero. An integer
column turns such text and whole reals into integers. All else is kept as it is.
-/
import Telemetry.Failure

namespace Telemetry.Table

/-- What a cell holds. -/
inductive Cell where
  | null
  | integer (value : Int64)
  | real (value : Binary64)
  | text (value : String)
  deriving DecidableEq, Repr

namespace Cell

def cellClass : Cell → CellClass
  | .null => .null
  | .integer _ => .integer
  | .real _ => .real
  | .text _ => .text

/-! ## Text of reals -/

/-- Rounded to fifteen digits. -/
def fifteen (m : Magnitude) : Decimal :=
  let top := Decimal.decade (4 * m.scaled) (1 <<< 1076)
  let (u, d) := Decimal.unit (top - 14)
  Decimal.strip 15 ⟨Magnitude.nearest (4 * m.scaled * d) u, top - 14⟩

/-- An exponent of two digits at least. -/
def exponentChars (k : Int) : List Char :=
  let digits := Decimal.digitChars k.natAbs
  (if k < 0 then '-' else '+') :: (Decimal.zeros (2 - digits.length) ++ digits)

/-- One digit before the point, some after it, and an exponent. -/
def scientificChars (x : Decimal) : List Char :=
  match Decimal.digitChars x.digits with
  | [] => []
  | [d] => [d, '.', '0', 'e'] ++ exponentChars x.leading
  | d :: ds => d :: '.' :: ds ++ 'e' :: exponentChars x.leading

def magnitudeChars (m : Magnitude) : List Char :=
  if m.isZero then ['0', '.', '0']
  else
    let x := fifteen m
    if -4 ≤ x.leading ∧ x.leading < 15 then x.pointChars else scientificChars x

def realText : Binary64 → String
  | .infinite s => if s then "-Inf" else "Inf"
  | x => String.ofList (x.chars magnitudeChars)

/-! ## Text that looks like a number -/

def isSpace (c : Char) : Bool :=
  c = ' ' || (9 ≤ c.toNat && c.toNat ≤ 13)

/-- The text without the white space at its ends. -/
def stripSpace (cs : List Char) : List Char :=
  ((cs.dropWhile isSpace).reverse.dropWhile isSpace).reverse

/-- The real that a decimal text spells; names of infinities spell none. -/
def realOfText? (s : String) : Option Binary64 :=
  let chars := stripSpace s.toList
  if chars.all fun c => (digit? c).isSome || c = '.' || c = 'e' || c = 'E' || c = '+' || c = '-' then
    (float64OfChars chars).toOption
  else none

/-- The integer that a real is, within 64 bits. -/
def integerOfReal? (x : Binary64) : Option Int64 :=
  match x.toInt? with
  | some i => if Int64.minValue.toInt ≤ i ∧ i ≤ Int64.maxValue.toInt then some (Int64.ofInt i) else none
  | none => none

/-! ## Columns -/

def asText : Cell → Cell
  | .integer i => .text (toString i.toInt)
  | .real x => .text (realText x)
  | c => c

def asReal : Cell → Cell
  | .integer i => .real (Binary64.ofInt i.toInt)
  | .real x => if x = .nan then .null else .real x.plainZero
  | .text s =>
    match realOfText? s with
    | some x => .real x.plainZero
    | none => .text s
  | .null => .null

def asInteger : Cell → Cell
  | .real x =>
    match integerOfReal? x with
    | some i => .integer i
    | none => if x = .nan then .null else .real x
  | .text s =>
    match (int64OfChars (stripSpace s.toList)).toOption with
    | some i => .integer i
    | none =>
      match realOfText? s with
      | some x =>
        match integerOfReal? x with
        | some i => .integer i
        | none => .real x
      | none => .text s
  | c => c

/-! ## Reading -/

/-- The cell of a column cannot be read as asked. -/
def wrongClass (c : Cell) (index : Nat) (column : String) : DatabaseFault :=
  .columnType c.cellClass index column

/-- A real or nothing; an integer will do. -/
def readReal (index : Nat) (column : String) : Cell → Except DatabaseFault (Option Binary64)
  | .null => .ok none
  | .real x => .ok (some x)
  | .integer i => .ok (some (Binary64.ofInt i.toInt))
  | c => .error (c.wrongClass index column)

def readInteger (index : Nat) (column : String) : Cell → Except DatabaseFault (Option Int64)
  | .null => .ok none
  | .integer i => .ok (some i)
  | c => .error (c.wrongClass index column)

end Cell

end Telemetry.Table
