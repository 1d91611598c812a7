/-
Percent-encoding in a path: `%` and two hexadecimal digits stand for a byte.

A `%` that no two digits follow stands for itself, and so does `+`.
-/
import Telemetry.Text.Hex

namespace Telemetry.Text.Percent

/-- The bytes that a path segment stands for. -/
def bytes : List Char → Bytes
  | [] => []
  | '%' :: a :: b :: rest =>
    match Hex.value? a, Hex.value? b with
    | some x, some y => UInt8.ofNat (x * 16 + y) :: bytes rest
    | _, _ => 37 :: bytes (a :: b :: rest)
  | c :: rest => String.utf8EncodeChar c ++ bytes rest

/-- The text that a path segment stands for, if its bytes spell one. -/
def decode? (s : String) : Option String :=
  Utf8.decode? (bytes s.toList)

end Telemetry.Text.Percent
