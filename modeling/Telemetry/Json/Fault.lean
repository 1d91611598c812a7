/-
Why a JSON text is not the value that was asked for.

What the grammar refuses is `malformed`, whatever the reason. The other faults
name what was found and what was expected.
-/
import Telemetry.Json.Number
import Telemetry.Number.Text
import Telemetry.Text.Quoted

namespace Telemetry.Json

/-- A value of the wrong type. -/
inductive Found where
  | null
  | boolean (value : Bool)
  | integer (value : Int)
  | double (value : Binary64)
  | text (value : String)
  | sequence
  | map
  deriving DecidableEq, Repr

/-- What a place in a text may hold. -/
inductive Expected where
  | text
  | double
  | int64
  | uint64
  | boolean
  | path
  | unit
  | variant
  | sequence
  | map
  | structure (name : String)
  deriving DecidableEq, Repr

/-- Why a text was refused. -/
inductive Fault where
  | malformed
  | invalidType (found : Found) (expected : Expected)
  | invalidValue (value : Int) (expected : Expected)
  | invalidLength (length : Nat) (name : String) (fields : Nat)
  | missingField (name : String)
  | duplicateField (name : String)
  | unknownVariant (name : String) (known : List String)
  deriving DecidableEq, Repr

def booleanText (b : Bool) : String :=
  if b then "true" else "false"

def Found.message : Found → String
  | .null => "null"
  | .boolean b => "boolean `" ++ booleanText b ++ "`"
  | .integer i => "integer `" ++ toString i ++ "`"
  | .double x => "floating point `" ++ x.wire ++ "`"
  | .text s => "string " ++ Text.quoted s
  | .sequence => "sequence"
  | .map => "map"

def Expected.message : Expected → String
  | .text => "a string"
  | .double => "f64"
  | .int64 => "i64"
  | .uint64 => "u64"
  | .boolean => "a boolean"
  | .path => "path string"
  | .unit => "unit"
  | .variant => "variant identifier"
  | .sequence => "a sequence"
  | .map => "a map"
  | .structure name => "struct " ++ name

def Fault.message : Fault → String
  | .malformed => "invalid JSON"
  | .invalidType found expected =>
    "invalid type: " ++ found.message ++ ", expected " ++ expected.message
  | .invalidValue i expected =>
    "invalid value: integer `" ++ toString i ++ "`, expected " ++ expected.message
  | .invalidLength n name fields =>
    "invalid length " ++ toString n ++ ", expected struct " ++ name ++ " with " ++
      toString fields ++ " elements"
  | .missingField name => "missing field `" ++ name ++ "`"
  | .duplicateField name => "duplicate field `" ++ name ++ "`"
  | .unknownVariant name known =>
    "unknown variant `" ++ name ++ "`, expected " ++
      String.intercalate " or " (known.map fun k => "`" ++ k ++ "`")

end Telemetry.Json
