/-
The address that a collector listens at: a host, a colon and a port.
-/
import Telemetry.Number.Reading

namespace Telemetry

/-- Why nothing can listen at an address. -/
inductive AddressFault where
  | noPort
  | badPort
  | refused (text : String)
  deriving DecidableEq, Repr

def AddressFault.message : AddressFault → String
  | .noPort => "invalid socket address"
  | .badPort => "invalid port value"
  | .refused text => text

namespace Service

/-- A host and a port of 16 bits. -/
structure Binding where
  host : String
  port : UInt16
  deriving DecidableEq, Repr

/-- What an address names: its port follows the last colon. -/
def Binding.ofAddress (address : String) : Except AddressFault Binding :=
  let reversed := address.toList.reverse
  match reversed.dropWhile (· ≠ ':') with
  | [] => .error .noPort
  | _ :: host =>
    match uint64OfChars (reversed.takeWhile (· ≠ ':')).reverse with
    | .ok n =>
      if n.toNat < UInt16.size then .ok ⟨String.ofList host.reverse, n.toUInt16⟩ else .error .badPort
    | .error _ => .error .badPort

end Service

end Telemetry
