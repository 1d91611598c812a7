/-
A request to a collector as bytes on a connection of its own, and what comes back.
-/
import Telemetry.Agent.Delivery

namespace Telemetry.Agent

/-- A host and a port to connect to, both by name. -/
structure Peer where
  host : String
  port : String
  deriving DecidableEq, Repr

/-- The peer that an address without encryption names. -/
def peer? (address : String) : Option Peer :=
  let scheme := "http://".toList
  if scheme.isPrefixOf address.toList then
    let authority := (address.toList.drop scheme.length).takeWhile (· ≠ '/')
    let host := authority.takeWhile (· ≠ ':')
    if host = [] then none
    else
      match authority.dropWhile (· ≠ ':') with
      | _ :: port => some ⟨String.ofList host, String.ofList port⟩
      | [] => some ⟨String.ofList host, "80"⟩
  else none

namespace Wire

def lineEnd : String := "\r\n"

def head (p : Peer) (r : Service.Request) : List String :=
  [r.method ++ " " ++ r.target ++ " HTTP/1.1", "host: " ++ p.host ++ ":" ++ p.port,
    "content-length: " ++ toString r.body.length, "connection: close"] ++
    r.headers.map fun (name, value) => name ++ ": " ++ value

/-- A request, after which the peer closes the connection. -/
def encode (p : Peer) (r : Service.Request) : Text.Bytes :=
  Text.Utf8.encode (String.join ((head p r).map (· ++ lineEnd)) ++ lineEnd) ++ r.body

def afterHead : Text.Bytes → Option Text.Bytes
  | 13 :: 10 :: 13 :: 10 :: rest => some rest
  | _ :: rest => afterHead rest
  | [] => none

/-- The reply that some bytes are: a version, a blank, three digits of a status, and a text
after the head. -/
def decode (bs : Text.Bytes) : Reply :=
  match (bs.drop 9).take 3 |>.mapM fun b => digit? (Char.ofNat b.toNat) with
  | some [a, b, c] =>
    .status (natOfDigits [a, b, c]) ((afterHead bs).bind Text.Utf8.decode?)
  | _ => .none

end Wire

end Telemetry.Agent
