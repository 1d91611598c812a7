/-
Where a batch is sent: an address with a scheme, cut into its parts.

The path of an address is brought into the form of a request's first line: steps up
and down are taken, and characters that may not stand there are written by their
bytes. What follows a question mark is kept, and what follows a number sign is not
sent.
-/
import Telemetry.Disk.Path
import Telemetry.Settings.Agent
import Telemetry.Text.Hex

namespace Telemetry.Agent

def batchPath : String := "/updates/"

/-- The character is written by its bytes in a path. -/
def isEscapedInPath (c : Char) : Bool :=
  c.toNat ≤ 0x20 || 0x7F ≤ c.toNat || ['"', '#', '<', '>', '?', '\x60', '\x7b', '\x7d'].contains c

/-- The character is written by its bytes in a query. -/
def isEscapedInQuery (c : Char) : Bool :=
  c.toNat ≤ 0x20 || 0x7F ≤ c.toNat || ['"', '#', '<', '>', '\''].contains c

/-- The character by its bytes, each as a percent sign and two upper-case digits. -/
def percentEncoded (c : Char) : List Char :=
  (String.utf8EncodeChar c).flatMap fun b =>
    '%' :: (Text.Hex.encodeChars [b]).map Char.toUpper

/-- The text with the characters that a test names written by their bytes. -/
def escaped (test : Char → Bool) (cs : List Char) : List Char :=
  cs.flatMap fun c => if test c then percentEncoded c else [c]

def isDot (part : Path.Part) : Bool :=
  lowered part = ['.'] || lowered part = ['%', '2', 'e']

def isTwoDots (part : Path.Part) : Bool :=
  let dots := ['%', '2', 'e']
  [['.', '.'], '.' :: dots, dots ++ ['.'], dots ++ dots].contains (lowered part)

/-- The parts of a path without steps; `done` stands last first. -/
def walked (done : List Path.Part) : List Path.Part → List Path.Part
  | [] => done.reverse
  | [last] =>
    if isTwoDots last then ([] :: done.drop 1).reverse
    else if isDot last then ([] :: done).reverse
    else (last :: done).reverse
  | part :: rest =>
    if isTwoDots part then walked (done.drop 1) rest
    else if isDot part then walked done rest
    else walked (part :: done) rest

/-- A request's path, which begins with a slash. -/
def normalPath (cs : List Char) : List Char :=
  let cs := cs.map fun c => if c = '\\' then '/' else c
  let parts := (Path.parts cs).drop 1
  escaped isEscapedInPath ('/' :: Path.glue (walked [] parts))

/-- What a client asks for when it is sent to the rest of an address, after scheme and host. -/
def targetOf (rest : List Char) : String :=
  let rest := rest.filter fun c => c ≠ '\t' ∧ c ≠ '\n' ∧ c ≠ '\r'
  let sent := rest.takeWhile (· ≠ '#')
  let path := sent.takeWhile (· ≠ '?')
  let query := sent.dropWhile (· ≠ '?')
  let path := if path = [] then ['/'] else normalPath path
  String.ofList (path ++ escaped isEscapedInQuery query)

/-- The rest of an address after scheme and host; none without a scheme that clients speak or
without a host. -/
def restOf? (address : String) : Option (List Char) :=
  let afterScheme := ["http://", "https://"].findSome? fun scheme =>
    if scheme.toList.isPrefixOf address.toList then
      some (address.toList.drop scheme.toList.length)
    else none
  afterScheme.bind fun cs =>
    let host := cs.takeWhile fun c => c ≠ '/' ∧ c ≠ '\\' ∧ c ≠ '?' ∧ c ≠ '#'
    if host = [] then none else some (cs.drop host.length)

/-- The target of the request that sends a batch to an address. -/
def target? (address : String) : Option String :=
  (restOf? (address ++ batchPath)).map targetOf

end Telemetry.Agent
