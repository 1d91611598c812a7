/-
The value that a JSON text spells, as far as it goes.

A text may break off anywhere. Its tree then holds what was read before the fault:
every container around the fault is left open (`closed = false`), and a value
that is missing is `broken`. So a reader of typed values walks a tree in the
order of the text, and meets a wrong type before a fault that comes after it. Where
an object breaks off at a key that is no string, its first token is kept, since a
reader may have to name what it found.

Building is a fold over the tokens with the open containers on a stack.
-/
import Telemetry.Json.Token

namespace Telemetry.Json

/-- How an object ends: by its brace, at a fault, or at a token where a key should be. -/
inductive Ending where
  | closed
  | fault
  | stray (token : Token)
  deriving DecidableEq, Repr

/-- A value read from text. A key or a text that is delimited but spells nothing is `none`. -/
inductive Tree where
  | null
  | boolean (value : Bool)
  | number (numeral : Numeral)
  | string (text : Option String)
  | array (items : List Tree) (closed : Bool)
  | object (members : List (Option String × Tree)) (ending : Ending)
  | broken
  deriving Repr

/-- The value ends where the grammar ends it. -/
def Tree.isWhole : Tree → Bool
  | .broken => false
  | .array _ closed => closed
  | .object _ ending => ending = .closed
  | _ => true

/-- A text's value, and whether more follows it. -/
structure Document where
  tree : Tree
  trailing : Bool
  deriving Repr

/-- A container that waits for the value of an item or a member; what it holds stands
last first. -/
inductive Frame where
  | array (items : List Tree)
  | member (members : List (Option String × Tree)) (key : Option String)
  deriving Repr

/-- What must come next, with the contents of the innermost container. -/
inductive Place where
  | value
  | item (items : List Tree) (first : Bool)
  | afterItem (items : List Tree)
  | key (members : List (Option String × Tree)) (first : Bool)
  | colon (members : List (Option String × Tree)) (key : Option String)
  | afterMember (members : List (Option String × Tree))
  | done (tree : Tree)
  | stopped (document : Document)
  deriving Repr

/-- A value under construction: the place in the innermost container, and the
containers around it. -/
structure Builder where
  place : Place
  frames : List Frame
  deriving Repr

namespace Builder

def start : Builder :=
  ⟨.value, []⟩

/-- Closes every container around an unfinished value, as open as they were. -/
def collapse : Tree → List Frame → Tree
  | t, [] => t
  | t, .array items :: frames => collapse (.array (t :: items).reverse false) frames
  | t, .member members key :: frames =>
    collapse (.object ((key, t) :: members).reverse .fault) frames

/-- A fault at a place: what there is of the innermost value. -/
def rest : Place → Tree
  | .value => .broken
  | .item items _ => .array items.reverse false
  | .afterItem items => .array items.reverse false
  | .key members _ => .object members.reverse .fault
  | .colon members key => .object ((key, .broken) :: members).reverse .fault
  | .afterMember members => .object members.reverse .fault
  | .done tree => tree
  | .stopped document => document.tree

/-- The document as far as it goes. -/
def finish (b : Builder) : Document :=
  match b.place with
  | .stopped document => document
  | .done tree => ⟨tree, false⟩
  | place => ⟨collapse (rest place) b.frames, false⟩

/-- Reads no further. -/
def stop (b : Builder) : Builder :=
  ⟨.stopped b.finish, []⟩

/-- Stops at a token where a key should be. -/
def stopAtKey (b : Builder) (members : List (Option String × Tree)) (t : Token) : Builder :=
  ⟨.stopped ⟨collapse (.object members.reverse (.stray t)) b.frames, false⟩, []⟩

/-- A whole value goes where the stack says. -/
def deliver (t : Tree) : List Frame → Builder
  | [] => ⟨.done t, []⟩
  | .array items :: frames => ⟨.afterItem (t :: items), frames⟩
  | .member members key :: frames => ⟨.afterMember ((key, t) :: members), frames⟩

/-- The first token of a value. -/
def begin (frames : List Frame) : Token → Builder
  | .null => deliver .null frames
  | .boolean b => deliver (.boolean b) frames
  | .number n => deliver (.number n) frames
  | .string s => deliver (.string s) frames
  | .openArray => ⟨.item [] true, frames⟩
  | .openObject => ⟨.key [] true, frames⟩
  | _ => stop ⟨.value, frames⟩

def step (b : Builder) (t : Token) : Builder :=
  match b.place, t with
  | .stopped _, _ => b
  | .done tree, _ => ⟨.stopped ⟨tree, true⟩, []⟩
  | .value, t => begin b.frames t
  | .item _ true, .closeArray => deliver (.array [] true) b.frames
  | .item items _, t => begin (.array items :: b.frames) t
  | .afterItem items, .comma => ⟨.item items false, b.frames⟩
  | .afterItem items, .closeArray => deliver (.array items.reverse true) b.frames
  | .key _ true, .closeObject => deliver (.object [] .closed) b.frames
  | .key members _, .string key => ⟨.colon members key, b.frames⟩
  | .key members _, t => b.stopAtKey members t
  | .colon members key, .colon => ⟨.value, .member members key :: b.frames⟩
  | .afterMember members, .comma => ⟨.key members false, b.frames⟩
  | .afterMember members, .closeObject => deliver (.object members.reverse .closed) b.frames
  | _, _ => b.stop

end Builder

def Document.ofTokens (ts : List Token) : Document :=
  (ts.foldl Builder.step .start).finish

/-- The document of a text given by its units. -/
def Document.ofUnits (units : List (Option Char)) : Document :=
  Document.ofTokens (tokens units)

def Document.ofBytes (bytes : Text.Bytes) : Document :=
  Document.ofUnits (Text.Utf8.units bytes)

def Document.ofText (s : String) : Document :=
  Document.ofUnits (s.toList.map some)

end Telemetry.Json
