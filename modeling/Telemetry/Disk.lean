/-
Files and directories.

A location is a place in the tree, written as its names with a slash before each;
the root is the empty text. A path leads to a location from the root or from the
home directory, and every directory on its way has to be there. Operations change
one entry each, so whatever happens between two of them is a state of its own.
-/
import Telemetry.Disk.Path
import Telemetry.Failure
import Telemetry.Metric.NameMap
import Telemetry.Table.Database

namespace Telemetry

abbrev Location := String

/-- What stands at a location. -/
inductive Node where
  | directory
  | file (content : Text.Bytes)
  | database (content : Table.Database)
  deriving DecidableEq, Repr

/-- The nodes by location, the root apart, and the directory where relative paths start. -/
structure Disk where
  nodes : NameMap Node
  home : Location
  deriving DecidableEq, Repr

/-- Where a path leads; `asDirectory` when its spelling admits only a directory there. -/
structure Target where
  location : Location
  asDirectory : Bool
  deriving DecidableEq, Repr

namespace Location

def root : Location := ""

def child (l : Location) (name : Path.Part) : Location :=
  l ++ "/" ++ String.ofList name

/-- The directory that a location is in; the root is in itself. -/
def up (l : Location) : Location :=
  String.ofList ((l.toList.reverse.dropWhile (· ≠ '/')).drop 1).reverse

end Location

namespace Disk

def node? (d : Disk) (l : Location) : Option Node :=
  if l = Location.root then some .directory else d.nodes.get? l

def set (d : Disk) (l : Location) (n : Node) : Disk :=
  { d with nodes := d.nodes.insert l n }

def unset (d : Disk) (l : Location) : Disk :=
  { d with nodes := d.nodes.erase l }

/-! ## Paths -/

/-- A name that a directory can hold. -/
def checkName (name : Path.Part) : Except FileFault Unit :=
  if 255 < (Text.Utf8.encodeChars name).length then .error .nameTooLong else .ok ()

def descend (d : Disk) (l : Location) : List Path.Part → Except FileFault Location
  | [] => .ok l
  | part :: rest =>
    if part = [] ∨ part = ['.'] then descend d l rest
    else if part = ['.', '.'] then descend d (Location.up l) rest
    else do
      checkName part
      match d.node? (Location.child l part) with
      | none => .error .missing
      | some .directory => descend d (Location.child l part) rest
      | some _ => .error .notDirectory

def origin (d : Disk) (path : String) : Location :=
  if Path.isAbsolute path then Location.root else d.home

/-- Where a path leads. The last part need not be there. -/
def resolve (d : Disk) (path : String) : Except FileFault Target :=
  if path.toList.contains '\x00' then .error .zeroByte
  else if path = "" then .error .missing
  else
    let spelled := (Path.parts path.toList).reverse
    let parts := spelled.dropWhile fun part => part = [] ∨ part = ['.']
    match parts with
    | [] => .ok ⟨d.origin path, true⟩
    | last :: before =>
      if last = ['.', '.'] then do
        let l ← d.descend (d.origin path) parts.reverse
        .ok ⟨l, true⟩
      else do
        let l ← d.descend (d.origin path) before.reverse
        checkName last
        .ok ⟨Location.child l last, spelled.length ≠ parts.length⟩

/-- There is a directory at a path; fails when there is nothing. -/
def isDirectory (d : Disk) (path : String) : Except FileFault Bool := do
  let t ← d.resolve path
  match d.node? t.location with
  | none => .error .missing
  | some .directory => .ok true
  | some _ => if t.asDirectory then .error .notDirectory else .ok false

def isFile (d : Disk) (path : String) : Bool :=
  match d.isDirectory path with
  | .ok directory => !directory
  | .error _ => false

/-! ## Operations -/

def databaseBytes : Text.Bytes :=
  Text.Utf8.encode "SQLite format 3\x00"

def read (d : Disk) (path : String) : Except FileFault Text.Bytes := do
  let t ← d.resolve path
  match d.node? t.location with
  | none => .error .missing
  | some .directory => .error .isDirectory
  | some (.file content) => if t.asDirectory then .error .notDirectory else .ok content
  | some (.database _) => if t.asDirectory then .error .notDirectory else .ok databaseBytes

/-- A file with the given bytes, whatever it held before. -/
def write (d : Disk) (path : String) (content : Text.Bytes) : Except FileFault Disk := do
  let t ← d.resolve path
  match d.node? t.location with
  | some .directory => .error .isDirectory
  | some _ => if t.asDirectory then .error .notDirectory else .ok (d.set t.location (.file content))
  | none => if t.asDirectory then .error .isDirectory else .ok (d.set t.location (.file content))

/-- A file moved in one step onto another path, in place of the file there. -/
def rename (d : Disk) (source target : String) : Except FileFault Disk := do
  let s ← d.resolve source
  let t ← d.resolve target
  match d.node? s.location with
  | none => .error .missing
  | some n =>
    match d.node? t.location with
    | some .directory => .error .isDirectory
    | _ =>
      if t.asDirectory then .error .notDirectory
      else .ok ((d.unset s.location).set t.location n)

def remove (d : Disk) (path : String) : Except FileFault Disk := do
  let t ← d.resolve path
  match d.node? t.location with
  | none => .error .missing
  | some .directory => .error .isDirectory
  | some _ => if t.asDirectory then .error .notDirectory else .ok (d.unset t.location)

def makeDirectory (d : Disk) (path : String) : Except FileFault Disk := do
  let t ← d.resolve path
  match d.node? t.location with
  | some _ => .error .exists
  | none => .ok (d.set t.location .directory)

/-- A directory at a path, new or not; otherwise the fault. -/
def ensureDirectory (d : Disk) (path : String) : Except FileFault Disk :=
  match d.makeDirectory path with
  | .ok d => .ok d
  | .error fault =>
    match d.isDirectory path with
    | .ok true => .ok d
    | _ => .error fault

/-- A directory and all that it stands in, at most `fuel` levels. A directory is first tried
alone, and its parent is made only where it is missing. -/
def makeDirectories (d : Disk) (path : String) : Nat → Except FileFault Disk
  | 0 => .error .missing
  | fuel + 1 =>
    if path = "" then .ok d
    else
      match d.ensureDirectory path with
      | .error .missing =>
        match Path.parent? path with
        | none => .error .missing
        | some parent => do
          let d ← makeDirectories d parent fuel
          d.ensureDirectory path
      | result => result

def makePath (d : Disk) (path : String) : Except FileFault Disk :=
  d.makeDirectories path (path.length + 1)

/-! ## Contents -/

/-- The location is a directory or stands in it. -/
def isWithin (directory l : Location) : Bool :=
  l = directory || (directory ++ "/").toList.isPrefixOf l.toList

/-- Whatever is at a path, with all that stands in it. -/
def removeAll (d : Disk) (path : String) : Except FileFault Disk := do
  let t ← d.resolve path
  match d.node? t.location with
  | none => .error .missing
  | some _ => .ok { d with nodes := d.nodes.filter fun l _ => !isWithin t.location l }

/-- The files below the home directory, by their paths from there. -/
def files (d : Disk) : List (String × Text.Bytes) :=
  d.nodes.entries.filterMap fun (l, n) =>
    match n with
    | .file content =>
      if l ≠ d.home ∧ isWithin d.home l then
        some (String.ofList (l.toList.drop (d.home.length + 1)), content)
      else none
    | _ => none

end Disk

end Telemetry
