/-
Paths as text: where a path's parts begin and end.

A path is cut at its slashes. Empty parts count for nothing, and neither does a
dot, unless a relative path begins with it. What is left of a path keeps its
spelling.
-/

namespace Telemetry.Path

abbrev Part := List Char

def cut : List Char → Part × List Part
  | [] => ([], [])
  | c :: cs =>
    let (first, rest) := cut cs
    if c = '/' then ([], first :: rest) else (c :: first, rest)

def parts (path : List Char) : List Part :=
  let (first, rest) := cut path
  first :: rest

def glue : List Part → List Char
  | [] => []
  | [part] => part
  | part :: rest => part ++ '/' :: glue rest

def isAbsolute (path : String) : Bool :=
  path.toList.head? = some '/'

/-- Without the parts at the end that count for nothing; parts stand last first. -/
def trimmed : List Part → List Part
  | [] => []
  | [first] => if first = [] then [] else [first]
  | part :: rest => if part = [] ∨ part = ['.'] then trimmed rest else part :: rest

/-- The parts of a path, last first, without those at the end that count for nothing. -/
def reversed (path : String) : List Part :=
  trimmed (parts path.toList).reverse

/-- What the last part stands in; the root and the empty path stand in nothing. -/
def parent? (path : String) : Option String :=
  match reversed path with
  | [] => none
  | _ :: rest =>
    match trimmed rest with
    | [] => some (if isAbsolute path then "/" else "")
    | rest => some (String.ofList (glue rest.reverse))

/-- The last part, if it is a name. -/
def fileName? (path : String) : Option String :=
  match reversed path with
  | [] => none
  | last :: _ => if last = ['.'] ∨ last = ['.', '.'] then none else some (String.ofList last)

/-- A name below a path; an absolute one replaces the path. -/
def child (path name : String) : String :=
  if isAbsolute name ∨ path = "" then name
  else if path.toList.getLast? = some '/' then path ++ name
  else path ++ "/" ++ name

def withFileName (path name : String) : String :=
  match fileName? path with
  | none => child path name
  | some _ => child ((parent? path).getD "") name

/-- The path of the sibling to write before a file is replaced. -/
def temporary (path : String) : String :=
  withFileName path ((fileName? path).getD "" ++ ".tmp")

end Telemetry.Path
