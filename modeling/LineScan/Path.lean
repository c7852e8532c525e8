/-!
# Paths

A path is a root, if it is absolute, and a list of names. Empty names and `.` are dropped when a
path is read; `..` is kept, because what it means depends on the file tree.
-/

namespace LineScan

/-- A file path. -/
structure Path where
  /-- One slash, two slashes, or nothing for a relative path. -/
  root : String
  parts : List String
  deriving DecidableEq, Repr

namespace Path

/-- Split a text at slashes, on top of the characters of the open name, last first. -/
def splitSlashes (current : List Char) : List Char → List (List Char)
  | [] => [current.reverse]
  | c :: rest =>
    if c == '/' then current.reverse :: splitSlashes [] rest else splitSlashes (c :: current) rest

/-- The root of a path: exactly two leading slashes are a root of their own. -/
def rootOf : List Char → String
  | '/' :: '/' :: '/' :: _ => "/"
  | '/' :: '/' :: _ => "//"
  | '/' :: _ => "/"
  | _ => ""

/-- Read a path. -/
def ofText (text : String) : Path where
  root := rootOf text.toList
  parts := ((splitSlashes [] text.toList).map String.ofList).filter fun p => p != "" && p != "."

/-- The working directory. -/
def here : Path := ⟨"", []⟩

/-- The text of a path; the working directory is a point. -/
def text (p : Path) : String :=
  if p.root.isEmpty && p.parts.isEmpty then "." else p.root ++ String.intercalate "/" p.parts

/-- The path without its last name. -/
def parent (p : Path) : Path := { p with parts := p.parts.dropLast }

/-- The path with one more name. -/
def child (p : Path) (name : String) : Path := { p with parts := p.parts ++ [name] }

/-- No file can have a path with a NUL in it. -/
def hasNul (p : Path) : Bool := p.text.toList.contains '\x00'

end Path

end LineScan
