import LineScan.Path
import LineScan.Text.Quoted

/-!
# Files

What a path leads to, in a tree of directories and files without links. An absolute path starts at
the root of the tree, a relative one at the working directory.
-/

namespace LineScan

/-- An error of the operating system. -/
structure OsError where
  code : Nat
  text : String
  deriving DecidableEq, Repr

namespace OsError

/-- There is nothing by that name. -/
def missing : OsError := ⟨2, "No such file or directory"⟩

/-- A name on the way is a file. -/
def notDirectory : OsError := ⟨20, "Not a directory"⟩

/-- A file was wanted, and there is a directory. -/
def isDirectory : OsError := ⟨21, "Is a directory"⟩

/-- What is open does not lead to a file. -/
def badDescriptor : OsError := ⟨9, "Bad file descriptor"⟩

/-- Links on the way lead in a circle. -/
def linkLoop : OsError := ⟨40, "Too many levels of symbolic links"⟩

/-- The error tells that there is no file by that name. -/
def meansNoFile (e : OsError) : Bool :=
  [missing, badDescriptor, notDirectory, linkLoop].any fun other => e.code == other.code

/-- There is no room for what was written. -/
def noSpace : OsError := ⟨28, "No space left on device"⟩

/-- A name has more than 255 bytes. -/
def nameTooLong : OsError := ⟨36, "File name too long"⟩

/-- The wording of an error about no path. -/
def summary (e : OsError) : String := s!"[Errno {e.code}] {e.text}"

/-- The wording of an error about a path. -/
def message (e : OsError) (path : Path) : String := s!"{e.summary}: {Text.quoted path.text}"

end OsError

/-- A device, which keeps nothing. -/
inductive Device where
  /-- It takes whatever is written, and reads as empty. -/
  | null
  /-- It has no room for anything, and reads as NULs without an end. -/
  | full
  deriving DecidableEq, Repr

/-- What the system denies of a file that is there. -/
structure Denied where
  reading : Option OsError := none
  writing : Option OsError := none
  deriving DecidableEq, Repr

/-- What a path leads to. A location names a file whatever the path that led to it. -/
inductive Node where
  | file (location : String) (content : ByteArray) (denied : Denied := {})
  | device (kind : Device)
  | directory
  /-- Nothing yet, in a directory that exists, though perhaps no file may be made there. -/
  | vacant (location : String) (denied : Option OsError := none)
  | blocked (cause : OsError)

/-- A tree of files, by their names from the root on. -/
structure FileTree where
  files : List (List String × ByteArray) := []
  directories : List (List String) := []
  devices : List (List String × Device) := []
  /-- The working directory, where relative paths start. -/
  here : List String := []

namespace FileTree

/-- The directories that every system has. -/
def standardDirectories : List (List String) :=
  ["bin", "dev", "etc", "home", "lib", "mnt", "opt", "proc", "root", "run", "sbin", "srv", "sys",
    "tmp", "usr", "var"].map ([·])

/-- The devices that every system has. -/
def standardDevices : List (List String × Device) :=
  [(["dev", "null"], .null), (["dev", "full"], .full)]

/-- A working directory with files and directories below it, in a system that has nothing else but
what every system has. It lies below a directory for temporary files, in a directory of its own. -/
def around (files : List (List String × ByteArray)) (directories : List (List String)) :
    FileTree :=
  let here := ["tmp", "session", "work"]
  { files := files.map fun (names, content) => (here ++ names, content)
    directories := standardDirectories ++ here :: directories.map (here ++ ·)
    devices := standardDevices
    here := here }

/-- There is a directory by these names: it is listed, or something is listed below it. -/
def isDirectory (t : FileTree) (names : List String) : Bool :=
  names.isEmpty || t.directories.any names.isPrefixOf
    || t.files.any fun (file, _) => names.isPrefixOf file && names.length < file.length

/-- The longest name, in bytes. -/
def nameLimit : Nat := 255

/-- The location of a file. -/
def location (names : List String) : String := "/" ++ String.intercalate "/" names

/-- What there is by these names, if it is no directory. -/
def leaf (t : FileTree) (names : List String) : Option Node :=
  match t.files.lookup names with
  | some content => some (.file (location names) content)
  | none => (t.devices.lookup names).map .device

/-- Follow names from a directory. The root is the directory above itself. -/
def follow (t : FileTree) (place : List String) : List String → Node
  | [] => .directory
  | name :: rest =>
    if name == ".." then follow t place.dropLast rest
    else if name.utf8ByteSize > nameLimit then .blocked .nameTooLong
    else
      let place := place ++ [name]
      if t.isDirectory place then follow t place rest
      else match t.leaf place with
        | some node => if rest.isEmpty then node else .blocked .notDirectory
        | none => if rest.isEmpty then .vacant (location place) else .blocked .missing

/-- The longest path, in bytes. -/
def pathLimit : Nat := 4095

/-- What a path leads to. -/
def look (t : FileTree) (path : Path) : Node :=
  if path.text.utf8ByteSize > pathLimit then .blocked .nameTooLong
  else t.follow (if path.root.isEmpty then t.here else []) path.parts

/-- Writing a file at a location changes what lies below the working directory: there was no such
file, or it had another content. The answer is the name of the file from there on. -/
def changed? (t : FileTree) (location : String) (content : ByteArray) : Option String :=
  let names := (Path.ofText location).parts
  if t.here.isPrefixOf names && t.files.lookup names != some content then
    some (String.intercalate "/" (names.drop t.here.length))
  else
    none

end FileTree

end LineScan
