import HexEditor.Text

/-!
# Files

A working directory with the files that are known in it. A file is found under the path it was
listed with. The only directories that a path can name are the working directory and those above it.
-/

namespace HexEditor

inductive FileError
  | notFound
  | noDevice
  | notDirectory
  | isDirectory
  | nameTooLong
  | nulCharacter
deriving DecidableEq, Repr

def FileError.message : FileError → String
  | notFound => "No such file or directory (os error 2)"
  | noDevice => "No such device (os error 19)"
  | notDirectory => "Not a directory (os error 20)"
  | isDirectory => "Is a directory (os error 21)"
  | nameTooLong => "File name too long (os error 36)"
  | nulCharacter => "file name contained an unexpected NUL byte"

structure Folder where
  files : List (String × Bytes) := []
deriving Repr, Inhabited

namespace Folder

inductive Access
  | read
  | write
deriving DecidableEq, Repr

inductive Directory
  | working
  /-- One above the working directory, whose files are not known. -/
  | outer
deriving DecidableEq, Repr

inductive Place
  | directory
  /-- A file of the folder, or the place for one. -/
  | file (name : String)
deriving DecidableEq, Repr

def nameLimit : Nat := 255

def pathLimit : Nat := 4096

/-- The parts of a path. Repeated slashes count once. -/
def parts (path : String) : List String :=
  (path.splitOn "/").filter (· ≠ "")

/-- Last part of a path; a path without one stands for itself. -/
def baseName (path : String) : String :=
  (((parts path).filter (· ≠ ".")).getLast?.filter (· ≠ "..")).getD path

variable (folder : Folder)

def content? (name : String) : Option Bytes :=
  folder.files.lookup name

def hasFile : Directory → String → Bool
  | .working, name => (folder.content? name).isSome
  | .outer, _ => false

/-- Why a path cannot go on below a name: the name is not that of a directory. -/
def noWayBelow (directory : Directory) (name : String) : FileError :=
  if nameLimit < name.utf8ByteSize then .nameTooLong
  else if folder.hasFile directory name then .notDirectory
  else .notFound

/-- Follow the parts of a path. A slash behind the last name asks for a directory, which is refused
for writing before the name is looked up. -/
def follow (access : Access) (slash : Bool) : Directory → List String → Except FileError Place
  | _, [] => .ok .directory
  | directory, name :: rest =>
    if name = "." then follow access slash directory rest
    else if name = ".." then follow access slash .outer rest
    else if rest ≠ [] then .error (folder.noWayBelow directory name)
    else if slash then
      .error (if access = .write then .isDirectory else folder.noWayBelow directory name)
    else if nameLimit < name.utf8ByteSize then .error .nameTooLong
    else if directory = .working then .ok (.file name)
    else .error .notFound

def locate (access : Access) (path : String) : Except FileError Place :=
  if '\x00' ∈ path.toList then .error .nulCharacter
  else if pathLimit ≤ path.utf8ByteSize then .error .nameTooLong
  else if path = "" then .error .notFound
  else if folder.hasFile .working path then .ok (.file path)
  else folder.follow access (path.endsWith "/") (if path.startsWith "/" then .outer else .working)
    (parts path)

def find (path : String) : Except FileError (String × Bytes) := do
  match ← folder.locate .read path with
  | .directory => throw .isDirectory
  | .file name =>
    match folder.content? name with
    | some bytes => return (name, bytes)
    | none => throw .notFound

def read (path : String) : Except FileError Bytes :=
  Prod.snd <$> folder.find path

def write (path : String) (bytes : Bytes) : Except FileError Folder := do
  match ← folder.locate .write path with
  | .directory => throw .isDirectory
  | .file name => return ⟨(name, bytes) :: folder.files.filter (·.1 ≠ name)⟩

end Folder

end HexEditor
