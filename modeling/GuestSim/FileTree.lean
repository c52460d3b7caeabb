import GuestSim.CommandLine

/-! A file system in memory, as a host for the command line. It has files in a working directory,
the usual directories at the root, and a null device. -/

namespace GuestSim

/-- A directory, as seen from the working directory or from the root. -/
inductive Folder where
  | working
  /-- One level and `more` above the working directory, and below the root. -/
  | above (more : Nat)
  | root
  /-- A directory in the root. -/
  | top (name : String)
deriving DecidableEq, Repr

/-- What exists under a name. -/
inductive FileNode where
  | folder (f : Folder)
  | file (data : List UInt8)
  /-- Reads as empty, and takes whatever is written. -/
  | nullDevice
deriving DecidableEq, Repr

def FileNode.isFolder : FileNode → Bool
  | .folder _ => true
  | _ => false

/-- A path taken apart. Empty parts, which repeated slashes make, are left out. -/
structure PathName where
  absolute : Bool
  parts : List String
  /-- The path ends in a slash. -/
  trailing : Bool
deriving DecidableEq, Repr

namespace PathName

/-- The bytes of one name at most. -/
def maxName : Nat := 255

/-- The bytes of a whole path at most. -/
def maxPath : Nat := 4095

def parse (path : String) : Except FileError PathName :=
  if path.contains '\x00' then .error .nullInPath
  else if path.isEmpty then .error .notFound
  else if maxPath < path.utf8ByteSize then .error .nameTooLong
  else .ok {
    absolute := path.startsWith "/"
    parts := (path.splitOn "/").filter (· ≠ "")
    trailing := path.endsWith "/" }

def start (path : PathName) : Folder := if path.absolute then .root else .working

end PathName

/-- The files, each with the directory that holds it and its name there. -/
structure FileTree where
  files : List ((Folder × String) × List UInt8) := []
  /-- How many directories lie between the working directory and the root. -/
  between : Nat := 1

namespace FileTree

/-- The directory one level and `more` above the working directory. The root is the last. -/
def ancestor (tree : FileTree) (more : Nat) : Folder :=
  if more < tree.between then .above more else .root

/-- The directory above another; the root is above itself. -/
def parent (tree : FileTree) : Folder → Folder
  | .working => tree.ancestor 0
  | .above more => tree.ancestor (more + 1)
  | .root | .top _ => .root

/-- The directories at the root. -/
def topFolders : List String :=
  ["bin", "boot", "dev", "etc", "home", "lib", "media", "mnt", "opt", "proc", "root", "run",
    "sbin", "srv", "sys", "tmp", "usr", "var"]

/-- What a directory holds under a name. -/
def lookup (tree : FileTree) (folder : Folder) (name : String) : Except FileError FileNode :=
  if PathName.maxName < name.utf8ByteSize then .error .nameTooLong
  else if folder = .root ∧ topFolders.contains name then .ok (.folder (.top name))
  else if folder = .top "dev" ∧ name = "null" then .ok .nullDevice
  else (tree.files.lookup (folder, name)).elim (.error .notFound) (.ok <| .file ·)

/-- One step of a path. Only directories have anything below them. -/
def step (tree : FileTree) (node : FileNode) (part : String) : Except FileError FileNode :=
  match node with
  | .folder folder =>
    if part = "." then .ok node
    else if part = ".." then .ok (.folder (tree.parent folder))
    else tree.lookup folder part
  | _ => .error .notDirectory

def walk (tree : FileTree) (start : Folder) (parts : List String) : Except FileError FileNode :=
  parts.foldlM tree.step (.folder start)

def read (tree : FileTree) (path : String) : Except FileError (List UInt8) := do
  let path ← PathName.parse path
  let node ← tree.walk path.start path.parts
  if path.trailing ∧ !node.isFolder then throw .notDirectory
  match node with
  | .folder _ => throw .isDirectory
  | .file data => return data
  | .nullDevice => return []

/-- Writes a file, in the place of one that exists. A name that asks for a directory is refused,
whether there is one or not. -/
def write (tree : FileTree) (path : String) (data : List UInt8) : Except FileError FileTree := do
  let path ← PathName.parse path
  let some name := path.parts.getLast? | throw .isDirectory
  let .folder folder ← tree.walk path.start path.parts.dropLast | throw .notDirectory
  if path.trailing ∨ name = "." ∨ name = ".." then throw .isDirectory
  match tree.lookup folder name with
  | .ok (.folder _) => throw .isDirectory
  | .ok .nullDevice => return tree
  | .ok (.file _) | .error .notFound =>
    return { tree with files := ((folder, name), data) :: tree.files }
  | .error e => throw e

/-- The clock stands still. -/
def host : CommandLine.Host (StateM FileTree) where
  readFile path := return (← get).read path
  writeFile path lines := modifyGet fun tree =>
    match tree.write path (CommandLine.textBytes lines) with
    | .ok tree => (.ok (), tree)
    | .error e => (.error e, tree)
  now := return 0

end FileTree

end GuestSim
