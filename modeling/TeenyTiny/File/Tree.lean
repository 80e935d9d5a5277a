import TeenyTiny.File.Path

/-!
# File trees

The files and directories of a system, and the working directory, in which paths
start.  An entry is known by the names that lead to it from the root.  The root,
the working directory and the directories around it are always there.
-/

namespace TeenyTiny

/-- Why a file cannot be read or written. -/
inductive FileFault where
  | notFound
  | isDirectory
  | notDirectory
  | busy
  | nameTooLong
  | nameUnusable
  | notText
  | other (reason : String)
  deriving DecidableEq, Repr

/-- The reason as the system words it. -/
def FileFault.message : FileFault → String
  | .notFound => "No such file or directory (os error 2)"
  | .isDirectory => "Is a directory (os error 21)"
  | .notDirectory => "Not a directory (os error 20)"
  | .busy => "Device or resource busy (os error 16)"
  | .nameTooLong => "File name too long (os error 36)"
  | .nameUnusable => "file name contained an unexpected NUL byte"
  | .notText => "stream did not contain valid UTF-8"
  | .other reason => reason

/-- The names that lead from the root to an entry. -/
abbrev Location : Type :=
  List String

/-- A directory, or a file with its permissions and its bytes. -/
inductive Entry where
  | directory
  | file (mode : Nat) (bytes : ByteArray)

/-- The entries of a system besides the directories that are always there. -/
structure FileTree where
  working : Location
  entries : List (Location × Entry)

namespace FileTree

/-- There is nothing but the working directory and the directories around it. -/
def empty : FileTree :=
  ⟨["tmp", "work"], []⟩

def get? (tree : FileTree) (location : Location) : Option Entry :=
  if location.isPrefixOf tree.working then some .directory
  else tree.entries.lookup location

def erase (tree : FileTree) (location : Location) : FileTree :=
  { tree with entries := tree.entries.filter fun entry => entry.1 ≠ location }

/-- The tree with an entry at a location, in place of the one that was there. -/
def insert (tree : FileTree) (location : Location) (entry : Entry) : FileTree :=
  { tree with entries := (location, entry) :: (tree.erase location).entries }

/-- Makes directories from a location on, one inside the other, where there are
none. -/
def insertDirectories (tree : FileTree) (location : Location) :
    List String → FileTree
  | [] => tree
  | name :: rest =>
      let inner := location ++ [name]
      let tree :=
        if (tree.get? inner).isSome then tree
        else tree.insert inner .directory
      tree.insertDirectories inner rest

/-- The tree with an entry at the end of names that start in the working
directory, and with the directories around it. -/
def place (tree : FileTree) (names : List String) : Entry → FileTree
  | .directory => tree.insertDirectories tree.working names
  | .file mode bytes =>
      (tree.insertDirectories tree.working names.dropLast).insert
        (tree.working ++ names) (.file mode bytes)

/-- The permissions in a mode, without the bits that have other meanings. -/
def permissions (mode : Nat) : Nat :=
  mode % 0o1000

/-- The entries under the working directory with their paths in it, ascending by
path. -/
def listing (tree : FileTree) : List (String × Entry) :=
  let inside := tree.entries.filter fun entry => tree.working.isPrefixOf entry.1
  let paths := inside.map fun entry =>
    ("/".intercalate (entry.1.drop tree.working.length), entry.2)
  paths.mergeSort fun first second => first.1 ≤ second.1

/-! ## Finding a location -/

def checkPath (path : Path) : Except FileFault Unit :=
  if '\x00' ∈ path.text.toList then .error .nameUnusable
  else if Path.maxLength < path.text.utf8ByteSize then .error .nameTooLong
  else .ok ()

def checkName (name : String) : Except FileFault Unit :=
  if Path.maxNameLength < name.utf8ByteSize then .error .nameTooLong else .ok ()

/-- Follows names from a directory on.  Every name but the last has to lead to a
directory, and the last one to some entry. -/
def walk (tree : FileTree) (location : Location) :
    List String → Except FileFault Location
  | [] => .ok location
  | name :: rest =>
      match tree.get? location with
      | none => .error .notFound
      | some (.file _ _) => .error .notDirectory
      | some .directory =>
          if name = "." then tree.walk location rest
          else if name = ".." then tree.walk location.dropLast rest
          else do
            checkName name
            if (tree.get? (location ++ [name])).isSome then
              tree.walk (location ++ [name]) rest
            else throw .notFound

/-- The location where the names of a path start. -/
def start (tree : FileTree) (path : Path) : Location :=
  if path.absolute then [] else tree.working

/-- The location of the directory that names lead to from a location. -/
def findDirectory (tree : FileTree) (location : Location)
    (names : List String) : Except FileFault Location := do
  let location ← tree.walk location names
  match tree.get? location with
  | some .directory => return location
  | _ => throw .notDirectory

def find (tree : FileTree) (path : Path) : Except FileFault Location := do
  checkPath path
  if path.text = "" then throw .notFound
  else if path.slashed then tree.findDirectory (tree.start path) path.names
  else tree.walk (tree.start path) path.names

/-- The location that a file gets when it is given a path. -/
def findTarget (tree : FileTree) (path : Path) : Except FileFault Location := do
  checkPath path
  match path.names.getLast? with
  | none => throw (if path.absolute then .busy else .notFound)
  | some name =>
      let folder ← tree.findDirectory (tree.start path) path.names.dropLast
      if name = "." ∨ name = ".." then throw .busy
      checkName name
      if path.slashed then throw .notDirectory
      match tree.get? (folder ++ [name]) with
      | some .directory => throw .isDirectory
      | _ => return folder ++ [name]

/-! ## Reading files -/

def readText (tree : FileTree) (path : String) : Except FileFault String := do
  let location ← tree.find ⟨path⟩
  match tree.get? location with
  | some (.file _ bytes) =>
      match String.fromUTF8? bytes with
      | some text => return text
      | none => throw .notText
  | some .directory => throw .isDirectory
  | none => throw .notFound

end FileTree

end TeenyTiny
