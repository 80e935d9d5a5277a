import TeenyTiny.File.Tree
import TeenyTiny.Text.Quoted

/-!
# Replacing files

Bytes that go to a file are first written to a new file in the same directory,
which takes the path of the file only when it is complete.  The host, on which
the files are, gives the new file its name and may refuse any step; the new file
is removed then.
-/

namespace TeenyTiny

/-- A step on the way to a replaced file. -/
inductive StoringStep where
  | create
  | write
  | flush
  | setMode
  | rename
  deriving DecidableEq, Repr

/-- All steps, in order. -/
def StoringStep.all : List StoringStep :=
  [.create, .write, .flush, .setMode, .rename]

/-- Why a file is not replaced.  If the new file cannot be made or written, the
failure tells the place of that file. -/
structure FileFailure where
  fault : FileFault
  place : Option String
  deriving DecidableEq, Repr

instance : Coe FileFailure FileFault :=
  ⟨FileFailure.fault⟩

def FileFailure.message (failure : FileFailure) : String :=
  match failure.place with
  | none => failure.fault.message
  | some place => failure.fault.message ++ " at path " ++ place

/-- No name on the way from a location leads to the named entry of a folder. -/
def FileTree.Misses (tree : FileTree) (location : Location)
    (names : List String) (folder : Location) (name : String) : Prop :=
  ∀ front rest, names = front ++ name :: rest →
    tree.walk location front ≠ .ok folder

/-- What the host decides.  The name of a new file is assumed to be fresh: the
directory has no entry of this name, and the path of the file that is replaced
does not lead to one.  How the place of the new file is worded is left to the
host.  A refused step has a reason that does not lie in the tree, and a refused
write has taken some bytes already. -/
structure Host where
  newName : FileTree → Location → Path → String
  newName_absent : ∀ (tree : FileTree) (folder : Location) (path : Path),
    tree.get? (folder ++ [newName tree folder path]) = none
  newName_misses : ∀ (tree : FileTree) (folder : Location) (path : Path),
    tree.Misses (tree.start path) path.names folder (newName tree folder path)
  placeText : FileTree → Path → String
  refusal : StoringStep → Option FileFault
  taken : Nat

/-- The name of a new file; its end is made up until it is new. -/
def scratchName : String :=
  ".tmpXXXXXX"

/-- The number of characters in all names together. -/
def totalLength : List String → Nat
  | [] => 0
  | name :: rest => name.length + totalLength rest

theorem length_le_totalLength {names : List String} {name : String}
    (member : name ∈ names) :
    name.length ≤ totalLength names := by
  induction names with
  | nil =>
      cases member
  | cons first rest inductionHypothesis =>
      rw [totalLength]
      rcases List.mem_cons.mp member with rfl | later
      · omega
      · have bound := inductionHypothesis later
        omega

/-- A name that is longer than the given ones together. -/
def freshName (names : List String) : String :=
  String.ofList (scratchName.toList ++ List.replicate (totalLength names) 'x')

theorem freshName_notMem (names : List String) : freshName names ∉ names := by
  intro member
  have bound := length_le_totalLength member
  have longer : (freshName names).length =
      scratchName.toList.length + totalLength names := by
    rw [freshName, String.length_ofList, List.length_append,
      List.length_replicate]
  have nonempty : 0 < scratchName.toList.length := by decide
  omega

namespace FileTree

/-- The names of all entries. -/
def names (tree : FileTree) : List String :=
  tree.working ++ tree.entries.flatMap (·.1)

theorem get?_eq_none_of_notMem {tree : FileTree} {name : String}
    (new : name ∉ tree.names)
    (folder : Location) :
    tree.get? (folder ++ [name]) = none := by
  rw [names, List.mem_append, not_or, List.mem_flatMap] at new
  have inside : name ∈ folder ++ [name] := by simp
  have outside : (folder ++ [name]).isPrefixOf tree.working = false := by
    rw [Bool.eq_false_iff]
    intro front
    exact new.1 ((List.isPrefixOf_iff_prefix.mp front).subset inside)
  rw [get?, if_neg (by simp [outside]), List.lookup_eq_none_iff]
  intro entry member
  rw [bne_iff_ne]
  intro same
  rw [same] at inside
  exact new.2 ⟨entry, member, inside⟩

theorem misses_of_notMem {names : List String} {name : String}
    (new : name ∉ names)
    (tree : FileTree) (location folder : Location) :
    tree.Misses location names folder name := by
  intro front rest split
  exact absurd (by simp [split]) new

/-- The path from the root that a path means. -/
def fullPath (tree : FileTree) (path : Path) : Path :=
  path.startingAt ⟨"/" ++ "/".intercalate tree.working⟩

/-- The location of the directory in which the file at a path is made. -/
def findFolder (tree : FileTree) (path : Path) : Except FileFault Location := do
  let folder := tree.fullPath path.folder
  checkPath (folder.child scratchName)
  tree.findDirectory [] folder.names

end FileTree

/-- A host that refuses nothing. -/
def Host.obliging : Host where
  newName tree _ path := freshName (tree.names ++ path.names)
  newName_absent tree folder path := by
    apply FileTree.get?_eq_none_of_notMem
    intro member
    exact freshName_notMem _ (List.mem_append_left path.names member)
  newName_misses tree folder path := by
    apply FileTree.misses_of_notMem
    intro member
    exact freshName_notMem _ (List.mem_append_right tree.names member)
  placeText tree path :=
    quoteText ((tree.fullPath path.folder).child
      (freshName (tree.names ++ path.names))).text
  refusal _ := none
  taken := 0

namespace FileTree

/-- The permissions of a file that did not exist before. -/
def newMode : Nat :=
  0o644

/-- The permissions of a file while it is being written. -/
def privateMode : Nat :=
  0o600

/-- The permissions that a file at a path gets: those of the file that it
replaces. -/
def modeFor (tree : FileTree) (path : Path) : Nat :=
  match tree.find path with
  | .error _ => newMode
  | .ok location =>
      match tree.get? location with
      | some (.file mode _) => mode
      | _ => newMode

/-- Gives the entry at a location another path, at which it replaces a file but
no directory. -/
def rename (tree : FileTree) (location : Location) (path : Path) :
    Except FileFault FileTree := do
  let target ← tree.findTarget path
  match tree.get? location with
  | none => throw .notFound
  | some entry => return (tree.erase location).insert target entry

/-- Writes bytes to the new file at a location. -/
def fill (tree : FileTree) (host : Host) (scratch : Location)
    (bytes : ByteArray) : Except FileFault Unit × FileTree :=
  match host.refusal .write with
  | some fault =>
      let part := bytes.extract 0 host.taken
      (.error fault, tree.insert scratch (.file privateMode part))
  | none =>
      let written := tree.insert scratch (.file privateMode bytes)
      match host.refusal .flush with
      | some fault => (.error fault, written)
      | none => (.ok (), written)

/-- Gives the new file at a location the permissions and the path of the file
that it replaces. -/
def settle (tree : FileTree) (host : Host) (scratch : Location) (path : Path)
    (bytes : ByteArray) : Except FileFault Unit × FileTree :=
  match host.refusal .setMode with
  | some fault => (.error fault, tree)
  | none =>
      let ready := tree.insert scratch (.file (tree.modeFor path) bytes)
      match host.refusal .rename with
      | some fault => (.error fault, ready)
      | none =>
          match ready.rename scratch path with
          | .error fault => (.error fault, ready)
          | .ok done => (.ok (), done)

/-- Completes the new file at a location, which then takes the path. -/
def complete (tree : FileTree) (host : Host) (scratch : Location)
    (place : String) (path : Path) (bytes : ByteArray) :
    Except FileFailure Unit × FileTree :=
  match tree.fill host scratch bytes with
  | (.error fault, left) => (.error ⟨fault, some place⟩, left)
  | (.ok (), written) =>
      match written.settle host scratch path bytes with
      | (.error fault, left) => (.error ⟨fault, none⟩, left)
      | (.ok (), done) => (.ok (), done)

/-- Stores bytes in the file at a path.  They go to a new file beside it, which
takes the path only when it is complete and is removed if that fails. -/
def replaceFile (tree : FileTree) (host : Host) (path : Path)
    (bytes : ByteArray) : Except FileFailure Unit × FileTree :=
  let place := host.placeText tree path
  match host.refusal .create with
  | some fault => (.error ⟨fault, some place⟩, tree)
  | none =>
      match tree.findFolder path with
      | .error fault => (.error ⟨fault, some place⟩, tree)
      | .ok folder =>
          let scratch := folder ++ [host.newName tree folder path]
          let created := tree.insert scratch (.file privateMode .empty)
          match created.complete host scratch place path bytes with
          | (.error failure, left) => (.error failure, left.erase scratch)
          | (.ok (), done) => (.ok (), done)

end FileTree

end TeenyTiny
