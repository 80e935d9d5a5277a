import TeenyTiny.Compile
import TeenyTiny.Diagnostic
import TeenyTiny.File.Replacement
import TeenyTiny.Settings

/-!
# Stores

A store is a place that keeps texts in files.  The program is written for any
store; a file tree is one, and the files of the system are another.
-/

namespace TeenyTiny

/-- How files are read and replaced. -/
structure Store (m : Type → Type) where
  /-- The text of the file at a path. -/
  read : (path : String) → m (Except FileFault String)
  /-- Stores a text in the file at a path, or leaves all files as they are. -/
  replace : (path text : String) → m (Except FileFailure Unit)

def FileTree.storeOn (host : Host) : Store (StateM FileTree) where
  read path := fun tree => (tree.readText path, tree)
  replace path text := fun tree => tree.replaceFile host ⟨path⟩ text.toUTF8

/-- A file tree as a store that refuses nothing but what the tree forbids. -/
def FileTree.store : Store (StateM FileTree) :=
  FileTree.storeOn .obliging

/-- Why the work on a source failed. -/
inductive Failure where
  | fault (fault : Fault)
  | file (failure : FileFailure)
  deriving DecidableEq, Repr

def Failure.diagnostic : Failure → Diagnostic
  | fault reason => reason.diagnostic
  | file reason => .file reason.message

variable {m : Type → Type} [Monad m]

def Page.storeAt (page : Page) (store : Store m) (path : String) :
    m (Traced Failure Unit) := do
  match ← store.replace path page.text with
  | .error failure => return .fail (.file failure)
  | .ok () => return .note (.wrote page.text.utf8ByteSize path)

structure StoredPage where
  path : String
  page : Page

/-- Stores the program of a source in C where the settings say.  Nothing is
stored when the source is refused. -/
def compileToStore (store : Store m) (source : List Char)
    (settings : Settings) : m (Traced Failure StoredPage) := do
  let page := Page.empty settings.indentWidth
  let compiled := (compileOnto source page).mapFailure .fault
  match compiled.result with
  | .error failure => return ⟨compiled.events, .error failure⟩
  | .ok page =>
      let stored ← page.storeAt store settings.output
      return ⟨compiled.events ++ stored.events,
        stored.result.map fun _ => ⟨settings.output, page⟩⟩

end TeenyTiny
