import TeenyTiny.File.Store
import TeenyTiny.Proofs.Regions
import TeenyTiny.Proofs.Walks

/-!
# Replaced files

A new file that is written beside the file it shall replace lies on no path that
is looked up in between (`FileTree.findTarget_insert`,
`FileTree.modeFor_insert`).  So replacing a file either fails at the first step
that the host or the tree does not allow, and leaves the tree as it was, or it
puts the bytes at the end of the path (`FileTree.replaceFile_cases`).  The same
holds of the program of a source (`compileToStore_replaces_or_keeps`).
-/

namespace TeenyTiny

namespace FileTree

/-! ## A new entry -/

section NewEntry

variable {tree : FileTree} {folder location result : Location}
  {names : List String} {new : String} {path : Path}

theorem not_prefix_step {name : String}
    (outside : ¬ folder ++ [new] <+: location)
    (different : location ++ [name] ≠ folder ++ [new]) :
    ¬ folder ++ [new] <+: location ++ [name] := by
  intro inside
  rcases List.prefix_concat_iff.mp inside with same | earlier
  · exact different same.symm
  · exact outside earlier

theorem not_prefix_dropLast
    (outside : ¬ folder ++ [new] <+: location) :
    ¬ folder ++ [new] <+: location.dropLast := by
  intro inside
  exact outside (inside.trans (List.dropLast_prefix location))

/-- A walk does not come to where there is no entry. -/
theorem Walks.avoids
    (walks : tree.Walks location names result)
    (outside : ¬ folder ++ [new] <+: location)
    (absent : tree.get? (folder ++ [new]) = none) :
    ¬ folder ++ [new] <+: result := by
  induction walks with
  | nil location =>
      exact outside
  | stay _ _ inductionHypothesis =>
      exact inductionHypothesis outside
  | up _ _ inductionHypothesis =>
      exact inductionHypothesis (not_prefix_dropLast outside)
  | down _ _ _ found _ inductionHypothesis =>
      apply inductionHypothesis
      apply not_prefix_step outside
      intro same
      rw [same, absent] at found
      cases found

/-- Behind a name that leads to the next location, the rest of the names misses
the same entry. -/
theorem Misses.tail {name : String} {rest : List String} {next : Location}
    (misses : tree.Misses location (name :: rest) folder new)
    (leads : ∀ front,
      tree.walk location (name :: front) = tree.walk next front) :
    tree.Misses next rest folder new := by
  intro front later split walked
  apply misses (name :: front) later
  · rw [split, List.cons_append]
  · rw [leads, walked]

/-- An entry that no name leads to changes no walk. -/
theorem walk_insert
    (outside : ¬ folder ++ [new] <+: location)
    (misses : tree.Misses location names folder new)
    (entry : Entry) :
    (tree.insert (folder ++ [new]) entry).walk location names =
      tree.walk location names := by
  induction names generalizing location with
  | nil =>
      rfl
  | cons name rest inductionHypothesis =>
      have here : (tree.insert (folder ++ [new]) entry).get? location =
          tree.get? location :=
        get?_insert_of_ne (fun same => outside (by simp [same])) entry
      cases occupied : tree.get? location with
      | none =>
          rw [FileTree.walk, FileTree.walk, here, occupied]
      | some held =>
          cases held with
          | file mode bytes =>
              rw [FileTree.walk, FileTree.walk, here, occupied]
          | directory =>
              rw [walk_cons_of_directory occupied,
                walk_cons_of_directory (here.trans occupied)]
              have leads := walk_cons_of_directory occupied name
              by_cases dot : name = "."
              · simp only [if_pos dot] at leads ⊢
                exact inductionHypothesis outside (misses.tail leads)
              · by_cases dots : name = ".."
                · simp only [if_neg dot, if_pos dots] at leads ⊢
                  exact inductionHypothesis (not_prefix_dropLast outside)
                    (misses.tail leads)
                · simp only [if_neg dot, if_neg dots] at leads ⊢
                  -- With no name in front, the walk is at its start still.
                  have different : location ++ [name] ≠ folder ++ [new] := by
                    intro same
                    obtain ⟨rfl, ends⟩ := List.append_inj' same rfl
                    cases ends
                    exact misses [] rest rfl rfl
                  rw [get?_insert_of_ne different]
                  cases taken : checkName name with
                  | error fault =>
                      rfl
                  | ok =>
                      by_cases found :
                          (tree.get? (location ++ [name])).isSome = true
                      · simp only [taken, if_pos found] at leads ⊢
                        exact inductionHypothesis
                          (not_prefix_step outside different)
                          (misses.tail leads)
                      · simp only [if_neg found]

theorem findDirectory_insert
    (absent : tree.get? (folder ++ [new]) = none)
    (outside : ¬ folder ++ [new] <+: location)
    (misses : tree.Misses location names folder new)
    (entry : Entry) :
    (tree.insert (folder ++ [new]) entry).findDirectory location names =
      tree.findDirectory location names := by
  rw [findDirectory, findDirectory, walk_insert outside misses]
  cases walked : tree.walk location names with
  | error fault =>
      rfl
  | ok result =>
      have avoided := (walks_of_walk walked).avoids outside absent
      have same : (tree.insert (folder ++ [new]) entry).get? result =
          tree.get? result :=
        get?_insert_of_ne (fun same => avoided (by simp [same])) entry
      simp only [bind, Except.bind, same]

/-- No path starts behind a location that has no entry. -/
theorem not_prefix_start
    (absent : tree.get? (folder ++ [new]) = none)
    (path : Path) :
    ¬ folder ++ [new] <+: tree.start path := by
  rw [start]
  split
  · simp
  · intro inside
    have outside : (folder ++ [new]).isPrefixOf tree.working = false :=
      isPrefixOf_working_eq_false (by simp [absent])
    rw [List.isPrefixOf_iff_prefix.mpr inside] at outside
    cases outside

section Paths

variable (absent : tree.get? (folder ++ [new]) = none)
  (misses : tree.Misses (tree.start path) path.names folder new)

include absent misses

theorem find_insert (entry : Entry) :
    (tree.insert (folder ++ [new]) entry).find path = tree.find path := by
  have outside := not_prefix_start absent path
  have walked := walk_insert outside misses entry
  have found := findDirectory_insert absent outside misses entry
  rw [find, find, ← walked, ← found]
  rfl

/-- The permissions of the file at a path do not depend on the new entry. -/
theorem modeFor_insert (entry : Entry) :
    (tree.insert (folder ++ [new]) entry).modeFor path = tree.modeFor path := by
  rw [modeFor, modeFor, find_insert absent misses]
  cases found : tree.find path with
  | error fault =>
      rfl
  | ok location =>
      have avoided := (walks_of_walk (walk_of_find found)).avoids
        (not_prefix_start absent path) absent
      have same : (tree.insert (folder ++ [new]) entry).get? location =
          tree.get? location :=
        get?_insert_of_ne (fun same => avoided (by simp [same])) entry
      simp only [same]

/-- What gets a path does not depend on the new entry. -/
theorem findTarget_insert (entry : Entry) :
    (tree.insert (folder ++ [new]) entry).findTarget path =
      tree.findTarget path := by
  have outside := not_prefix_start absent path
  rw [findTarget, findTarget]
  cases last : path.names.getLast? with
  | none =>
      rfl
  | some name =>
      obtain ⟨front, names⟩ := List.getLast?_eq_some_iff.mp last
      have restMisses : tree.Misses (tree.start path) front folder new := by
        intro earlier later split
        apply misses earlier (later ++ [name])
        rw [names, split, List.append_assoc, List.cons_append]
      have kept : (tree.insert (folder ++ [new]) entry).start path =
          tree.start path :=
        rfl
      simp only [names, List.dropLast_concat, kept,
        findDirectory_insert absent outside restMisses]
      cases found : tree.findDirectory (tree.start path) front with
      | error fault =>
          rfl
      | ok place =>
          have walked := (findDirectory_eq_ok_iff.mp found).1
          have different : place ++ [name] ≠ folder ++ [new] := by
            intro same
            obtain ⟨rfl, ends⟩ := List.append_inj' same rfl
            cases ends
            exact misses front [] names walked
          simp only [bind, Except.bind, get?_insert_of_ne different]

end Paths

end NewEntry

/-! ## Replacing a file -/

/-- In the second tree, the file at the path holds the bytes.  It has the
permissions of the file that it replaces, if there was one, and all other
entries are those of the first tree. -/
structure Replaces (before after : FileTree) (path : Path)
    (location : Location) (mode : Nat) (bytes : ByteArray) : Prop where
  working : after.working = before.working
  found : after.find path = .ok location
  holds : after.get? location = some (.file mode bytes)
  noDirectory : before.get? location ≠ some .directory
  keeps : ∀ oldMode oldBytes,
    before.get? location = some (.file oldMode oldBytes) → mode = oldMode
  new : before.get? location = none → mode = 0o644
  others : ∀ other, other ≠ location → after.get? other = before.get? other

theorem Leads.modeFor_of_file {tree : FileTree} {path : Path}
    {folder : Location} {name : String} {mode : Nat} {bytes : ByteArray}
    (leads : tree.Leads path folder name)
    (occupied : tree.get? (folder ++ [name]) = some (.file mode bytes)) :
    tree.modeFor path = mode := by
  have found : tree.find path = .ok (folder ++ [name]) := by
    rw [leads.find_eq, occupied]
    rfl
  rw [modeFor, found]
  simp only [occupied]

theorem Leads.modeFor_of_none {tree : FileTree} {path : Path}
    {folder : Location} {name : String}
    (leads : tree.Leads path folder name)
    (absent : tree.get? (folder ++ [name]) = none) :
    tree.modeFor path = newMode := by
  have missing : tree.find path = .error .notFound := by
    rw [leads.find_eq, absent]
    rfl
  rw [modeFor, missing]

theorem replaces_insert {tree : FileTree} {path : Path} {target : Location}
    (found : tree.findTarget path = .ok target)
    (bytes : ByteArray) :
    tree.Replaces (tree.insert target (.file (tree.modeFor path) bytes)) path
      target (tree.modeFor path) bytes := by
  obtain ⟨folder, name, leads, rfl, noDirectory⟩ :=
    exists_leads_of_findTarget found
  have holds := get?_insert_self noDirectory
    (.file (tree.modeFor path) bytes)
  constructor
  · rfl
  · rw [(leads.insert noDirectory _).find_eq, holds]
    rfl
  · exact holds
  · exact noDirectory
  · intro oldMode oldBytes occupied
    exact leads.modeFor_of_file occupied
  · intro absent
    exact leads.modeFor_of_none absent
  · intro other different
    exact get?_insert_of_ne different _

end FileTree

/-- Why something was not found, if it was not. -/
def reason? {Result : Type} : Except FileFault Result → Option FileFault
  | .error fault => some fault
  | .ok _ => none

/-- Whether the failure of a step tells the place of the new file. -/
def StoringStep.tellsPlace : StoringStep → Bool
  | .create | .write | .flush => true
  | .setMode | .rename => false

/-- Why the tree does not allow a step: there is no directory for the new file,
or nothing can get the path. -/
def FileTree.obstacle? (tree : FileTree) (path : Path) :
    StoringStep → Option FileFault
  | .create => reason? (tree.findFolder path)
  | .rename => reason? (tree.findTarget path)
  | _ => none

namespace Host

/-- How a step fails for a reason. -/
def failure (host : Host) (tree : FileTree) (path : Path) (step : StoringStep)
    (fault : FileFault) : FileFailure :=
  ⟨fault, if step.tellsPlace then some (host.placeText tree path) else none⟩

/-- Why a step fails, if it does. -/
def fault? (host : Host) (tree : FileTree) (path : Path) (step : StoringStep) :
    Option FileFailure :=
  ((host.refusal step).or (tree.obstacle? path step)).map
    (host.failure tree path step)

/-- Why the first of the steps fails that does. -/
def firstFault? (host : Host) (tree : FileTree) (path : Path)
    (steps : List StoringStep) : Option FileFailure :=
  steps.findSome? (host.fault? tree path)

variable (host : Host) (tree : FileTree) (path : Path)

theorem firstFault?_cons (step : StoringStep) (steps : List StoringStep) :
    host.firstFault? tree path (step :: steps) =
      (host.fault? tree path step).or (host.firstFault? tree path steps) := by
  rw [firstFault?, List.findSome?_cons]
  cases host.fault? tree path step <;> rfl

theorem firstFault?_append (steps more : List StoringStep) :
    host.firstFault? tree path (steps ++ more) =
      (host.firstFault? tree path steps).or
        (host.firstFault? tree path more) :=
  List.findSome?_append

end Host

namespace FileTree

section Steps

variable {tree : FileTree} {folder : Location} {new : String} {path : Path}

theorem fill_cases (tree : FileTree) (host : Host) (path : Path)
    (scratch : Location) (first : Entry) (bytes : ByteArray) :
    (∃ fault entry,
      host.firstFault? tree path [.write, .flush] =
          some ⟨fault, some (host.placeText tree path)⟩ ∧
        (tree.insert scratch first).fill host scratch bytes =
          (.error fault, tree.insert scratch entry)) ∨
    (host.firstFault? tree path [.write, .flush] = none ∧
      (tree.insert scratch first).fill host scratch bytes =
        (.ok (), tree.insert scratch (.file privateMode bytes))) := by
  cases write : host.refusal .write with
  | some fault =>
      left
      refine ⟨fault, .file privateMode (bytes.extract 0 host.taken), ?_, ?_⟩
      · simp [Host.firstFault?, Host.fault?, Host.failure,
          StoringStep.tellsPlace, write]
      · simp [fill, write, insert_insert]
  | none =>
      cases flush : host.refusal .flush with
      | some fault =>
          left
          refine ⟨fault, .file privateMode bytes, ?_, ?_⟩
          · simp [Host.firstFault?, Host.fault?, Host.failure,
              StoringStep.tellsPlace, obstacle?, write, flush]
          · simp [fill, write, flush, insert_insert]
      | none =>
          right
          constructor
          · simp [Host.firstFault?, Host.fault?, obstacle?, write, flush]
          · simp [fill, write, flush, insert_insert]

/-- The new entry gets the path as if it had been nowhere before. -/
theorem rename_insert
    (absent : tree.get? (folder ++ [new]) = none)
    (misses : tree.Misses (tree.start path) path.names folder new)
    (entry : Entry) :
    (tree.insert (folder ++ [new]) entry).rename (folder ++ [new]) path =
      tree.findTarget path >>= fun target =>
        .ok (tree.insert target entry) := by
  have held := get?_insert_self
    (by simp [absent] : tree.get? (folder ++ [new]) ≠ some .directory) entry
  rw [rename, findTarget_insert absent misses, held, erase_insert absent]
  rfl

theorem settle_cases (host : Host)
    (absent : tree.get? (folder ++ [new]) = none)
    (misses : tree.Misses (tree.start path) path.names folder new)
    (first : Entry) (bytes : ByteArray) :
    (∃ fault entry,
      host.firstFault? tree path [.setMode, .rename] =
          some ⟨fault, none⟩ ∧
        (tree.insert (folder ++ [new]) first).settle host (folder ++ [new])
            path bytes =
          (.error fault, tree.insert (folder ++ [new]) entry)) ∨
    (∃ target,
      host.firstFault? tree path [.setMode, .rename] = none ∧
        tree.findTarget path = .ok target ∧
        (tree.insert (folder ++ [new]) first).settle host (folder ++ [new])
            path bytes =
          (.ok (), tree.insert target (.file (tree.modeFor path) bytes))) := by
  have mode := modeFor_insert absent misses first
  have renamed := rename_insert absent misses
    (.file (tree.modeFor path) bytes)
  cases setMode : host.refusal .setMode with
  | some fault =>
      left
      refine ⟨fault, first, ?_, ?_⟩
      · simp [Host.firstFault?, Host.fault?, Host.failure,
          StoringStep.tellsPlace, setMode]
      · simp [settle, setMode]
  | none =>
      cases rename : host.refusal .rename with
      | some fault =>
          left
          refine ⟨fault, .file (tree.modeFor path) bytes, ?_, ?_⟩
          · simp [Host.firstFault?, Host.fault?, Host.failure,
              StoringStep.tellsPlace, obstacle?, setMode, rename]
          · simp [settle, setMode, rename, mode, insert_insert]
      | none =>
          cases found : tree.findTarget path with
          | error fault =>
              left
              rw [found] at renamed
              refine ⟨fault, .file (tree.modeFor path) bytes, ?_, ?_⟩
              · simp [Host.firstFault?, Host.fault?, Host.failure,
                  StoringStep.tellsPlace, obstacle?, setMode, rename, found,
                  reason?]
              · simp [settle, setMode, rename, mode, insert_insert, renamed,
                  bind, Except.bind]
          | ok target =>
              right
              rw [found] at renamed
              refine ⟨target, ?_, rfl, ?_⟩
              · simp [Host.firstFault?, Host.fault?, obstacle?, setMode,
                  rename, found, reason?]
              · simp [settle, setMode, rename, mode, insert_insert, renamed,
                  bind, Except.bind]

theorem complete_cases (host : Host)
    (absent : tree.get? (folder ++ [new]) = none)
    (misses : tree.Misses (tree.start path) path.names folder new)
    (first : Entry) (bytes : ByteArray) :
    (∃ failure entry,
      host.firstFault? tree path [.write, .flush, .setMode, .rename] =
          some failure ∧
        (tree.insert (folder ++ [new]) first).complete host (folder ++ [new])
            (host.placeText tree path) path bytes =
          (.error failure, tree.insert (folder ++ [new]) entry)) ∨
    (∃ target,
      host.firstFault? tree path [.write, .flush, .setMode, .rename] = none ∧
        tree.findTarget path = .ok target ∧
        (tree.insert (folder ++ [new]) first).complete host (folder ++ [new])
            (host.placeText tree path) path bytes =
          (.ok (), tree.insert target (.file (tree.modeFor path) bytes))) := by
  have split : host.firstFault? tree path [.write, .flush, .setMode, .rename] =
      (host.firstFault? tree path [.write, .flush]).or
        (host.firstFault? tree path [.setMode, .rename]) :=
    host.firstFault?_append tree path [.write, .flush] [.setMode, .rename]
  rcases fill_cases tree host path (folder ++ [new]) first bytes with
    ⟨fault, entry, failed, filled⟩ | ⟨passed, filled⟩
  · left
    refine ⟨⟨fault, some (host.placeText tree path)⟩, entry, ?_, ?_⟩
    · rw [split, failed]
      rfl
    · rw [complete, filled]
  · rw [split, passed, Option.none_or, complete, filled]
    rcases settle_cases host absent misses (.file privateMode bytes)
      bytes with ⟨fault, entry, failed, settled⟩ |
        ⟨target, succeeds, found, settled⟩
    · left
      refine ⟨⟨fault, none⟩, entry, failed, ?_⟩
      simp only [settled]
    · right
      refine ⟨target, succeeds, found, ?_⟩
      simp only [settled]

/-- Replacing a file fails at the first step that fails, and leaves the tree as
it was, or puts the bytes at the end of the path. -/
theorem replaceFile_cases (tree : FileTree) (host : Host) (path : Path)
    (bytes : ByteArray) :
    (∃ fault,
      host.firstFault? tree path StoringStep.all = some fault ∧
        tree.replaceFile host path bytes = (.error fault, tree)) ∨
    (∃ target,
      host.firstFault? tree path StoringStep.all = none ∧
        tree.findTarget path = .ok target ∧
        tree.replaceFile host path bytes =
          (.ok (), tree.insert target (.file (tree.modeFor path) bytes))) := by
  have split : host.firstFault? tree path StoringStep.all =
      (host.fault? tree path .create).or
        (host.firstFault? tree path [.write, .flush, .setMode, .rename]) :=
    host.firstFault?_cons tree path .create _
  rw [split, Host.fault?, obstacle?, replaceFile]
  cases create : host.refusal .create with
  | some fault =>
      left
      exact ⟨_, rfl, rfl⟩
  | none =>
      cases placed : tree.findFolder path with
      | error fault =>
          left
          exact ⟨_, rfl, rfl⟩
      | ok folder =>
          have absent := host.newName_absent tree folder path
          have misses := host.newName_misses tree folder path
          rcases complete_cases host absent misses (.file privateMode .empty)
            bytes with ⟨failure, entry, failed, completed⟩ |
              ⟨target, passed, found, completed⟩
          · left
            refine ⟨failure, failed, ?_⟩
            simp only [completed, erase_insert absent]
          · right
            refine ⟨target, passed, found, ?_⟩
            simp only [completed]

end Steps

end FileTree

/-! ## Storing a program -/

section Storing

variable {source : List Char} {settings : Settings}

theorem compileToStore_of_refused {fault : Fault}
    (refused : (compileOnto source (.empty settings.indentWidth)).result =
      .error fault)
    (host : Host) (tree : FileTree) :
    ∃ events,
      (compileToStore (FileTree.storeOn host) source settings).run tree =
        (⟨events, .error (.fault fault)⟩, tree) := by
  have mapped : ((compileOnto source (.empty settings.indentWidth)).mapFailure
      Failure.fault).result = .error (.fault fault) := by
    rw [Traced.mapFailure, refused]
    rfl
  rw [compileToStore]
  simp only [mapped]
  exact ⟨_, rfl⟩

theorem storeAt_of_replaceFile {page : Page} {host : Host}
    {tree after : FileTree} {path : String} {outcome : Except FileFailure Unit}
    (replaced : tree.replaceFile host ⟨path⟩ page.text.toUTF8 =
      (outcome, after)) :
    ∃ events, (page.storeAt (FileTree.storeOn host) path).run tree =
      (⟨events, outcome.mapError .file⟩, after) := by
  have ran : ((FileTree.storeOn host).replace path page.text).run tree =
      (outcome, after) :=
    replaced
  rw [Page.storeAt, StateT.run_bind, ran]
  cases outcome with
  | error fault =>
      exact ⟨_, rfl⟩
  | ok =>
      exact ⟨_, rfl⟩

theorem compileToStore_of_replaceFile {page : Page} {host : Host}
    {tree after : FileTree} {outcome : Except FileFailure Unit}
    (filled : (compileOnto source (.empty settings.indentWidth)).result =
      .ok page)
    (replaced : tree.replaceFile host ⟨settings.output⟩ page.text.toUTF8 =
      (outcome, after)) :
    ∃ events,
      (compileToStore (FileTree.storeOn host) source settings).run tree =
        (⟨events,
          (outcome.mapError .file).map fun _ => ⟨settings.output, page⟩⟩,
          after) := by
  have mapped : ((compileOnto source (.empty settings.indentWidth)).mapFailure
      Failure.fault).result = .ok page := by
    rw [Traced.mapFailure, filled]
    rfl
  obtain ⟨events, stored⟩ := storeAt_of_replaceFile replaced
  rw [compileToStore]
  simp only [mapped]
  rw [StateT.run_bind, stored]
  exact ⟨_, rfl⟩

end Storing

/-- A program is stored as a whole or not at all.  A refused source fails as it
does without a store, and a step that fails on the way to the file is the
failure; the tree is the same as before then, without the new file.  Else the
file at the path of the settings holds the program, and all other entries are
the same. -/
theorem compileToStore_replaces_or_keeps
    (host : Host) (tree : FileTree) (source : List Char)
    (settings : Settings) :
    ∃ traced after,
      (compileToStore (FileTree.storeOn host) source settings).run tree =
          (traced, after) ∧
        (∀ fault, (compile source settings.indentWidth).result =
            .error fault →
          traced.result = .error (.fault fault) ∧ after = tree) ∧
        ∀ text, (compile source settings.indentWidth).result = .ok text →
          (∀ fault,
            host.firstFault? tree ⟨settings.output⟩ StoringStep.all =
                some fault →
              traced.result = .error (.file fault) ∧ after = tree) ∧
          (host.firstFault? tree ⟨settings.output⟩ StoringStep.all = none →
            ∃ stored location mode,
              traced.result = .ok stored ∧ stored.path = settings.output ∧
                stored.page.text = text ∧
                tree.Replaces after ⟨settings.output⟩ location mode
                  text.toUTF8) := by
  cases filled : (compileOnto source (.empty settings.indentWidth)).result with
  | error fault =>
      have refused := compile_of_compileOnto_error filled
      obtain ⟨events, ran⟩ := compileToStore_of_refused filled host tree
      refine ⟨_, tree, ran, ?_, ?_⟩
      · intro other failed
        rw [refused] at failed
        cases failed
        exact ⟨rfl, rfl⟩
      · intro text accepted
        rw [refused] at accepted
        cases accepted
  | ok page =>
      have compiled := compile_of_compileOnto filled
      have fits : ∀ text, (compile source settings.indentWidth).result =
          .ok text → page.text = text := by
        intro text accepted
        rw [compiled] at accepted
        cases accepted
        rfl
      have never : ∀ fault, (compile source settings.indentWidth).result ≠
          .error fault := by
        simp [compiled]
      rcases tree.replaceFile_cases host ⟨settings.output⟩ page.text.toUTF8 with
        ⟨first, failed, replaced⟩ | ⟨target, passed, found, replaced⟩
      · obtain ⟨events, ran⟩ := compileToStore_of_replaceFile filled replaced
        refine ⟨_, tree, ran, fun fault refused => absurd refused (never fault),
          fun text accepted => ⟨?_, ?_⟩⟩
        · intro fault stops
          rw [failed] at stops
          cases stops
          exact ⟨rfl, rfl⟩
        · intro passes
          rw [failed] at passes
          cases passes
      · obtain ⟨events, ran⟩ := compileToStore_of_replaceFile filled replaced
        refine ⟨_, _, ran, fun fault refused => absurd refused (never fault),
          fun text accepted => ⟨?_, ?_⟩⟩
        · intro fault stops
          rw [passed] at stops
          cases stops
        · intro _
          have same := fits text accepted
          subst same
          exact ⟨_, target, _, rfl, rfl, rfl,
            FileTree.replaces_insert found page.text.toUTF8⟩

/-- A directory with a program in it that others may not read. -/
def sampleTree : FileTree :=
  ⟨["tmp", "work"],
    [(["tmp", "work", "out"], .directory),
      (["tmp", "work", "out", "a.c"], .file 0o640 "old".toUTF8)]⟩

/-- A host whose disk is full. -/
def Host.full : Host :=
  { Host.obliging with
    placeText := fun _ _ => "\"/tmp/work/./out//../out/.tmpDOtzaK\""
    refusal := fun step =>
      if step = .flush then
        some (.other "No space left on device (os error 28)")
      else none
    taken := 7 }

theorem compileToStore_replaces_or_keeps_sample :
    ∃ text, (compile "PRINT \"hi\"\n".toList 2).result = .ok text ∧
      Host.obliging.firstFault? sampleTree ⟨"./out//../out/a.c"⟩
          StoringStep.all = none ∧
      (∃ traced after stored location mode,
        (compileToStore (FileTree.storeOn .obliging)
            "PRINT \"hi\"\n".toList ⟨"./out//../out/a.c", 2⟩).run sampleTree =
          (traced, after) ∧
          traced.result = .ok stored ∧ stored.path = "./out//../out/a.c" ∧
          stored.page.text = text ∧
          sampleTree.Replaces after ⟨"./out//../out/a.c"⟩ location mode
            text.toUTF8) ∧
      ∃ failure traced,
        Host.full.firstFault? sampleTree ⟨"./out//../out/a.c"⟩
            StoringStep.all = some failure ∧
          failure.message = "No space left on device (os error 28)" ++
            " at path \"/tmp/work/./out//../out/.tmpDOtzaK\"" ∧
          (compileToStore (FileTree.storeOn .full)
              "PRINT \"hi\"\n".toList ⟨"./out//../out/a.c", 2⟩).run
                sampleTree = (traced, sampleTree) ∧
          traced.result = .error (.file failure) := by
  have accepted : (compile "PRINT \"hi\"\n".toList 2).result =
      .ok ("#include <stdio.h>\nint main(void) \x7b\n" ++
        "  printf(\"hi\\n\");\n  return 0;\n\x7d\n") := by
    decide +kernel
  have passes : Host.obliging.firstFault? sampleTree ⟨"./out//../out/a.c"⟩
      StoringStep.all = none := by
    decide +kernel
  have stops : Host.full.firstFault? sampleTree ⟨"./out//../out/a.c"⟩
      StoringStep.all = some ⟨.other "No space left on device (os error 28)",
        some "\"/tmp/work/./out//../out/.tmpDOtzaK\""⟩ := by
    decide +kernel
  refine ⟨_, accepted, passes, ?_, ?_⟩
  · obtain ⟨traced, after, ran, _, ends⟩ :=
      compileToStore_replaces_or_keeps .obliging sampleTree
        "PRINT \"hi\"\n".toList ⟨"./out//../out/a.c", 2⟩
    obtain ⟨stored, location, mode, done⟩ := (ends _ accepted).2 passes
    exact ⟨traced, after, stored, location, mode, ran, done⟩
  · obtain ⟨traced, after, ran, _, ends⟩ :=
      compileToStore_replaces_or_keeps .full sampleTree
        "PRINT \"hi\"\n".toList ⟨"./out//../out/a.c", 2⟩
    obtain ⟨failed, rfl⟩ := (ends _ accepted).1 _ stops
    exact ⟨_, traced, stops, by decide +kernel, ran, failed⟩

end TeenyTiny
