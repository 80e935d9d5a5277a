import Mathlib.Data.List.Basic
import TeenyTiny.File.Tree

/-!
# Walks through a file tree

The names of a path lead from directory to directory (`FileTree.Walks`).  So an
entry that takes the place of a file, or of nothing, is in nobody's way
(`FileTree.Walks.insert`), and a path that can be given to a file leads to that
file afterwards (`FileTree.Leads.find_eq`, `FileTree.Leads.insert`).
-/

namespace TeenyTiny

namespace FileTree

/-! ## Entries -/

section Entries

variable {tree : FileTree} {location other : Location} {entry : Entry}

theorem isPrefixOf_working_eq_false
    (noDirectory : tree.get? location ≠ some .directory) :
    location.isPrefixOf tree.working = false := by
  by_contra inside
  exact noDirectory (by simp [get?, inside])

theorem get?_insert_self
    (noDirectory : tree.get? location ≠ some .directory)
    (entry : Entry) :
    (tree.insert location entry).get? location = some entry := by
  have outside := isPrefixOf_working_eq_false noDirectory
  simp [get?, insert, erase, outside]

theorem lookup_filter_ne {entries : List (Location × Entry)}
    (different : other ≠ location) :
    (entries.filter fun entry => entry.1 ≠ location).lookup other =
      entries.lookup other := by
  induction entries with
  | nil =>
      rfl
  | cons first rest inductionHypothesis =>
      by_cases removed : first.1 = location
      · have passed : (other == first.1) = false := by
          simpa [removed] using different
        rw [List.filter_cons_of_neg (by simpa using removed),
          inductionHypothesis, List.lookup_cons, passed]
      · rw [List.filter_cons_of_pos (by simpa using removed),
          List.lookup_cons, List.lookup_cons, inductionHypothesis]

theorem get?_insert_of_ne
    (different : other ≠ location)
    (entry : Entry) :
    (tree.insert location entry).get? other = tree.get? other := by
  have passed : (other == location) = false := by
    simpa using different
  have kept : (tree.insert location entry).entries.lookup other =
      tree.entries.lookup other := by
    rw [insert, List.lookup_cons, passed]
    exact lookup_filter_ne different
  rw [get?, kept]
  rfl

theorem insert_insert (first second : Entry) :
    (tree.insert location first).insert location second =
      tree.insert location second := by
  simp [insert, erase]

/-- An entry that is put where there was none can be taken away again. -/
theorem erase_insert
    (absent : tree.get? location = none)
    (entry : Entry) :
    (tree.insert location entry).erase location = tree := by
  have outside : location.isPrefixOf tree.working = false :=
    isPrefixOf_working_eq_false (by simp [absent])
  rw [get?, if_neg (by simp [outside]), List.lookup_eq_none_iff] at absent
  have others : tree.entries.filter (fun entry => entry.1 ≠ location) =
      tree.entries := by
    rw [List.filter_eq_self]
    intro entry member
    have different := absent entry member
    rw [bne_iff_ne] at different
    simpa using Ne.symm different
  have again : (tree.insert location entry).erase location =
      tree.erase location := by
    simp [insert, erase]
  rw [again, erase, others]

end Entries

/-! ## Walks -/

theorem bind_eq_ok_iff {First Result : Type} {first : Except FileFault First}
    {next : First → Except FileFault Result} {result : Result} :
    (first >>= next) = .ok result ↔
      ∃ value, first = .ok value ∧ next value = .ok result := by
  cases first with
  | error fault =>
      constructor
      · intro impossible
        cases impossible
      · rintro ⟨_, impossible, _⟩
        cases impossible
  | ok value =>
      constructor
      · intro done
        exact ⟨value, rfl, done⟩
      · rintro ⟨_, same, done⟩
        cases same
        exact done

/-- The names lead from a location to the result. -/
inductive Walks (tree : FileTree) : Location → List String → Location → Prop
  | nil (location : Location) : Walks tree location [] location
  | stay {location result : Location} {rest : List String}
      (directory : tree.get? location = some .directory)
      (walks : Walks tree location rest result) :
      Walks tree location ("." :: rest) result
  | up {location result : Location} {rest : List String}
      (directory : tree.get? location = some .directory)
      (walks : Walks tree location.dropLast rest result) :
      Walks tree location (".." :: rest) result
  | down {location result : Location} {name : String} {rest : List String}
      (directory : tree.get? location = some .directory)
      (named : name ≠ "." ∧ name ≠ "..")
      (taken : checkName name = .ok ())
      (found : (tree.get? (location ++ [name])).isSome = true)
      (walks : Walks tree (location ++ [name]) rest result) :
      Walks tree location (name :: rest) result

section Walks

variable {tree : FileTree} {location result : Location} {names : List String}

theorem walk_cons_of_directory
    (directory : tree.get? location = some .directory)
    (name : String) (rest : List String) :
    tree.walk location (name :: rest) =
      if name = "." then tree.walk location rest
      else if name = ".." then tree.walk location.dropLast rest
      else checkName name >>= fun _ =>
        if (tree.get? (location ++ [name])).isSome then
          tree.walk (location ++ [name]) rest
        else .error .notFound := by
  rw [walk, directory]
  rfl

theorem directory_of_walk_cons {name : String} {rest : List String}
    (walked : tree.walk location (name :: rest) = .ok result) :
    tree.get? location = some .directory := by
  rw [walk] at walked
  cases entry : tree.get? location with
  | none =>
      rw [entry] at walked
      cases walked
  | some found =>
      cases found with
      | directory =>
          rfl
      | file mode bytes =>
          rw [entry] at walked
          cases walked

theorem walks_of_walk
    (walked : tree.walk location names = .ok result) :
    tree.Walks location names result := by
  induction names generalizing location with
  | nil =>
      cases walked
      exact .nil _
  | cons name rest inductionHypothesis =>
      have directory := directory_of_walk_cons walked
      rw [walk_cons_of_directory directory] at walked
      by_cases dot : name = "."
      · subst dot
        rw [if_pos rfl] at walked
        exact .stay directory (inductionHypothesis walked)
      · rw [if_neg dot] at walked
        by_cases dots : name = ".."
        · subst dots
          rw [if_pos rfl] at walked
          exact .up directory (inductionHypothesis walked)
        · rw [if_neg dots] at walked
          obtain ⟨_, taken, walked⟩ := bind_eq_ok_iff.mp walked
          by_cases found : (tree.get? (location ++ [name])).isSome = true
          · rw [if_pos found] at walked
            exact .down directory ⟨dot, dots⟩ taken found
              (inductionHypothesis walked)
          · rw [if_neg found] at walked
            cases walked

theorem Walks.walk
    (walks : tree.Walks location names result) :
    tree.walk location names = .ok result := by
  induction walks with
  | nil location =>
      rfl
  | stay directory _ inductionHypothesis =>
      rw [walk_cons_of_directory directory, if_pos rfl, inductionHypothesis]
  | up directory _ inductionHypothesis =>
      rw [walk_cons_of_directory directory, if_neg (by decide), if_pos rfl,
        inductionHypothesis]
  | down directory named taken found _ inductionHypothesis =>
      rw [walk_cons_of_directory directory, if_neg named.1, if_neg named.2,
        bind_eq_ok_iff]
      exact ⟨(), taken, by rw [if_pos found, inductionHypothesis]⟩

theorem walk_append (names more : List String) :
    tree.walk location (names ++ more) =
      tree.walk location names >>= fun folder => tree.walk folder more := by
  induction names generalizing location with
  | nil =>
      rfl
  | cons name rest inductionHypothesis =>
      rw [List.cons_append]
      cases here : tree.get? location with
      | none =>
          rw [FileTree.walk, FileTree.walk, here]
          rfl
      | some entry =>
          cases entry with
          | file mode bytes =>
              rw [FileTree.walk, FileTree.walk, here]
              rfl
          | directory =>
              rw [walk_cons_of_directory here, walk_cons_of_directory here]
              by_cases dot : name = "."
              · rw [if_pos dot, if_pos dot, inductionHypothesis]
              · rw [if_neg dot, if_neg dot]
                by_cases dots : name = ".."
                · rw [if_pos dots, if_pos dots, inductionHypothesis]
                · rw [if_neg dots, if_neg dots, inductionHypothesis]
                  cases checkName name with
                  | error fault =>
                      rfl
                  | ok =>
                      cases (tree.get? (location ++ [name])).isSome <;> rfl

theorem findDirectory_eq_ok_iff :
    tree.findDirectory location names = .ok result ↔
      tree.walk location names = .ok result ∧
        tree.get? result = some .directory := by
  rw [findDirectory, bind_eq_ok_iff]
  constructor
  · rintro ⟨found, walked, checked⟩
    split at checked
    · rename_i directory
      cases checked
      exact ⟨walked, directory⟩
    · cases checked
  · rintro ⟨walked, directory⟩
    refine ⟨result, walked, ?_⟩
    rw [directory]
    rfl

/-- What a path leads to, its names lead to. -/
theorem walk_of_find {path : Path}
    (found : tree.find path = .ok location) :
    tree.walk (tree.start path) path.names = .ok location := by
  obtain ⟨_, _, found⟩ := bind_eq_ok_iff.mp found
  split at found
  · cases found
  · split at found
    · exact (findDirectory_eq_ok_iff.mp found).1
    · exact found

/-! ## The end of a path -/

/-- The path leads to a name in a directory, which may have an entry or not. -/
structure Leads (tree : FileTree) (path : Path) (folder : Location)
    (name : String) : Prop where
  accepted : checkPath path = .ok ()
  names : path.names = path.names.dropLast ++ [name]
  walked : tree.walk (tree.start path) path.names.dropLast = .ok folder
  directory : tree.get? folder = some .directory
  named : name ≠ "." ∧ name ≠ ".."
  taken : checkName name = .ok ()
  plain : path.slashed = false

section Targets

variable {path : Path} {folder target : Location} {name : String}

theorem exists_leads_of_findTarget
    (found : tree.findTarget path = .ok target) :
    ∃ folder name, tree.Leads path folder name ∧ target = folder ++ [name] ∧
      tree.get? target ≠ some .directory := by
  obtain ⟨_, accepted, found⟩ := bind_eq_ok_iff.mp found
  cases last : path.names.getLast? with
  | none =>
      rw [last] at found
      cases found
  | some name =>
      rw [last] at found
      obtain ⟨folder, directory, found⟩ := bind_eq_ok_iff.mp found
      rw [findDirectory_eq_ok_iff] at directory
      by_cases dots : name = "." ∨ name = ".."
      · rw [if_pos dots] at found
        cases found
      · rw [if_neg dots] at found
        obtain ⟨_, taken, found⟩ := bind_eq_ok_iff.mp found
        by_cases slashed : path.slashed = true
        · rw [if_pos slashed] at found
          cases found
        · rw [if_neg slashed] at found
          have noDirectory : tree.get? (folder ++ [name]) ≠
              some .directory := by
            intro occupied
            rw [occupied] at found
            cases found
          have same : target = folder ++ [name] := by
            split at found
            · cases found
            · cases found
              rfl
          have names : path.names = path.names.dropLast ++ [name] := by
            obtain ⟨front, whole⟩ := List.getLast?_eq_some_iff.mp last
            rw [whole, List.dropLast_concat]
          refine ⟨folder, name, ?_, same, same ▸ noDirectory⟩
          exact ⟨accepted, names, directory.1, directory.2, not_or.mp dots,
            taken, by simpa using slashed⟩

theorem Leads.text_ne
    (leads : tree.Leads path folder name) :
    path.text ≠ "" := by
  intro empty
  have none : path.names = [] := by
    rw [Path.names, empty]
    rfl
  have names := leads.names
  rw [none] at names
  cases names

/-- Such a path is that of the entry in the directory, if there is one. -/
theorem Leads.find_eq
    (leads : tree.Leads path folder name) :
    tree.find path =
      if (tree.get? (folder ++ [name])).isSome then .ok (folder ++ [name])
      else .error .notFound := by
  have last : tree.walk folder [name] =
      if (tree.get? (folder ++ [name])).isSome then .ok (folder ++ [name])
      else .error .notFound := by
    rw [walk_cons_of_directory leads.directory, if_neg leads.named.1,
      if_neg leads.named.2, leads.taken]
    rfl
  have whole : tree.walk (tree.start path) path.names =
      tree.walk folder [name] := by
    rw [leads.names, walk_append, leads.walked]
    rfl
  rw [← last, ← whole, find, leads.accepted, if_neg leads.text_ne,
    if_neg (by simp [leads.plain])]
  rfl

/-- A walk leads through directories, so it still succeeds when there is a new
entry in place of something else. -/
theorem Walks.insert
    (walks : tree.Walks location names result)
    (noDirectory : tree.get? target ≠ some .directory)
    (entry : Entry) :
    (tree.insert target entry).Walks location names result := by
  have kept : ∀ {place : Location}, tree.get? place = some .directory →
      (tree.insert target entry).get? place = some .directory := by
    intro place directory
    have different : place ≠ target := by
      rintro rfl
      exact noDirectory directory
    rw [get?_insert_of_ne different, directory]
  induction walks with
  | nil location =>
      exact .nil location
  | stay directory _ inductionHypothesis =>
      exact .stay (kept directory) inductionHypothesis
  | up directory _ inductionHypothesis =>
      exact .up (kept directory) inductionHypothesis
  | @down location _ name _ directory named taken found _
      inductionHypothesis =>
      have still : ((tree.insert target entry).get?
          (location ++ [name])).isSome = true := by
        by_cases same : location ++ [name] = target
        · rw [same, get?_insert_self noDirectory]
          rfl
        · rw [get?_insert_of_ne same, found]
      exact .down (kept directory) named taken still inductionHypothesis

theorem Leads.insert
    (leads : tree.Leads path folder name)
    (noDirectory : tree.get? (folder ++ [name]) ≠ some .directory)
    (entry : Entry) :
    (tree.insert (folder ++ [name]) entry).Leads path folder name where
  accepted := leads.accepted
  names := leads.names
  walked := ((walks_of_walk leads.walked).insert noDirectory entry).walk
  directory := by
    rw [get?_insert_of_ne (by simp), leads.directory]
  named := leads.named
  taken := leads.taken
  plain := leads.plain

end Targets

end Walks

end FileTree

end TeenyTiny
