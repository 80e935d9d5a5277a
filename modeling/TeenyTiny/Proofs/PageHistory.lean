import TeenyTiny.Page

/-!
# Histories of pages

What is done to a page goes to one of its two regions.  The finished text is
the header that the one part of the history makes by itself and the body that
the other part makes, and nothing depends on how the two are mixed.  The body
is made of the pieces of text in order, with spaces in front of those that start
a line (`page_regions`).
-/

namespace TeenyTiny

/-- Something that is done to a page. -/
inductive PageUse where
  | addHeader (text : String)
  | headerLine (level : Nat) (text : String)
  | write (text : String)
  | writeLine (text : String)
  | indent
  | dedent
  deriving DecidableEq, Repr

namespace PageUse

/-- Whether the header is written to, and not the body. -/
def onHeader : PageUse → Bool
  | addHeader _ | headerLine _ _ => true
  | write _ | writeLine _ | indent | dedent => false

/-- Whether the body is written to, or its level changes. -/
def onBody (use : PageUse) : Bool :=
  !use.onHeader

end PageUse

namespace Page

def afterUse (page : Page) : PageUse → Page
  | .addHeader text => page.addHeader text
  | .headerLine level text => page.headerLine level text
  | .write text => page.write text
  | .writeLine text => page.writeLine text
  | .indent => page.indent
  | .dedent => page.dedent

/-- The page as it is after a history. -/
def replay (page : Page) (uses : List PageUse) : Page :=
  uses.foldl afterUse page

theorem replay_append (page : Page) (uses more : List PageUse) :
    page.replay (uses ++ more) = (page.replay uses).replay more :=
  List.foldl_append

/-- The page that a history makes of an empty one. -/
def ofHistory (width : Nat) (uses : List PageUse) : Page :=
  (empty width).replay uses

end Page

/-! ## Fragments of the body -/

/-- A piece of text in the body, and the level at which it is written. -/
structure Fragment where
  level : Nat
  text : String
  deriving DecidableEq, Repr

/-- Whether the text ends with the end of a line. -/
def closesLine (text : String) : Bool :=
  text.toList.getLast? = some '\n'

namespace Fragment

/-- Whether a fragment starts a line: it is the first, or the one before it ends
a line. -/
def startsLine : Option Fragment → Bool
  | none => true
  | some before => closesLine before.text

/-- The fragment as it stands behind another one, or at the very start. -/
def placed (width : Nat) (before : Option Fragment) (fragment : Fragment) :
    String :=
  (if startsLine before then
      String.ofList (List.replicate (fragment.level * width) ' ')
    else "") ++ fragment.text

/-- The fragments one behind the other, the first of them behind `before`. -/
def layOut (width : Nat) (before : Option Fragment)
    (fragments : List Fragment) : String :=
  String.join
    (List.zipWith (placed width) (before :: fragments.map some) fragments)

theorem layOut_cons (width : Nat) (before : Option Fragment)
    (fragment : Fragment) (rest : List Fragment) :
    layOut width before (fragment :: rest) =
      fragment.placed width before ++ layOut width (some fragment) rest := by
  simp [layOut]

/-- The fragment that a text makes, which is none for the empty text. -/
def ofText (level : Nat) (text : String) : List Fragment :=
  if text = "" then [] else [⟨level, text⟩]

end Fragment

namespace PageUse

/-- What is added to the header. -/
def headerText (width : Nat) : PageUse → String
  | addHeader text => text
  | headerLine level text =>
      String.ofList (List.replicate (level * width) ' ') ++ text ++ "\n"
  | _ => ""

/-- What is added to the body at the given level. -/
def fragments (level : Nat) : PageUse → List Fragment
  | write text => Fragment.ofText level text
  | writeLine text =>
      Fragment.ofText level text ++ Fragment.ofText level "\n"
  | _ => []

/-- The level behind the use, which does not fall below zero. -/
def levelAfter (level : Nat) : PageUse → Nat
  | indent => level + 1
  | dedent => level - 1
  | _ => level

/-- What a history adds to the header. -/
def headerTextAll (width : Nat) (uses : List PageUse) : String :=
  String.join (uses.map (headerText width))

/-- What a history adds to the body, from the given level on. -/
def fragmentsAll : Nat → List PageUse → List Fragment
  | _, [] => []
  | level, use :: rest =>
      use.fragments level ++ fragmentsAll (use.levelAfter level) rest

theorem headerText_of_body {use : PageUse}
    (other : use.onHeader = false) (width : Nat) :
    use.headerText width = "" := by
  cases use <;> cases other <;> rfl

theorem fragments_of_header {use : PageUse}
    (header : use.onHeader = true) (level : Nat) :
    use.fragments level = [] ∧ use.levelAfter level = level := by
  cases use <;> cases header <;> exact ⟨rfl, rfl⟩

theorem headerTextAll_cons (width : Nat) (use : PageUse)
    (rest : List PageUse) :
    headerTextAll width (use :: rest) =
      use.headerText width ++ headerTextAll width rest := by
  simp [headerTextAll]

/-- The header does not depend on what is done to the body. -/
theorem headerTextAll_filter (width : Nat) (uses : List PageUse) :
    headerTextAll width (uses.filter onHeader) = headerTextAll width uses := by
  induction uses with
  | nil =>
      rfl
  | cons use rest inductionHypothesis =>
      rw [headerTextAll_cons, ← inductionHypothesis]
      cases kept : use.onHeader with
      | true =>
          rw [List.filter_cons_of_pos kept, headerTextAll_cons]
      | false =>
          rw [List.filter_cons_of_neg (by simp [kept]),
            headerText_of_body kept, String.empty_append]

/-- The body does not depend on what is done to the header. -/
theorem fragmentsAll_filter (level : Nat) (uses : List PageUse) :
    fragmentsAll level (uses.filter onBody) = fragmentsAll level uses := by
  induction uses generalizing level with
  | nil =>
      rfl
  | cons use rest inductionHypothesis =>
      cases header : use.onHeader with
      | true =>
          obtain ⟨nothing, same⟩ := fragments_of_header header level
          rw [List.filter_cons_of_neg (by simp [onBody, header]),
            inductionHypothesis, fragmentsAll, nothing, same]
          rfl
      | false =>
          rw [List.filter_cons_of_pos (by simp [onBody, header]), fragmentsAll,
            fragmentsAll, inductionHypothesis]

end PageUse

/-! ## Pages after a history -/

namespace Page

/-- Adds a fragment to the body, at its own level. -/
def put (page : Page) (fragment : Fragment) : Page :=
  { page with
    body := page.body ++
      ((if page.atLineStart then page.pad fragment.level else "") ++
        fragment.text)
    atLineStart := closesLine fragment.text }

def putAll (page : Page) (fragments : List Fragment) : Page :=
  fragments.foldl put page

/-- The page with another header and at another level. -/
def moved (page : Page) (header : String) (level : Nat) : Page :=
  { page with header, level }

theorem moved_putAll (page : Page) (header : String) (level : Nat)
    (fragments : List Fragment) :
    (page.moved header level).putAll fragments =
      (page.putAll fragments).moved header level := by
  induction fragments generalizing page with
  | nil =>
      rfl
  | cons fragment rest inductionHypothesis =>
      exact inductionHypothesis (page.put fragment)

/-- Fragments change neither the header nor the level. -/
theorem putAll_moved (page : Page) (fragments : List Fragment) :
    (page.putAll fragments).moved page.header page.level =
      page.putAll fragments :=
  (page.moved_putAll page.header page.level fragments).symm

theorem level_putAll (page : Page) (fragments : List Fragment) :
    (page.putAll fragments).level = page.level :=
  (congrArg Page.level (page.putAll_moved fragments)).symm

theorem width_putAll (page : Page) (fragments : List Fragment) :
    (page.putAll fragments).width = page.width := by
  induction fragments generalizing page with
  | nil =>
      rfl
  | cons fragment rest inductionHypothesis =>
      exact inductionHypothesis (page.put fragment)

theorem putAll_append (page : Page) (fragments more : List Fragment) :
    page.putAll (fragments ++ more) = (page.putAll fragments).putAll more :=
  List.foldl_append

theorem write_eq (page : Page) (text : String) :
    page.write text = page.putAll (Fragment.ofText page.level text) := by
  by_cases nothing : text = ""
  · simp [write, Fragment.ofText, nothing, putAll]
  · simp [write, Fragment.ofText, nothing, putAll, put, closesLine]

/-- A use adds its fragments to the body and its text to the header. -/
theorem afterUse_eq (page : Page) (use : PageUse) :
    page.afterUse use =
      (page.putAll (use.fragments page.level)).moved
        (page.header ++ use.headerText page.width)
        (use.levelAfter page.level) := by
  have unchanged : page.header ++ "" = page.header := String.append_empty
  cases use with
  | addHeader text =>
      rfl
  | headerLine level text =>
      rfl
  | indent | dedent =>
      simp only [PageUse.headerText, unchanged]
      rfl
  | write text =>
      simp only [PageUse.headerText, unchanged, PageUse.levelAfter,
        putAll_moved]
      exact page.write_eq text
  | writeLine text =>
      simp only [PageUse.headerText, unchanged, PageUse.levelAfter,
        putAll_moved]
      rw [afterUse, writeLine, write_eq, write_eq page, level_putAll,
        ← putAll_append]
      rfl

/-- A history adds its fragments to the body and its texts to the header. -/
theorem replay_eq (page : Page) (uses : List PageUse) :
    page.replay uses =
      (page.putAll (PageUse.fragmentsAll page.level uses)).moved
        (page.header ++ PageUse.headerTextAll page.width uses)
        (uses.foldl PageUse.levelAfter page.level) := by
  induction uses generalizing page with
  | nil =>
      simp [replay, PageUse.fragmentsAll, PageUse.headerTextAll, putAll, moved]
  | cons use rest inductionHypothesis =>
      have first := page.afterUse_eq use
      have width : (page.afterUse use).width = page.width := by
        rw [first]
        exact page.width_putAll _
      have level : (page.afterUse use).level =
          use.levelAfter page.level := by
        rw [first]
        rfl
      have header : (page.afterUse use).header =
          page.header ++ use.headerText page.width := by
        rw [first]
        rfl
      have whole : page.replay (use :: rest) =
          (page.afterUse use).replay rest :=
        rfl
      rw [whole, inductionHypothesis, width, level, header, first,
        moved_putAll, ← putAll_append, PageUse.headerTextAll_cons,
        String.append_assoc]
      rfl

/-- Fragments stand in the body as they are laid out. -/
theorem body_putAll {page : Page} {before : Option Fragment}
    (starts : page.atLineStart = Fragment.startsLine before)
    (fragments : List Fragment) :
    (page.putAll fragments).body =
      page.body ++ Fragment.layOut page.width before fragments := by
  induction fragments generalizing page before with
  | nil =>
      simp [putAll, Fragment.layOut]
  | cons fragment rest inductionHypothesis =>
      have body : (page.put fragment).body =
          page.body ++ fragment.placed page.width before := by
        simp only [put, starts]
        rfl
      have next : (page.put fragment).atLineStart =
          Fragment.startsLine (some fragment) :=
        rfl
      have further := inductionHypothesis next
      rw [body, String.append_assoc] at further
      rw [Fragment.layOut_cons]
      exact further

/-! ## Split texts -/

theorem closesLine_append (part : String) {text : String}
    (nonempty : text ≠ "") :
    closesLine (part ++ text) = closesLine text := by
  have occupied : text.toList ≠ [] := by
    simpa using nonempty
  rw [closesLine, closesLine, String.toList_append, List.getLast?_append,
    List.getLast?_eq_some_getLast occupied, Option.some_or]

theorem write_of_ne {text : String}
    (nonempty : text ≠ "") (page : Page) :
    page.write text = page.put ⟨page.level, text⟩ := by
  rw [write_eq, Fragment.ofText, if_neg nonempty]
  rfl

/-- A text can be written in two parts unless the first ends a line. -/
theorem write_append (page : Page) {part : String}
    (inside : closesLine part = false) (text : String) :
    page.write (part ++ text) = (page.write part).write text := by
  by_cases noPart : part = ""
  · simp [noPart, write]
  · by_cases noText : text = ""
    · simp [noText, write]
    · have whole : part ++ text ≠ "" := by
        simp [noPart]
      rw [write_of_ne whole, write_of_ne noPart, write_of_ne noText]
      simp [put, inside, closesLine_append part noText, String.append_assoc]

/-- Nor does it matter in how many parts a text is written. -/
theorem write_join (page : Page) {parts : List String}
    (inside : ∀ part ∈ parts, closesLine part = false) (last : String) :
    page.write (String.join (parts ++ [last])) =
      (page.replay (parts.map .write)).write last := by
  induction parts generalizing page with
  | nil =>
      simp [replay]
  | cons part rest inductionHypothesis =>
      obtain ⟨first, others⟩ := List.forall_mem_cons.mp inside
      rw [List.cons_append, String.join_cons, write_append page first,
        inductionHypothesis _ others]
      rfl

/-! ## Histories from the empty page on -/

theorem header_ofHistory (width : Nat) (uses : List PageUse) :
    (ofHistory width uses).header = PageUse.headerTextAll width uses := by
  rw [ofHistory, replay_eq]
  exact String.empty_append

theorem body_ofHistory (width : Nat) (uses : List PageUse) :
    (ofHistory width uses).body =
      Fragment.layOut width none (PageUse.fragmentsAll 0 uses) := by
  have starts : (empty width).atLineStart = Fragment.startsLine none := rfl
  rw [ofHistory, replay_eq]
  exact (body_putAll starts _).trans String.empty_append

/-- The two regions of a page come from the two parts of its history. -/
theorem text_ofHistory (width : Nat) (uses : List PageUse) :
    (ofHistory width uses).text =
      (ofHistory width (uses.filter PageUse.onHeader)).header ++
        (ofHistory width (uses.filter PageUse.onBody)).body := by
  rw [text, header_ofHistory, header_ofHistory, body_ofHistory,
    body_ofHistory, PageUse.headerTextAll_filter, PageUse.fragmentsAll_filter]

end Page

/-- The text of a page is the header that the one part of its history makes and
the body that the other part makes, however the two are mixed.  The body is made
of the fragments of the history, with spaces in front of those that start a
line.  A fragment can be written in parts if none but the last of these ends a
line. -/
theorem page_regions (width : Nat) (uses : List PageUse) :
    (Page.ofHistory width uses).text =
        (Page.ofHistory width (uses.filter PageUse.onHeader)).header ++
          (Page.ofHistory width (uses.filter PageUse.onBody)).body ∧
      (∀ other : List PageUse,
        other.filter PageUse.onHeader = uses.filter PageUse.onHeader →
        other.filter PageUse.onBody = uses.filter PageUse.onBody →
        (Page.ofHistory width other).text =
          (Page.ofHistory width uses).text) ∧
      (Page.ofHistory width uses).body =
        Fragment.layOut width none (PageUse.fragmentsAll 0 uses) ∧
      ∀ parts last more,
        (∀ part ∈ parts, closesLine part = false) →
        Page.ofHistory width
            (uses ++ .write (String.join (parts ++ [last])) :: more) =
          Page.ofHistory width
            (uses ++ (parts.map .write ++ .write last :: more)) ∧
        Page.ofHistory width
            (uses ++ .writeLine (String.join (parts ++ [last])) :: more) =
          Page.ofHistory width
            (uses ++ (parts.map .write ++ .writeLine last :: more)) := by
  refine ⟨Page.text_ofHistory width uses, ?_, Page.body_ofHistory width uses,
    ?_⟩
  · intro other sameHeader sameBody
    rw [Page.text_ofHistory, Page.text_ofHistory width uses, sameHeader,
      sameBody]
  · intro parts last more inside
    have split := (Page.ofHistory width uses).write_join inside last
    simp only [Page.ofHistory, Page.replay_append] at split ⊢
    constructor
    · exact congrArg (Page.replay · more) split
    · exact congrArg (fun page => (page.write "\n").replay more) split

/-- The level changes inside a line, an empty text and an empty line are
written, and the level would fall below zero. -/
def mixedUses : List PageUse :=
  [.write "x", .addHeader "int x;\n", .indent, .write "", .writeLine " = 1;",
    .headerLine 1 "int y;", .writeLine "", .write "y = 2;\n", .dedent, .dedent,
    .write "z"]

theorem page_regions_mixed :
    (Page.ofHistory 2 mixedUses).text =
        "int x;\n  int y;\nx = 1;\n  \n  y = 2;\nz" ∧
      (Page.ofHistory 2 (mixedUses.filter PageUse.onHeader ++
          mixedUses.filter PageUse.onBody)).text =
        (Page.ofHistory 2 mixedUses).text ∧
      (Page.ofHistory 2 mixedUses).body = Fragment.layOut 2 none
        [⟨0, "x"⟩, ⟨1, " = 1;"⟩, ⟨1, "\n"⟩, ⟨1, "\n"⟩, ⟨1, "y = 2;\n"⟩,
          ⟨0, "z"⟩] ∧
      Page.ofHistory 2 (mixedUses ++ [.write "z = x;\n", .indent]) =
        Page.ofHistory 2
          (mixedUses ++
            [.write "z", .write " = ", .write "x;\n", .indent]) := by
  obtain ⟨regions, mixes, laid, splits⟩ := page_regions 2 mixedUses
  have joined : String.join (["z", " = "] ++ ["x;\n"]) = "z = x;\n" := by
    decide +kernel
  have split := (splits ["z", " = "] "x;\n" [.indent] (by decide +kernel)).1
  rw [joined] at split
  refine ⟨regions.trans (by decide +kernel), mixes _ ?_ ?_, laid.trans ?_,
    split⟩
  · decide +kernel
  · decide +kernel
  · decide +kernel

end TeenyTiny
