import TeenyTiny.Proofs.Lexemes
import TeenyTiny.Proofs.StatementTurns

/-!
# Reading stops at the end of the source

Reading a program comes to an end, whatever the source is.  If all its lexemes
are well-formed, the end of the source may come in front of the window, but the
window never moves away from it, so no more tokens are pulled than the source
has, and two for the view behind its end.

No statement is looked for at the end of a line or of the source.  So two
messages that could say that none starts there are never given
(`compileOnto_stays_inside`).
-/

namespace TeenyTiny

/-! ## Messages about missing statements -/

section Messages

variable {kind : Kind} {text : String}

theorem message_noStatement
    (inside : kind ≠ .eof) :
    (GrammarFault.noStatement kind text).message =
      "invalid statement at " ++ quoteText text ++ " (" ++
        kind.description ++ ")" := by
  cases kind <;> first | exact absurd rfl inside | rfl

theorem bracket_notMem_description (kind : Kind) :
    '(' ∉ kind.description.toList ++ [')'] := by
  cases kind with
  | keyword word =>
      cases word <;> decide
  | _ =>
      decide

theorem kind_eq_newline_of_description
    (same : kind.description.toList ++ [')'] = "newline)".toList) :
    kind = .newline := by
  cases kind with
  | newline =>
      rfl
  | keyword word =>
      cases word <;> exact absurd same (by decide)
  | _ =>
      exact absurd same (by decide)

theorem message_noStatement_ne
    (notNewline : kind ≠ .newline)
    (notEof : kind ≠ .eof) :
    (GrammarFault.noStatement kind text).message ≠
        "invalid statement at end of file" ∧
      (GrammarFault.noStatement kind text).message ≠
        "invalid statement at \"\\n\" (newline)" := by
  have letters : (GrammarFault.noStatement kind text).message.toList =
      ("invalid statement at " ++ quoteText text ++ " ").toList ++
        '(' :: (kind.description.toList ++ [')']) := by
    rw [message_noStatement notEof]
    simp [String.toList_append]
  constructor
  · intro same
    have bracket : '(' ∈ "invalid statement at end of file".toList := by
      rw [← same, letters]
      simp
    exact absurd bracket (by decide)
  · -- What stands in the brackets at the end is the name of the kind.
    intro same
    rw [same] at letters
    have split : "invalid statement at \"\\n\" (newline)".toList =
        "invalid statement at \"\\n\" ".toList ++
          '(' :: "newline)".toList := by
      decide
    rw [split] at letters
    have behind := eq_of_append_cons_of_notMem letters (by decide)
      (bracket_notMem_description kind)
    exact notNewline (kind_eq_newline_of_description behind.symm)

theorem mem_toList_append_left {c : Char} {mark : String}
    (member : c ∈ mark.toList) (rest : String) :
    c ∈ (mark ++ rest).toList := by
  rw [String.toList_append]
  exact List.mem_append_left _ member

theorem mem_toList_append_right {c : Char} {mark : String}
    (member : c ∈ mark.toList) (front : String) :
    c ∈ (front ++ mark).toList := by
  rw [String.toList_append]
  exact List.mem_append_right _ member

theorem colon_mem_message (fault : NameFault) :
    ':' ∈ fault.message.toList := by
  cases fault with
  | unbound name =>
      change ':' ∈
        ("referencing variable before assignment: " ++ name).toList
      exact mem_toList_append_left (by decide) name
  | repeatedLabel name =>
      change ':' ∈ ("label already exists: " ++ name).toList
      exact mem_toList_append_left (by decide) name
  | missingLabels names =>
      exact mem_toList_append_left (by decide) _

/-- All other messages of the grammar and of names have a comma or a colon. -/
theorem mark_mem_message {fault : Fault}
    (wellFormed : ∀ error, fault ≠ .lexical error)
    (starts : ∀ kind text span,
      fault ≠ .grammar (.noStatement kind text) span) :
    ',' ∈ fault.message.toList ∨ ':' ∈ fault.message.toList := by
  cases fault with
  | lexical error =>
      exact absurd rfl (wellFormed error)
  | grammar fault span =>
      cases fault with
      | unexpected wanted found =>
          left
          change ',' ∈
            ("expected " ++ wanted.description ++ ", found " ++
              found.description).toList
          exact mem_toList_append_left
            (mem_toList_append_right (by decide) _) _
      | noStatement kind text =>
          exact absurd rfl (starts kind text span)
      | bareAssignment name =>
          right
          change ':' ∈
            ("invalid statement at '" ++ name ++
              "': assignments must start with LET").toList
          exact mem_toList_append_right (by decide) _
  | name fault span =>
      exact Or.inr (colon_mem_message fault)

theorem message_ne {fault : Fault}
    (wellFormed : ∀ error, fault ≠ .lexical error)
    (inside : ∀ kind text span,
      fault = .grammar (.noStatement kind text) span →
        kind ≠ .newline ∧ kind ≠ .eof) :
    fault.message ≠ "invalid statement at end of file" ∧
      fault.message ≠ "invalid statement at \"\\n\" (newline)" := by
  by_cases denied : ∃ kind text span,
      fault = .grammar (.noStatement kind text) span
  · obtain ⟨kind, text, span, rfl⟩ := denied
    obtain ⟨notNewline, notEof⟩ := inside kind text span rfl
    exact message_noStatement_ne notNewline notEof
  · have marked := mark_mem_message wellFormed
      (fun kind text span same => denied ⟨kind, text, span, same⟩)
    constructor
    · intro same
      rw [same] at marked
      exact absurd marked (by decide)
    · intro same
      rw [same] at marked
      exact absurd marked (by decide)

end Messages

/-! ## Faults of turns -/

namespace Turn

variable {turn : Turn} {fault : Fault}

theorem step_ne_lexical (turn : Turn) (error : LexicalError) :
    turn.step.result ≠ .error (.lexical error) := by
  intro failed
  change (turn.reading.step _ _).result = _ at failed
  by_cases misused :
      ∃ fault, Reading.Misuse turn.reading turn.window.current fault
  · obtain ⟨fault, misuse⟩ := misused
    rw [Reading.step_of_misuse misuse] at failed
    cases failed
    cases misuse
  · rcases Reading.step_cases turn.reading turn.window.current
        turn.window.next with
      misuse | ⟨next, move⟩ | ⟨phase, frames, kind⟩ | ⟨fault, refused⟩
    · exact misused misuse
    · rw [Reading.step_of_move move
        (fun fault misuse => misused ⟨fault, misuse⟩)] at failed
      cases failed
    · rw [Reading.step_of_end phase frames kind] at failed
      cases failed
    · rw [refused] at failed
      cases failed

/-- A message that no statement starts with a token names the kind of the token
of which it is the turn. -/
theorem kind_of_noStatement {kind : Kind} {text : String} {span : Span}
    (failed :
      turn.step.result = .error (.grammar (.noStatement kind text) span)) :
    turn.EntersStatement ∧ turn.window.current.kind = kind := by
  have enters := entersStatement_of_denies failed rfl
  refine ⟨enters, ?_⟩
  obtain ⟨phase, starts⟩ := (entersStatement_iff turn).mp enters
  rw [step_of_start phase] at failed
  rcases Reading.readStart_of_not_passesBy starts with
    ⟨_, _, _, _, _, same⟩ | same
  · rw [same] at failed
    cases failed
  · rw [same, Reading.refuseStatement] at failed
    split at failed
    · cases failed
    · cases failed
      rfl

theorem message_ne_of_step
    (failed : turn.step.result = .error fault) :
    fault.message ≠ "invalid statement at end of file" ∧
      fault.message ≠ "invalid statement at \"\\n\" (newline)" := by
  apply message_ne
  · intro error same
    rw [same] at failed
    exact turn.step_ne_lexical error failed
  · intro kind text span same
    rw [same] at failed
    obtain ⟨enters, rfl⟩ := kind_of_noStatement failed
    exact enters.kind_ne

end Turn

theorem message_ne_of_check {labels : Labels} {fault : Fault}
    (failed : labels.check = .error fault) :
    fault.message ≠ "invalid statement at end of file" ∧
      fault.message ≠ "invalid statement at \"\\n\" (newline)" := by
  unfold Labels.check at failed
  split at failed
  · cases failed
  · cases failed
    apply message_ne
    · intro error same
      cases same
    · intro kind text span same
      cases same

/-! ## Reading a whole source -/

/-- A source is read in the given turns and with the given number of pulls, the
first two of which set up the window. -/
def ReadIn (source : List Char) (turns : List Turn) (pulls : Nat)
    (outcome : Except Fault Reading) : Prop :=
  ∃ window further, Window.ofSource source = .ok window ∧
    Turn.Takes ⟨.empty, window⟩ turns further outcome ∧
    pulls = further + 2

/-- What is written onto a page once the turns have come to their outcome and
the jumps have been checked. -/
def writtenOnto (page : Page) (outcome : Except Fault Reading) :
    Except Fault Page := do
  let reading ← outcome
  reading.labels.check
  return reading.write page

theorem writtenOnto_ok (page : Page) (reading : Reading) :
    writtenOnto page (.ok reading) =
      reading.labels.check >>= fun _ => .ok (reading.write page) :=
  rfl

/-- How the tokens of `body` are read, and the end of the source behind
them. -/
structure StaysInside
    (source : List Char) (body : List Token) (last : Token)
    (turns : List Turn) (pulls : Nat) (outcome : Except Fault Reading) :
    Prop where
  /-- Compiling onto any page goes on with the outcome. -/
  compiled : ∀ page,
    (compileOnto source page).result = writtenOnto page outcome
  /-- The rules that are entered meanwhile are noted in the turns. -/
  noted : ∀ page, ∃ later,
    (compileOnto source page).events =
        .entered .program :: turns.flatMap (·.step.events) ++ later ∧
      ∀ rule, .entered rule ∉ later
  /-- Each turn is that of the next token, the last possible one being that of
  the end of the source. -/
  placed : ∀ (index : Nat) (turn : Turn), turns[index]? = some turn →
    (body ++ [last])[index]? = some turn.window.current ∧
      turn.window.cursor = (Cursor.ofSource source).forward (index + 2)
  /-- The window is set up by two pulls and moved by one between two turns. -/
  counted : pulls = turns.length + 1
  /-- There are at most two pulls more than tokens before the end. -/
  bounded : pulls ≤ body.length + 2
  /-- There are as many if no fault is found. -/
  complete : ∀ reading, outcome = .ok reading → pulls = body.length + 2
  /-- No statement is entered at the end of a line or of the source. -/
  entered : ∀ turn ∈ turns, turn.EntersStatement →
    turn.window.current.kind ≠ .newline ∧ turn.window.current.kind ≠ .eof
  /-- Where a statement is left, the window has moved by three tokens or
  more. -/
  advanced : ∀ (index later : Nat) (entered left : Turn),
    turns[index]? = some entered → entered.EntersStatement →
    index ≤ later → turns[later]? = some left → entered.Leaves left →
      index + 3 ≤ later
  /-- Every statement that is entered is left if no fault is found. -/
  left : ∀ reading, outcome = .ok reading →
    ∀ (index : Nat) (entered : Turn),
      turns[index]? = some entered → entered.EntersStatement →
      ∃ (later : Nat) (left : Turn),
        index ≤ later ∧ turns[later]? = some left ∧ entered.Leaves left

section Sources

variable {source : List Char} {turns : List Turn} {pulls : Nat}
  {outcome : Except Fault Reading}

/-- The jumps are checked once the turns are over, and no rule is entered from
then on. -/
theorem ReadIn.compileOnto_eq
    (reads : ReadIn source turns pulls outcome)
    (page : Page) :
    ∃ later,
      compileOnto source page =
          ⟨.entered .program :: turns.flatMap (·.step.events) ++ later,
            writtenOnto page outcome⟩ ∧
        ∀ rule, .entered rule ∉ later := by
  obtain ⟨window, further, setUp, takes, _⟩ := reads
  have run : Reading.empty.run window =
      ⟨turns.flatMap (·.step.events), outcome⟩ :=
    takes.run_eq
  simp only [compileOnto, setUp, Window.compileOnto, Window.read, run]
  cases outcome with
  | error fault =>
      refine ⟨[], ?_, by simp⟩
      simp [bind, Traced.andThen, Traced.enter, Traced.note, writtenOnto,
        Except.bind]
  | ok reading =>
      rw [writtenOnto_ok]
      cases checked : reading.labels.check with
      | error fault =>
          refine ⟨[], ?_, by simp⟩
          simp [bind, Traced.andThen, Traced.enter, Traced.note,
            Traced.ofExcept, checked, Except.bind]
      | ok _ =>
          refine ⟨[.finished reading.bound.count], ?_, by simp⟩
          simp [bind, pure, Traced.andThen, Traced.enter, Traced.note,
            Traced.ofExcept, Traced.done, checked, Except.bind]

variable {body : List Token} {last : Token}

theorem ReadIn.staysInside
    (reads : ReadIn source turns pulls outcome)
    (tokenized : tokenize source = .ok (body ++ [last])) :
    StaysInside source body last turns pulls outcome := by
  have compiled := reads.compileOnto_eq
  obtain ⟨window, further, setUp, takes, rfl⟩ := reads
  obtain ⟨other, otherSetUp, shown⟩ := exists_ofSource tokenized
  rw [setUp] at otherSetUp
  cases otherSetUp
  obtain ⟨bound, whole⟩ :=
    takes.pulls_le tokenized shown (Nat.zero_le body.length)
  refine ⟨?compiled, ?noted, ?placed, ?counted, ?bounded, ?complete,
    ?entered, ?advanced, ?left⟩
  case compiled =>
    intro page
    obtain ⟨later, whole, _⟩ := compiled page
    rw [whole]
  case noted =>
    intro page
    obtain ⟨later, whole, noRule⟩ := compiled page
    rw [whole]
    exact ⟨later, rfl, noRule⟩
  case placed =>
    intro index turn found
    obtain ⟨there, notBehind⟩ :=
      takes.window_shows tokenized shown (Nat.zero_le _) found
    rw [Nat.zero_add] at there notBehind
    exact ⟨there.getElem?_eq tokenized notBehind, there.cursor⟩
  case counted =>
    rw [takes.length_eq tokenized shown]
  case bounded =>
    omega
  case complete =>
    intro reading done
    have := whole reading done
    omega
  case entered =>
    intro turn _ enters
    exact enters.kind_ne
  case advanced =>
    intro index later entered left found enters order foundLater leaves
    obtain ⟨_, fromThere⟩ := takes.drop found
    obtain ⟨count, rfl⟩ := Nat.exists_eq_add_of_le order
    rw [← List.getElem?_drop] at foundLater
    have many := fromThere.three_le_of_leaves enters foundLater leaves
    omega
  case left =>
    intro reading done index entered found enters
    subst done
    obtain ⟨_, fromThere⟩ := takes.drop found
    obtain ⟨count, left, foundLater, leaves⟩ :=
      fromThere.exists_leaves enters
    rw [List.getElem?_drop] at foundLater
    exact ⟨index + count, left, Nat.le_add_right index count, foundLater,
      leaves⟩

theorem ReadIn.message_ne {fault : Fault} {page : Page}
    (reads : ReadIn source turns pulls outcome)
    (tokenized : tokenize source = .ok (body ++ [last]))
    (failed : (compileOnto source page).result = .error fault) :
    fault.message ≠ "invalid statement at end of file" ∧
      fault.message ≠ "invalid statement at \"\\n\" (newline)" := by
  obtain ⟨later, whole, _⟩ := reads.compileOnto_eq page
  rw [whole] at failed
  obtain ⟨window, further, setUp, takes, _⟩ := reads
  cases outcome with
  | error found =>
      cases failed
      obtain ⟨other, otherSetUp, shown⟩ := exists_ofSource tokenized
      rw [setUp] at otherSetUp
      cases otherSetUp
      obtain ⟨turn, _, failedThere⟩ :=
        takes.exists_step_of_error tokenized shown
      exact Turn.message_ne_of_step failedThere
  | ok reading =>
      cases checked : reading.labels.check with
      | error found =>
          rw [writtenOnto_ok, checked] at failed
          cases failed
          exact message_ne_of_check checked
      | ok _ =>
          rw [writtenOnto_ok, checked] at failed
          cases failed

/-- A source with well-formed lexemes is read in turns that come to an end and
stay inside the source.  It is never refused for a statement that is missing at
the end of a line or of the source. -/
theorem compileOnto_stays_inside
    (tokenized : tokenize source = .ok (body ++ [last])) :
    (∃ turns pulls outcome, ReadIn source turns pulls outcome) ∧
      (∀ turns pulls outcome, ReadIn source turns pulls outcome →
        StaysInside source body last turns pulls outcome) ∧
      (last.kind = .eof ∧ ∀ token ∈ body, token.kind ≠ .eof) ∧
      ∀ page fault, (compileOnto source page).result = .error fault →
        fault.message ≠ "invalid statement at end of file" ∧
          fault.message ≠ "invalid statement at \"\\n\" (newline)" := by
  obtain ⟨window, setUp, _⟩ := exists_ofSource tokenized
  obtain ⟨turns, further, outcome, takes⟩ :=
    Turn.exists_takes ⟨.empty, window⟩
  have reads : ReadIn source turns (further + 2) outcome :=
    ⟨window, further, setUp, takes, rfl⟩
  refine ⟨⟨_, _, _, reads⟩, ?_, ?_, ?_⟩
  · intro turns pulls outcome reads
    exact reads.staysInside tokenized
  · exact ends_of_tokenize tokenized
  · intro page fault failed
    exact reads.message_ne tokenized failed

end Sources

/-- A block with empty lines before, in and behind what stands in it. -/
def spacedSource : List Char :=
  "IF 1 < 2 THEN\n\nPRINT 1\n\nENDIF\n\n".toList

/-- Its fourteen tokens are read with sixteen pulls. -/
theorem compileOnto_stays_inside_spaced :
    ∃ body last, tokenize spacedSource = .ok (body ++ [last]) ∧
      body.length = 14 ∧
      ∃ turns reading, ReadIn spacedSource turns 16 (.ok reading) := by
  have tokenized : tokenize spacedSource =
      .ok ([⟨.keyword .ifKw, "IF", ⟨0, 2⟩⟩, ⟨.number, "1", ⟨3, 4⟩⟩,
        ⟨.lt, "<", ⟨5, 6⟩⟩, ⟨.number, "2", ⟨7, 8⟩⟩,
        ⟨.keyword .thenKw, "THEN", ⟨9, 13⟩⟩, ⟨.newline, "\n", ⟨13, 14⟩⟩,
        ⟨.newline, "\n", ⟨14, 15⟩⟩, ⟨.keyword .printKw, "PRINT", ⟨15, 20⟩⟩,
        ⟨.number, "1", ⟨21, 22⟩⟩, ⟨.newline, "\n", ⟨22, 23⟩⟩,
        ⟨.newline, "\n", ⟨23, 24⟩⟩, ⟨.keyword .endifKw, "ENDIF", ⟨24, 29⟩⟩,
        ⟨.newline, "\n", ⟨29, 30⟩⟩, ⟨.newline, "\n", ⟨30, 31⟩⟩] ++
        [⟨.eof, "", ⟨31, 31⟩⟩]) := by
    decide +kernel
  have accepted :
      (compileOnto spacedSource (.empty 4)).result.toOption.isSome =
        true := by
    decide +kernel
  obtain ⟨⟨turns, pulls, outcome, reads⟩, inside, _, _⟩ :=
    compileOnto_stays_inside tokenized
  have stays := inside turns pulls outcome reads
  refine ⟨_, _, tokenized, rfl, ?_⟩
  cases outcome with
  | error fault =>
      rw [stays.compiled] at accepted
      cases accepted
  | ok reading =>
      have count : pulls = 16 := stays.complete reading rfl
      subst count
      exact ⟨turns, reading, reads⟩

end TeenyTiny
