import TeenyTiny.Proofs.Progress
import TeenyTiny.Proofs.Verdict

/-!
# The turns of a reading

A program is read in turns.  In each of them the token in front of the window
has its turn, and then the window moves by one token, for which it pulls one
from its cursor.  `Turn.Takes` lists the turns that follow each other and
counts the pulls.

From every turn on some turns are taken (`Turn.exists_takes`), and the run
notes what they note and ends as they do (`Turn.Takes.run_eq`).  If all lexemes
of a source are well-formed, the turns go through its tokens one by one, and
the window never moves away from the end of the source
(`Turn.Takes.window_shows`, `Turn.Takes.pulls_le`).
-/

namespace TeenyTiny

/-! ## Taking turns -/

/-- A reading, and the window that shows the token of which it is the turn. -/
structure Turn where
  reading : Reading
  window : Window

namespace Turn

/-- What the token does to the reading. -/
def step (turn : Turn) : Traced Fault Reading :=
  turn.reading.step turn.window.current turn.window.next

/-- The turns that are taken from one on, the number of tokens that are pulled
for them, and the outcome. -/
inductive Takes : Turn → List Turn → Nat → Except Fault Reading → Prop
  | fault {turn : Turn} {fault : Fault}
      (failed : turn.step.result = .error fault) :
      Takes turn [turn] 0 (.error fault)
  | finish {turn : Turn} {reading : Reading}
      (done : turn.step.result = .ok reading)
      (ends : turn.window.current.kind = .eof) :
      Takes turn [turn] 0 (.ok reading)
  | stuck {turn : Turn} {reading : Reading} {error : LexicalError}
      (done : turn.step.result = .ok reading)
      (inside : turn.window.current.kind ≠ .eof)
      (failed : turn.window.cursor.next.1 = .error error) :
      Takes turn [turn] 1 (.error (.lexical error))
  | more {turn : Turn} {reading : Reading} {token : Token}
      {turns : List Turn} {pulls : Nat} {outcome : Except Fault Reading}
      (done : turn.step.result = .ok reading)
      (inside : turn.window.current.kind ≠ .eof)
      (read : turn.window.cursor.next.1 = .ok token)
      (takes :
        Takes
          ⟨reading,
            ⟨turn.window.next, token, turn.window.cursor.next.2⟩⟩
          turns pulls outcome) :
      Takes turn (turn :: turns) (pulls + 1) outcome

/-- The turns come to an end, since a window can move only so often before it
shows the end of the source. -/
theorem exists_takes (turn : Turn) :
    ∃ turns pulls outcome, Takes turn turns pulls outcome := by
  cases done : turn.step.result with
  | error fault =>
      exact ⟨_, _, _, .fault done⟩
  | ok reading =>
      by_cases ends : turn.window.current.kind = .eof
      · exact ⟨_, _, _, .finish done ends⟩
      · cases read : turn.window.cursor.next.1 with
        | error error =>
            exact ⟨_, _, _, .stuck done ends read⟩
        | ok token =>
            have moves : turn.window.advance =
                .ok ⟨turn.window.next, token, turn.window.cursor.next.2⟩ := by
              unfold Window.advance
              split <;> simp_all
            have smaller := Window.size_advance_lt ends moves
            obtain ⟨turns, pulls, outcome, takes⟩ := exists_takes
              ⟨reading,
                ⟨turn.window.next, token, turn.window.cursor.next.2⟩⟩
            exact ⟨_, _, _, .more done ends read takes⟩
termination_by turn.window.size

variable {turn : Turn} {turns : List Turn} {pulls : Nat}
  {outcome : Except Fault Reading}

/-- A run notes what its turns note, and has their outcome. -/
theorem Takes.run_eq
    (takes : Takes turn turns pulls outcome) :
    turn.reading.run turn.window =
      ⟨turns.flatMap (·.step.events), outcome⟩ := by
  induction takes with
  | @fault turn fault failed =>
      rw [Reading.run]
      change turn.step.andThen _ = _
      simp [Traced.andThen, failed]
  | @finish turn reading done ends =>
      rw [Reading.run_of_eof turn.reading ends, ← done]
      simp [step]
  | @stuck turn reading error done inside failed =>
      rw [Reading.run_of_error turn.reading inside failed]
      change turn.step.andThen _ = _
      simp [Traced.andThen, Traced.fail, done]
  | @more turn reading token _ _ _ done inside read _ inductionHypothesis =>
      rw [Reading.run_of_ok turn.reading inside read]
      change turn.step.andThen _ = _
      simp only [Traced.andThen, done, inductionHypothesis, List.flatMap_cons]

theorem Takes.getElem?_zero
    (takes : Takes turn turns pulls outcome) :
    turns[0]? = some turn := by
  cases takes <;> rfl

/-- The turns from a later one on are those that it takes. -/
theorem Takes.drop {index : Nat} {later : Turn}
    (takes : Takes turn turns pulls outcome)
    (found : turns[index]? = some later) :
    ∃ further, Takes later (turns.drop index) further outcome := by
  induction index generalizing turn turns pulls with
  | zero =>
      rw [takes.getElem?_zero] at found
      cases found
      exact ⟨pulls, takes⟩
  | succ index inductionHypothesis =>
      cases takes with
      | fault _ | finish _ _ | stuck _ _ _ =>
          cases found
      | more _ _ _ takes =>
          exact inductionHypothesis takes found

/-- The next turn starts with what the step has made of the reading. -/
theorem Takes.step_of_next {later : Turn}
    (takes : Takes turn turns pulls outcome)
    (found : turns[1]? = some later) :
    turn.step.result = .ok later.reading ∧
      turn.window.current.kind ≠ .eof := by
  cases takes with
  | fault _ | finish _ _ | stuck _ _ _ =>
      cases found
  | more done inside _ takes =>
      rw [List.getElem?_cons_succ, takes.getElem?_zero] at found
      cases found
      exact ⟨done, inside⟩

end Turn

/-! ## The tokens of a source -/

/-- The tokens that a cursor yields are what its readings give. -/
theorem Cursor.Yields.outcome_eq {cursor : Cursor} {tokens : List Token}
    (yields : cursor.Yields tokens none)
    {index : Nat} {token : Token}
    (found : tokens[index]? = some token) :
    cursor.outcome index = .ok token := by
  generalize outcomeIs : none = outcome at yields
  induction yields generalizing index with
  | stop _ =>
      cases outcomeIs
  | finish read kind =>
      cases index with
      | zero =>
          cases found
          exact read
      | succ index =>
          cases found
  | @more cursor _ _ _ read _ _ inductionHypothesis =>
      cases index with
      | zero =>
          cases found
          exact read
      | succ index =>
          have later := inductionHypothesis found outcomeIs
          rw [Cursor.outcome, Nat.add_comm, Cursor.forward_add]
          exact later

section Tokenized

variable {source : List Char} {body : List Token} {last : Token}

theorem ends_of_tokenize
    (tokenized : tokenize source = .ok (body ++ [last])) :
    last.kind = .eof ∧ ∀ token ∈ body, token.kind ≠ .eof := by
  obtain ⟨_, _, same, kind, inside⟩ := exists_eof_of_tokenize tokenized
  obtain ⟨rfl, sameLast⟩ := List.append_inj' same rfl
  cases sameLast
  exact ⟨kind, inside⟩

/-- Every reading of a source with well-formed lexemes gives a token.  From the
end of the source on, that is the end again. -/
theorem exists_outcome_of_tokenize
    (tokenized : tokenize source = .ok (body ++ [last]))
    (index : Nat) :
    ∃ token, (Cursor.ofSource source).outcome index = .ok token ∧
      (token.kind = .eof ↔ body.length ≤ index) ∧
      (index ≤ body.length → (body ++ [last])[index]? = some token) := by
  have yields := yields_of_tokenize tokenized
  obtain ⟨kind, inside⟩ := ends_of_tokenize tokenized
  by_cases before : index < body.length
  · have member : (body ++ [last])[index]? = some body[index] := by
      rw [List.getElem?_append_left before, List.getElem?_eq_getElem before]
    refine ⟨body[index], yields.outcome_eq member, ?_, fun _ => member⟩
    exact iff_of_false (inside _ (List.getElem_mem before)) (by omega)
  · have member : (body ++ [last])[body.length]? = some last :=
      List.getElem?_concat_length
    have atEnd := yields.outcome_eq member
    have ends : isEnd ((Cursor.ofSource source).outcome body.length) =
        true := by
      rw [atEnd, isEnd_ok_iff]
      exact kind
    have stands := Cursor.stands_ofSource source
    have first := (Cursor.outcome_of_end stands ends (Nat.le_refl _)).1
    have there := (Cursor.outcome_of_end stands ends
      (Nat.le_of_not_lt before)).1
    rw [atEnd] at first
    rw [← first] at there
    refine ⟨last, there, iff_of_true kind (by omega), ?_⟩
    intro notBehind
    have same : index = body.length := by omega
    rw [same]
    exact member

/-! ## Windows on a source -/

/-- The window shows the tokens at the index and behind it, and no other token
has been pulled. -/
structure Window.Shows
    (window : Window) (source : List Char) (index : Nat) : Prop where
  current : (Cursor.ofSource source).outcome index = .ok window.current
  next : (Cursor.ofSource source).outcome (index + 1) = .ok window.next
  cursor : window.cursor = (Cursor.ofSource source).forward (index + 2)

namespace Window.Shows

variable {window : Window} {index : Nat}

/-- With the next token the window shows what stands at the next index. -/
theorem move {token : Token}
    (shown : window.Shows source index)
    (read : window.cursor.next.1 = .ok token) :
    Shows ⟨window.next, token, window.cursor.next.2⟩ source
      (index + 1) := by
  refine ⟨shown.next, ?_, ?_⟩
  · rw [shown.cursor] at read
    exact read
  · rw [shown.cursor]
    rfl

theorem kind_eq_eof_iff
    (shown : window.Shows source index)
    (tokenized : tokenize source = .ok (body ++ [last])) :
    window.current.kind = .eof ↔ body.length ≤ index := by
  obtain ⟨token, outcome, ends, _⟩ :=
    exists_outcome_of_tokenize tokenized index
  rw [shown.current] at outcome
  cases outcome
  exact ends

theorem getElem?_eq
    (shown : window.Shows source index)
    (tokenized : tokenize source = .ok (body ++ [last]))
    (notBehind : index ≤ body.length) :
    (body ++ [last])[index]? = some window.current := by
  obtain ⟨token, outcome, _, member⟩ :=
    exists_outcome_of_tokenize tokenized index
  rw [shown.current] at outcome
  cases outcome
  exact member notBehind

/-- The cursor behind the window always has a token to give. -/
theorem cursor_ne_error
    (shown : window.Shows source index)
    (tokenized : tokenize source = .ok (body ++ [last]))
    (error : LexicalError) :
    window.cursor.next.1 ≠ .error error := by
  obtain ⟨token, read, _⟩ :=
    exists_outcome_of_tokenize tokenized (index + 2)
  rw [Cursor.outcome, ← shown.cursor] at read
  rw [read]
  simp

end Window.Shows

theorem exists_ofSource
    (tokenized : tokenize source = .ok (body ++ [last])) :
    ∃ window, Window.ofSource source = .ok window ∧
      window.Shows source 0 := by
  obtain ⟨current, read, _⟩ := exists_outcome_of_tokenize tokenized 0
  obtain ⟨next, nextRead, _⟩ := exists_outcome_of_tokenize tokenized 1
  exact ⟨_, Window.ofSource_of_ok read nextRead, read, nextRead, rfl⟩

/-! ## Turns on a source -/

namespace Turn.Takes

variable {turn : Turn} {turns : List Turn} {pulls index : Nat}
  {outcome : Except Fault Reading}

/-- The turns go through the tokens one by one, and none of them is behind the
end of the source. -/
theorem window_shows
    (takes : Takes turn turns pulls outcome)
    (tokenized : tokenize source = .ok (body ++ [last]))
    (shown : turn.window.Shows source index)
    (notBehind : index ≤ body.length)
    {count : Nat} {later : Turn}
    (found : turns[count]? = some later) :
    later.window.Shows source (index + count) ∧
      index + count ≤ body.length := by
  induction count generalizing turn turns pulls index with
  | zero =>
      rw [takes.getElem?_zero] at found
      cases found
      exact ⟨shown, notBehind⟩
  | succ count inductionHypothesis =>
      cases takes with
      | fault _ | finish _ _ | stuck _ _ _ =>
          cases found
      | more _ inside read takes =>
          -- The window leaves its token, so that is not the last one.
          rw [Ne, shown.kind_eq_eof_iff tokenized] at inside
          have further := inductionHypothesis takes (shown.move read)
            (by omega) found
          rw [Nat.add_assoc, Nat.add_comm 1 count] at further
          exact further

/-- No token is pulled that would move the window away from the end of the
source, and all others are unless there is a fault. -/
theorem pulls_le
    (takes : Takes turn turns pulls outcome)
    (tokenized : tokenize source = .ok (body ++ [last]))
    (shown : turn.window.Shows source index)
    (notBehind : index ≤ body.length) :
    index + pulls ≤ body.length ∧
      ∀ reading, outcome = .ok reading → index + pulls = body.length := by
  induction takes generalizing index with
  | fault _ =>
      refine ⟨notBehind, ?_⟩
      intro reading impossible
      cases impossible
  | finish _ ends =>
      rw [shown.kind_eq_eof_iff tokenized] at ends
      refine ⟨notBehind, ?_⟩
      intro _ _
      omega
  | stuck _ _ failed =>
      exact absurd failed (shown.cursor_ne_error tokenized _)
  | more done inside read _ inductionHypothesis =>
      rw [Ne, shown.kind_eq_eof_iff tokenized] at inside
      obtain ⟨bound, whole⟩ := inductionHypothesis (shown.move read)
        (by omega)
      refine ⟨by omega, ?_⟩
      intro reading same
      have := whole reading same
      omega

/-- One token is pulled between every two turns. -/
theorem length_eq
    (takes : Takes turn turns pulls outcome)
    (tokenized : tokenize source = .ok (body ++ [last]))
    (shown : turn.window.Shows source index) :
    turns.length = pulls + 1 := by
  induction takes generalizing index with
  | fault _ | finish _ _ =>
      rfl
  | stuck _ _ failed =>
      exact absurd failed (shown.cursor_ne_error tokenized _)
  | more _ _ read _ inductionHypothesis =>
      rw [List.length_cons, inductionHypothesis (shown.move read)]

/-- The fault that ends the turns is found in one of them. -/
theorem exists_step_of_error {fault : Fault}
    (takes : Takes turn turns pulls (.error fault))
    (tokenized : tokenize source = .ok (body ++ [last]))
    (shown : turn.window.Shows source index) :
    ∃ later ∈ turns, later.step.result = .error fault := by
  generalize outcomeIs : Except.error fault = outcome at takes
  induction takes generalizing index with
  | fault failed =>
      cases outcomeIs
      exact ⟨_, List.mem_singleton_self _, failed⟩
  | finish _ _ =>
      cases outcomeIs
  | stuck _ _ failed =>
      exact absurd failed (shown.cursor_ne_error tokenized _)
  | more _ _ read _ inductionHypothesis =>
      obtain ⟨later, member, failed⟩ :=
        inductionHypothesis (shown.move read) outcomeIs
      exact ⟨later, List.mem_cons_of_mem _ member, failed⟩

end Turn.Takes

end Tokenized

end TeenyTiny
