import TeenyTiny.Compile
import TeenyTiny.Proofs.Move

/-!
# Reading a list of tokens

A program is read through a window that moves over the source.  Seen as a
whole, that is reading the list of the tokens, each with a look at the next.
If all lexemes are well-formed, every token has its turn
(`compile_of_yields`).  If one is not, the token right before it has none
(`result_compile_of_yields`).
-/

namespace TeenyTiny

/-! ## Laws of traced results -/

namespace Traced

variable {Failure Result Next Last : Type}

theorem andThen_done (traced : Traced Failure Result) :
    traced.andThen .done = traced := by
  obtain ⟨events, result⟩ := traced
  cases result <;> simp [andThen, done]

theorem andThen_assoc
    (traced : Traced Failure Result)
    (next : Result → Traced Failure Next)
    (last : Next → Traced Failure Last) :
    (traced.andThen next).andThen last =
      traced.andThen fun result => (next result).andThen last := by
  obtain ⟨events, result⟩ := traced
  cases result with
  | error failure =>
      rfl
  | ok result =>
      cases outcome : (next result).result <;> simp [andThen, outcome]

end Traced

/-! ## The tokens in front of a cursor -/

namespace Cursor

/-- What is read from a cursor on: the tokens to the end of the source, or
those before the first malformed lexeme and the error that it makes. -/
inductive Yields : Cursor → List Token → Option LexicalError → Prop
  | stop {cursor : Cursor} {error : LexicalError} :
      cursor.next.1 = .error error →
      Yields cursor [] (some error)
  | finish {cursor : Cursor} {token : Token} :
      cursor.next.1 = .ok token →
      token.kind = .eof →
      Yields cursor [token] none
  | more {cursor : Cursor} {token : Token} {tokens : List Token}
      {outcome : Option LexicalError} :
      cursor.next.1 = .ok token →
      token.kind ≠ .eof →
      Yields cursor.next.2 tokens outcome →
      Yields cursor (token :: tokens) outcome

variable {cursor : Cursor} {tokens : List Token}
  {outcome : Option LexicalError}

/-- All tokens but the one that ends the source stand for text. -/
theorem Yields.inside {token : Token}
    (yields : Yields cursor tokens outcome)
    (member : token ∈ tokens.dropLast) :
    token.kind ≠ .eof := by
  induction yields with
  | stop _ | finish _ _ =>
      cases member
  | @more _ _ tokens _ _ inside yields inductionHypothesis =>
      cases tokens with
      | nil =>
          cases member
      | cons _ _ =>
          rcases List.mem_cons.mp member with rfl | later
          · exact inside
          · exact inductionHypothesis later

/-- Without an error, the end of the source is the last token. -/
theorem Yields.exists_eof
    (yields : Yields cursor tokens none) :
    ∃ body last, tokens = body ++ [last] ∧ last.kind = .eof := by
  generalize outcomeIs : none = outcome at yields
  induction yields with
  | stop _ =>
      cases outcomeIs
  | finish _ kind =>
      exact ⟨[], _, rfl, kind⟩
  | more _ _ _ inductionHypothesis =>
      obtain ⟨body, last, rfl, kind⟩ := inductionHypothesis outcomeIs
      exact ⟨_ :: body, last, rfl, kind⟩

/-- The tokens of a cursor are those that it yields, or else the error is. -/
theorem Yields.tokens_eq
    (yields : Yields cursor tokens outcome) :
    cursor.tokens = outcome.elim (.ok tokens) .error := by
  induction yields with
  | stop failed =>
      unfold Cursor.tokens
      split <;> simp_all
  | finish read kind =>
      unfold Cursor.tokens
      split <;> simp_all
  | @more _ _ _ outcome read inside _ inductionHypothesis =>
      unfold Cursor.tokens
      split
      · simp_all
      · rename_i other otherRead
        rw [read] at otherRead
        cases otherRead
        rw [dif_neg inside, inductionHypothesis]
        cases outcome <;> rfl

theorem items_of_error {error : LexicalError}
    (failed : cursor.next.1 = .error error) :
    cursor.items = [.error error] := by
  unfold items
  split <;> simp_all

theorem items_of_eof {token : Token}
    (read : cursor.next.1 = .ok token)
    (kind : token.kind = .eof) :
    cursor.items = [] := by
  unfold items
  split <;> simp_all

theorem items_of_token {token : Token}
    (read : cursor.next.1 = .ok token)
    (inside : token.kind ≠ .eof) :
    cursor.items = .ok token :: cursor.next.2.items := by
  rw [items]
  split <;> simp_all

/-- A feed hands out the tokens before the error, and then the error. -/
theorem Yields.items_eq {error : LexicalError}
    (yields : Yields cursor tokens (some error)) :
    cursor.items = tokens.map .ok ++ [.error error] := by
  generalize outcomeIs : some error = outcome at yields
  induction yields with
  | stop failed =>
      cases outcomeIs
      exact items_of_error failed
  | finish _ _ =>
      cases outcomeIs
  | more read inside _ inductionHypothesis =>
      rw [items_of_token read inside, inductionHypothesis outcomeIs]
      rfl

theorem exists_yields (cursor : Cursor) :
    ∃ tokens outcome, Yields cursor tokens outcome := by
  cases read : cursor.next.1 with
  | error error =>
      exact ⟨[], some error, .stop read⟩
  | ok token =>
      by_cases kind : token.kind = .eof
      · exact ⟨[token], none, .finish read kind⟩
      · have := length_next_rest_lt read kind
        obtain ⟨tokens, outcome, yields⟩ := exists_yields cursor.next.2
        exact ⟨token :: tokens, outcome, .more read kind yields⟩
termination_by cursor.rest.length

end Cursor

/-- A source is cut into tokens if its cursor yields them to the end. -/
theorem yields_of_tokenize {source : List Char} {tokens : List Token}
    (tokenized : tokenize source = .ok tokens) :
    (Cursor.ofSource source).Yields tokens none := by
  obtain ⟨found, outcome, yields⟩ :=
    (Cursor.ofSource source).exists_yields
  rw [tokenize, yields.tokens_eq] at tokenized
  cases outcome with
  | none =>
      cases tokenized
      exact yields
  | some _ =>
      cases tokenized

/-- A source that is not cut into tokens yields those before its error. -/
theorem yields_of_tokenize_error
    {source : List Char} {error : LexicalError}
    (failed : tokenize source = .error error) :
    ∃ tokens, (Cursor.ofSource source).Yields tokens (some error) := by
  obtain ⟨tokens, outcome, yields⟩ :=
    (Cursor.ofSource source).exists_yields
  rw [tokenize, yields.tokens_eq] at failed
  cases outcome with
  | none =>
      cases failed
  | some _ =>
      cases failed
      exact ⟨tokens, yields⟩

/-! ## The end of the source stays the end -/

/-- No lexeme has the kind of the end of the source. -/
theorem Lexeme.reading_read_ne_eof (first : Char) (rest : List Char) :
    (Lexeme.read first rest).reading ≠ .ok .eof := by
  unfold Lexeme.read
  split
  case h_6 | h_7 | h_8 => unfold Lexeme.operator; split <;> simp
  case h_9 => unfold Lexeme.bang; split <;> simp
  case h_10 => unfold Lexeme.string; split <;> simp
  case h_11 =>
    split
    · unfold Lexeme.number
      split
      · unfold Lexeme.pointed
        dsimp only
        split <;> simp
      · simp
    · split
      · unfold Lexeme.word
        dsimp only
        split <;> simp
      · simp
  all_goals simp

/-- Behind the end of the source stands the same end again. -/
theorem Cursor.next_of_eof {cursor : Cursor} {token : Token}
    (read : cursor.next.1 = .ok token)
    (kind : token.kind = .eof) :
    cursor.next.2.next.1 = .ok token := by
  unfold Cursor.next at read
  split at read
  · rename_i front
    cases read
    simp [Cursor.next, Cursor.start, front, splitBlanks, byteLength]
  · rename_i first rest _
    unfold Lexeme.toToken at read
    dsimp only at read
    split at read
    · rename_i found
      cases read
      cases kind
      exact absurd found (Lexeme.reading_read_ne_eof first rest)
    · cases read

/-! ## Reading token by token -/

namespace Reading

/-- Reads the tokens of a list up to the last, which is only looked at. -/
def readSeen (reading : Reading) : List Token → Traced Fault Reading
  | current :: next :: rest =>
      (reading.step current next).andThen (·.readSeen (next :: rest))
  | _ => .done reading

/-- Reads all tokens of a list.  The last one is followed by itself. -/
def readAll (reading : Reading) : List Token → Traced Fault Reading
  | current :: next :: rest =>
      (reading.step current next).andThen (·.readAll (next :: rest))
  | [last] => reading.step last last
  | [] => .done reading

/-- Reads what a cursor yields.  The error comes into view before the last
token has its turn. -/
def readYield (reading : Reading) (tokens : List Token) :
    Option LexicalError → Traced Fault Reading
  | none => reading.readAll tokens
  | some error =>
      (reading.readSeen tokens).andThen fun _ => .fail (.lexical error)

theorem readYield_cons_cons
    (reading : Reading) (current next : Token) (rest : List Token)
    (outcome : Option LexicalError) :
    reading.readYield (current :: next :: rest) outcome =
      (reading.step current next).andThen
        (·.readYield (next :: rest) outcome) := by
  cases outcome with
  | none =>
      rfl
  | some _ =>
      exact Traced.andThen_assoc _ _ _

theorem readAll_concat (reading : Reading) (body : List Token) (last : Token) :
    reading.readAll (body ++ [last]) =
      (reading.readSeen (body ++ [last])).andThen (·.step last last) := by
  induction body generalizing reading with
  | nil =>
      simp [readAll, readSeen, Traced.andThen, Traced.done]
  | cons first body inductionHypothesis =>
      cases body with
      | nil =>
          simp only [List.cons_append, List.nil_append, readAll, readSeen,
            Traced.andThen_assoc]
          rfl
      | cons second body =>
          simp only [List.cons_append, readAll, readSeen,
            Traced.andThen_assoc]
          congr 1
          funext next
          exact inductionHypothesis next

theorem run_of_eof (reading : Reading) {window : Window}
    (kind : window.current.kind = .eof) :
    reading.run window = reading.step window.current window.next := by
  unfold run
  simp only [dif_pos kind]
  exact Traced.andThen_done _

theorem run_of_error (reading : Reading) {window : Window}
    {error : LexicalError}
    (inside : window.current.kind ≠ .eof)
    (failed : window.cursor.next.1 = .error error) :
    reading.run window =
      (reading.step window.current window.next).andThen
        fun _ => .fail (.lexical error) := by
  have stuck : window.advance = .error error := by
    unfold Window.advance
    split <;> simp_all
  unfold run
  simp only [dif_neg inside]
  congr 1
  funext next
  split <;> simp_all

theorem run_of_ok (reading : Reading) {window : Window} {token : Token}
    (inside : window.current.kind ≠ .eof)
    (read : window.cursor.next.1 = .ok token) :
    reading.run window =
      (reading.step window.current window.next).andThen
        (·.run ⟨window.next, token, window.cursor.next.2⟩) := by
  have moves : window.advance =
      .ok ⟨window.next, token, window.cursor.next.2⟩ := by
    unfold Window.advance
    split <;> simp_all
  rw [run]
  simp only [dif_neg inside]
  congr 1
  funext next
  split <;> simp_all

theorem run_before_eof (reading : Reading) {current last : Token}
    {cursor : Cursor}
    (inside : current.kind ≠ .eof)
    (kind : last.kind = .eof)
    (read : cursor.next.1 = .ok last) :
    reading.run ⟨current, last, cursor⟩ = reading.readAll [current, last] := by
  rw [run_of_ok reading inside read]
  congr 1
  funext next
  exact run_of_eof next kind

/-- Reading through a window is reading what the window and the cursor behind
it yield. -/
theorem run_of_yields (reading : Reading) {current next : Token}
    {cursor : Cursor} {rest : List Token} {outcome : Option LexicalError}
    (inside : current.kind ≠ .eof)
    (nextInside : next.kind ≠ .eof)
    (yields : cursor.Yields rest outcome) :
    reading.run ⟨current, next, cursor⟩ =
      reading.readYield (current :: next :: rest) outcome := by
  induction yields generalizing reading current next with
  | stop failed =>
      rw [run_of_error reading inside failed, readYield_cons_cons]
      rfl
  | finish read kind =>
      -- The window moves once more, and then it shows the end twice.
      rw [run_of_ok reading inside read, readYield_cons_cons]
      congr 1
      funext moved
      exact run_before_eof moved nextInside kind
        (Cursor.next_of_eof read kind)
  | more read tokenInside _ inductionHypothesis =>
      rw [run_of_ok reading inside read, readYield_cons_cons]
      congr 1
      funext moved
      exact inductionHypothesis moved nextInside tokenInside

end Reading

/-! ## Compiling a list of tokens -/

/-- The program that a list of tokens makes, in C. -/
def compileTokens (tokens : List Token) (width : Nat) :
    Traced Fault String := do
  .enter .program
  let reading ← Reading.empty.readAll tokens
  .ofExcept reading.labels.check
  .note (.finished reading.bound.count)
  let page := reading.write (.empty width)
  .note (.generated page.text.utf8ByteSize)
  return page.text

theorem Window.ofSource_of_ok {source : List Char} {current next : Token}
    (read : (Cursor.ofSource source).next.1 = .ok current)
    (nextRead : (Cursor.ofSource source).next.2.next.1 = .ok next) :
    Window.ofSource source =
      .ok ⟨current, next, (Cursor.ofSource source).next.2.next.2⟩ := by
  simp only [Window.ofSource, read]
  split <;> simp_all

theorem Window.ofSource_of_error {source : List Char} {current : Token}
    {error : LexicalError}
    (read : (Cursor.ofSource source).next.1 = .ok current)
    (failed : (Cursor.ofSource source).next.2.next.1 = .error error) :
    Window.ofSource source = .error error := by
  simp only [Window.ofSource, read]
  split <;> simp_all

/-- A window that can be set up is read as its source yields.  It cannot be
set up if one of the first two lexemes is malformed. -/
theorem Window.ofSource_cases
    {source : List Char} {tokens : List Token}
    {outcome : Option LexicalError}
    (yields : (Cursor.ofSource source).Yields tokens outcome) :
    (∃ window, Window.ofSource source = .ok window ∧
        ∀ reading : Reading,
          reading.run window = reading.readYield tokens outcome) ∨
      ∃ error, outcome = some error ∧ tokens.length ≤ 1 ∧
        Window.ofSource source = .error error := by
  cases yields with
  | stop failed =>
      refine Or.inr ⟨_, rfl, Nat.zero_le 1, ?_⟩
      simp [Window.ofSource, failed]
  | finish read kind =>
      have again := Cursor.next_of_eof read kind
      exact Or.inl ⟨_, Window.ofSource_of_ok read again,
        fun reading => reading.run_of_eof kind⟩
  | more read inside yields =>
      cases yields with
      | stop failed =>
          exact Or.inr ⟨_, rfl, Nat.le_refl 1,
            Window.ofSource_of_error read failed⟩
      | finish lastRead kind =>
          have again := Cursor.next_of_eof lastRead kind
          exact Or.inl ⟨_, Window.ofSource_of_ok read lastRead,
            fun reading => reading.run_before_eof inside kind again⟩
      | more nextRead nextInside yields =>
          exact Or.inl ⟨_, Window.ofSource_of_ok read nextRead,
            fun reading => reading.run_of_yields inside nextInside yields⟩

/-- If all lexemes are well-formed, compiling the source is compiling the list
of its tokens. -/
theorem compile_of_yields {source : List Char} {tokens : List Token}
    (yields : (Cursor.ofSource source).Yields tokens none)
    (width : Nat) :
    compile source width = compileTokens tokens width := by
  rcases Window.ofSource_cases yields with
    ⟨window, setUp, runs⟩ | ⟨error, impossible, _⟩
  · have runs := runs .empty
    simp only [compile, compileOnto, setUp, Window.compileOnto, Window.read,
      runs, compileTokens, bind, pure, Traced.andThen_assoc]
    rfl
  · cases impossible

/-- A malformed lexeme is the fault, unless a token before the last one in
front of it makes another. -/
theorem result_compile_of_yields
    {source : List Char} {tokens : List Token} {error : LexicalError}
    (yields : (Cursor.ofSource source).Yields tokens (some error))
    (width : Nat) :
    (compile source width).result =
      match (Reading.empty.readSeen tokens).result with
      | .error fault => .error fault
      | .ok _ => .error (.lexical error) := by
  rcases Window.ofSource_cases yields with
    ⟨window, setUp, runs⟩ | ⟨other, same, short, failed⟩
  · have runs := runs .empty
    simp only [compile, compileOnto, setUp, Window.compileOnto, Window.read,
      runs, Reading.readYield, Traced.result_bind, Traced.result_andThen,
      Traced.result_enter, Traced.result_fail]
    cases (Reading.empty.readSeen tokens).result <;> rfl
  · cases same
    have seen : Reading.empty.readSeen tokens = .done .empty := by
      match tokens, short with
      | [], _ => rfl
      | [_], _ => rfl
    simp [compile, compileOnto, failed, seen]

/-- Compiling fails where the reading or the check of the jumps does. -/
theorem result_compileTokens (tokens : List Token) (width : Nat) :
    (compileTokens tokens width).result =
      match (Reading.empty.readAll tokens).result with
      | .error fault => .error fault
      | .ok reading =>
          match reading.labels.check with
          | .error fault => .error fault
          | .ok _ => .ok (reading.write (.empty width)).text := by
  simp only [compileTokens, Traced.result_bind, Traced.result_enter,
    Traced.result_ofExcept, Traced.result_note, Traced.result_pure]
  cases (Reading.empty.readAll tokens).result with
  | error _ =>
      rfl
  | ok reading =>
      dsimp only
      cases reading.labels.check <;> rfl

end TeenyTiny
