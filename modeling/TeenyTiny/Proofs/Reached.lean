import TeenyTiny.Proofs.Completion
import TeenyTiny.Proofs.Names

/-!
# Readings that tokens lead to

`Reached before reading` says that the tokens `before` have been read and have
led to the reading.  Such a reading knows the names in those tokens, as `Knows`
spells out.  What a name does takes effect at the end of its line, so the name
of the open line is kept apart as pending.

Reached readings are determined by their tokens, and their tokens start some
grammatical source (`Reached.viable`).
-/

namespace TeenyTiny

/-! ## Names of the open line -/

/-- The keyword before a name that is put to the given use. -/
def NameUse.keyword : NameUse → Keyword
  | .label => .labelKw
  | .jump => .gotoKw
  | .input => .inputKw

/-- The variable that an expression is assigned to. -/
def Goal.target : Goal → Option String
  | .assign name => some name
  | _ => none

/-- The keyword whose name comes next. -/
def Phase.asks : Phase → Option Keyword
  | .name use => some use.keyword
  | .target => some .letKw
  | _ => none

/-- The name behind the given keyword that has had no effect yet. -/
def Phase.pending (word : Keyword) : Phase → List String
  | .named use token => if use.keyword = word then [token.text] else []
  | .equals assigned => if word = .letKw then [assigned] else []
  | .factor goal _ => if word = .letKw then goal.target.toList else []
  | .signed goal _ _ => if word = .letKw then goal.target.toList else []
  | .operator goal _ _ => if word = .letKw then goal.target.toList else []
  | _ => []

/-! ## Tables of names -/

theorem Labels.mem_insertTarget
    (name : String) (span : Span) (targets : List (String × Span))
    (tested : String) :
    tested ∈ (insertTarget name span targets).map Prod.fst ↔
      tested ∈ targets.map Prod.fst ∨ tested = name := by
  induction targets with
  | nil =>
      simp [insertTarget]
  | cons target rest inductionHypothesis =>
      unfold insertTarget
      split
      · simp only [List.map_cons, List.mem_cons]
        exact or_comm
      · split
        · rename_i same
          simp only [List.map_cons, List.mem_cons]
          constructor
          · exact Or.inl
          · rintro (member | rfl)
            · exact member
            · exact Or.inl same
        · simp only [List.map_cons, List.mem_cons, inductionHypothesis]
          exact or_assoc.symm

theorem Variables.contains_bind
    (bound : Variables) (name tested : String) :
    (bound.bind name).contains tested = true ↔
      bound.contains tested = true ∨ tested = name := by
  by_cases known : bound.contains name = true
  · rw [bind, if_pos known]
    constructor
    · exact Or.inl
    · rintro (member | rfl)
      · exact member
      · exact known
  · rw [bind, if_neg known]
    simp [contains]

namespace Reading

variable {reading next : Reading} {token : Token}

/-! ## What a move does to names -/

/-- All pending names have had their effect. -/
structure Settles (reading next : Reading) : Prop where
  declared :
    next.labels.declared.reverse =
      reading.labels.declared.reverse ++ reading.phase.pending .labelKw
  jumps : ∀ name,
    name ∈ next.labels.targets.map Prod.fst ↔
      name ∈ reading.labels.targets.map Prod.fst ∨
        name ∈ reading.phase.pending .gotoKw
  bound : ∀ name,
    next.bound.contains name = true ↔
      reading.bound.contains name = true ∨
        name ∈ reading.phase.pending .inputKw ∨
        name ∈ reading.phase.pending .letKw

theorem settles_of_finish {statement : Statement}
    (ends : reading.phase.atLineEnd = some statement) :
    Settles reading (reading.settle.push statement) := by
  obtain ⟨phase, statements, frames, bound, labels⟩ := reading
  cases phase with
  | named use name =>
      cases use <;> constructor <;>
        simp [settle, push, Phase.pending, Labels.jump, NameUse.keyword,
          Labels.mem_insertTarget, Variables.contains_bind]
  | operator goal sum term =>
      cases goal <;> constructor <;>
        simp_all [settle, push, Phase.pending, Goal.target,
          Variables.contains_bind, Phase.atLineEnd]
  | complete statement =>
      constructor <;> simp [settle, push, Phase.pending]
  | _ =>
      cases ends

theorem settles_of_idle
    (idle : ∀ word, reading.phase.pending word = [])
    (bound : next.bound = reading.bound)
    (labels : next.labels = reading.labels) :
    Settles reading next := by
  constructor <;> simp [idle, bound, labels]

/-- A name comes next exactly behind a keyword that takes one. -/
theorem Move.asks_iff
    (move : Move reading token next)
    {word : Keyword} (takes : word.takesName = true) :
    token.kind = .keyword word ↔ next.phase.asks = some word := by
  cases move with
  | blank phase kind =>
      simp [kind, phase, Phase.asks]
  | @word other _ _ _ kind starts =>
      cases other <;> cases starts <;> cases word <;>
        simp_all [Phase.asks, goTo, NameUse.keyword, Keyword.takesName]
  | @close frame _ _ _ kind =>
      cases block : frame.block <;> cases word <;>
        simp_all [Phase.asks, closeBlock, Block.closer, Keyword.takesName]
  | text _ kind =>
      simp [kind, Phase.asks, goTo]
  | name _ kind =>
      simp [kind, Phase.asks, goTo]
  | target _ kind =>
      simp [kind, Phase.asks, goTo]
  | equals _ kind =>
      simp [kind, Phase.asks, goTo]
  | @sign _ _ op _ kind =>
      have noWord : Operator.kind op ≠ .keyword word :=
        Operator.kind_ne op (by simp [Kind.band])
      simp [kind, noWord, Phase.asks, goTo]
  | operand _ spelled =>
      cases spelled with
      | number kind => simp [kind, Phase.asks, goTo]
      | name kind => simp [kind, Phase.asks, goTo]
  | @multiply _ _ _ op _ kind =>
      have noWord : Operator.kind op ≠ .keyword word :=
        Operator.kind_ne op (by simp [Kind.band])
      simp [kind, noWord, Phase.asks, goTo]
  | @add _ _ _ op _ kind =>
      have noWord : Operator.kind op ≠ .keyword word :=
        Operator.kind_ne op (by simp [Kind.band])
      simp [kind, noWord, Phase.asks, goTo]
  | @compare _ _ _ _ op _ kind =>
      have noWord : Operator.kind op ≠ .keyword word :=
        Operator.kind_ne op (by simp [Kind.band])
      simp [kind, noWord, Phase.asks, goTo]
  | @divide block _ _ _ _ _ kind =>
      cases block <;> cases word <;>
        simp_all [Phase.asks, goTo, Block.divider, Keyword.takesName]
  | enter _ kind =>
      simp [kind, Phase.asks, openBlock]
  | finish _ kind =>
      simp [kind, Phase.asks, push]

/-- A move takes in the name that comes next, or ends a line, or leaves all
names as they are. -/
theorem Move.names_cases
    (move : Move reading token next) :
    (∃ word, reading.phase.asks = some word ∧ token.kind = .ident ∧
        next.bound = reading.bound ∧ next.labels = reading.labels ∧
        (∀ other, reading.phase.pending other = []) ∧
        ∀ other, next.phase.pending other =
          if other = word then [token.text] else []) ∨
      (reading.phase.asks = none ∧ token.kind = .newline ∧
        Settles reading next ∧ ∀ other, next.phase.pending other = []) ∨
      (reading.phase.asks = none ∧ token.kind ≠ .newline ∧
        next.bound = reading.bound ∧ next.labels = reading.labels ∧
        ∀ other, next.phase.pending other = reading.phase.pending other) := by
  obtain ⟨phase, statements, frames, bound, labels⟩ := reading
  cases move with
  | name atName kind =>
      cases atName
      refine Or.inl ⟨_, rfl, kind, rfl, rfl, fun other => rfl, fun other => ?_⟩
      simp [goTo, Phase.pending, eq_comm]
  | target atTarget kind =>
      cases atTarget
      refine Or.inl ⟨_, rfl, kind, rfl, rfl, fun other => rfl, fun other => ?_⟩
      simp [goTo, Phase.pending]
  | blank atStart kind =>
      cases atStart
      exact Or.inr (Or.inl ⟨rfl, kind,
        settles_of_idle (fun other => rfl) rfl rfl, fun other => rfl⟩)
  | enter opened kind =>
      cases opened
      exact Or.inr (Or.inl ⟨rfl, kind,
        settles_of_idle (fun other => rfl) rfl rfl, fun other => rfl⟩)
  | finish ends kind =>
      refine Or.inr (Or.inl
        ⟨?_, kind, settles_of_finish ends, fun other => rfl⟩)
      cases phase <;> first | rfl | cases ends
  | @word word _ _ atStart kind starts =>
      cases atStart
      refine Or.inr (Or.inr ⟨rfl, by simp [kind], rfl, rfl, fun other => ?_⟩)
      cases word <;> cases starts <;> simp [goTo, Phase.pending, Goal.target]
  | close atStart _ kind =>
      cases atStart
      exact Or.inr (Or.inr ⟨rfl, by simp [kind], rfl, rfl, fun other => rfl⟩)
  | text atPrint kind =>
      cases atPrint
      exact Or.inr (Or.inr ⟨rfl, by simp [kind], rfl, rfl, fun other => rfl⟩)
  | equals atEquals kind =>
      cases atEquals
      exact Or.inr (Or.inr ⟨rfl, by simp [kind], rfl, rfl, fun other => rfl⟩)
  | @sign _ _ op placed kind =>
      have noEnd : token.kind ≠ .newline := by
        rw [kind]
        exact Operator.kind_ne op (by decide)
      cases phase <;> cases placed <;>
        exact Or.inr (Or.inr ⟨rfl, noEnd, rfl, rfl, fun other => by
          simp [goTo, Phase.pending, Goal.target]⟩)
  | operand placed spelled =>
      have noEnd : token.kind ≠ .newline := by
        cases spelled with
        | number kind => simp [kind]
        | name kind => simp [kind]
      cases phase <;> cases placed <;>
        exact Or.inr (Or.inr ⟨rfl, noEnd, rfl, rfl, fun other => by
          simp [goTo, Phase.pending, Goal.target]⟩)
  | @multiply _ _ _ op atOperator kind =>
      have noEnd : token.kind ≠ .newline := by
        rw [kind]
        exact Operator.kind_ne op (by decide)
      cases atOperator
      exact Or.inr (Or.inr ⟨rfl, noEnd, rfl, rfl, fun other => rfl⟩)
  | @add _ _ _ op atOperator kind =>
      have noEnd : token.kind ≠ .newline := by
        rw [kind]
        exact Operator.kind_ne op (by decide)
      cases atOperator
      exact Or.inr (Or.inr ⟨rfl, noEnd, rfl, rfl, fun other => rfl⟩)
  | @compare _ _ _ _ op atOperator kind =>
      have noEnd : token.kind ≠ .newline := by
        rw [kind]
        exact Operator.kind_ne op (by decide)
      cases atOperator
      exact Or.inr (Or.inr ⟨rfl, noEnd, rfl, rfl, fun other => rfl⟩)
  | divide atOperator kind =>
      cases atOperator
      refine Or.inr (Or.inr ⟨rfl, by simp [kind], rfl, rfl, fun other => ?_⟩)
      simp [goTo, Phase.pending, Goal.target]

/-! ## Knowing the names -/

/-- The reading knows the names in the tokens before it. -/
structure Knows (reading : Reading) (before : List Token) : Prop where
  asks : ∀ word : Keyword, word.takesName = true →
    (EndsIn word before ↔ reading.phase.asks = some word)
  declared :
    namesAfter .labelKw before =
      reading.labels.declared.reverse ++ reading.phase.pending .labelKw
  jumps : ∀ name,
    name ∈ namesAfter .gotoKw before ↔
      name ∈ reading.labels.targets.map Prod.fst ∨
        name ∈ reading.phase.pending .gotoKw
  targets : ∀ name,
    name ∈ namesAfter .letKw before ↔
      Assigned before name ∨ name ∈ reading.phase.pending .letKw
  bound : ∀ name,
    Bound before name ↔
      reading.bound.contains name = true ∨
        name ∈ reading.phase.pending .inputKw

theorem knows_empty : Knows .empty [] := by
  constructor <;>
    simp [EndsIn, namesAfter, Assigned, Bound, empty, Phase.asks,
      Phase.pending, Labels.empty, Variables.empty, Variables.contains]

namespace Knows

variable {before after : List Token}

theorem namesAfter_concat
    (knows : Knows reading before) (token : Token)
    {word : Keyword} (takes : word.takesName = true) :
    namesAfter word (before ++ [token]) =
      namesAfter word before ++
        if reading.phase.asks = some word ∧ token.kind = .ident then
          [token.text]
        else [] := by
  rw [TeenyTiny.namesAfter_concat]
  simp only [knows.asks word takes]

/-- A name is taken in and is pending. -/
theorem take
    (knows : Knows reading before)
    (asks : ∀ word : Keyword, word.takesName = true →
      (EndsIn word after ↔ next.phase.asks = some word))
    (names : ∀ word : Keyword, word.takesName = true →
      namesAfter word after =
        namesAfter word before ++ next.phase.pending word)
    (assigned : ∀ name, Assigned after name ↔ Assigned before name)
    (bound : next.bound = reading.bound)
    (labels : next.labels = reading.labels)
    (idle : ∀ word, reading.phase.pending word = []) :
    Knows next after := by
  refine ⟨asks, ?_, ?_, ?_, ?_⟩
  · rw [names _ rfl, knows.declared, labels, idle, List.append_nil]
  · intro name
    rw [names _ rfl, List.mem_append, knows.jumps, labels, idle]
    simp
  · intro name
    rw [names _ rfl, List.mem_append, knows.targets, assigned, idle]
    simp
  · intro name
    have known := knows.bound name
    rw [idle, Bound] at known
    rw [Bound, names _ rfl, List.mem_append, assigned, bound,
      or_right_comm, known]
    simp

/-- A line ends, and nothing is pending any more. -/
theorem settle
    (knows : Knows reading before)
    (asks : ∀ word : Keyword, word.takesName = true →
      (EndsIn word after ↔ next.phase.asks = some word))
    (names : ∀ word : Keyword, word.takesName = true →
      namesAfter word after = namesAfter word before)
    (assigned : ∀ name, Assigned after name ↔
      Assigned before name ∨ name ∈ namesAfter .letKw before)
    (settles : Settles reading next)
    (idle : ∀ word, next.phase.pending word = []) :
    Knows next after := by
  refine ⟨asks, ?_, ?_, ?_, ?_⟩
  · rw [names _ rfl, knows.declared, settles.declared, idle,
      List.append_nil]
  · intro name
    rw [names _ rfl, knows.jumps, settles.jumps, idle]
    simp
  · intro name
    rw [names _ rfl, assigned, idle, knows.targets]
    simp
  · intro name
    have known := knows.bound name
    have target := knows.targets name
    rw [Bound] at known
    rw [Bound, names _ rfl, assigned, settles.bound, idle, target]
    grind

/-- Nothing happens to names. -/
theorem pass
    (knows : Knows reading before)
    (asks : ∀ word : Keyword, word.takesName = true →
      (EndsIn word after ↔ next.phase.asks = some word))
    (names : ∀ word : Keyword, word.takesName = true →
      namesAfter word after = namesAfter word before)
    (assigned : ∀ name, Assigned after name ↔ Assigned before name)
    (bound : next.bound = reading.bound)
    (labels : next.labels = reading.labels)
    (pending : ∀ word,
      next.phase.pending word = reading.phase.pending word) :
    Knows next after := by
  refine ⟨asks, ?_, ?_, ?_, ?_⟩
  · rw [names _ rfl, knows.declared, labels, pending]
  · intro name
    rw [names _ rfl, knows.jumps, labels, pending]
  · intro name
    rw [names _ rfl, knows.targets, assigned, pending]
  · intro name
    have known := knows.bound name
    rw [Bound] at known
    rw [Bound, names _ rfl, assigned, bound, pending, known]

theorem move
    (knows : Knows reading before)
    (move : Move reading token next) :
    Knows next (before ++ [token]) := by
  have asks : ∀ word : Keyword, word.takesName = true →
      (EndsIn word (before ++ [token]) ↔
        next.phase.asks = some word) := by
    intro word takes
    rw [endsIn_concat, move.asks_iff takes]
  have assigned := assigned_concat before token
  rcases move.names_cases with
    ⟨word, asked, kind, bound, labels, idle, pending⟩ |
      ⟨asked, kind, settles, idle⟩ | ⟨asked, kind, bound, labels, pending⟩
  · refine knows.take asks ?_ ?_ bound labels idle
    · intro other takes
      rw [knows.namesAfter_concat token takes, asked, pending]
      simp [kind, eq_comm]
    · intro name
      simp [assigned, kind]
  · refine knows.settle asks ?_ ?_ settles idle
    · intro other takes
      rw [knows.namesAfter_concat token takes, asked]
      simp
    · intro name
      simp [assigned, kind]
  · refine knows.pass asks ?_ ?_ bound labels pending
    · intro other takes
      rw [knows.namesAfter_concat token takes, asked]
      simp
    · intro name
      simp [assigned, kind]

end Knows

/-! ## Reached readings -/

/-- The tokens have been read without a fault and have led to the reading. -/
inductive Reached : List Token → Reading → Prop
  | empty : Reached [] .empty
  | move {before : List Token} {reading next : Reading} {token : Token}
      (reached : Reached before reading)
      (move : Move reading token next)
      (allowed : ∀ fault, ¬ Misuse reading token fault) :
      Reached (before ++ [token]) next

namespace Reached

variable {before rest : List Token} {program : Program}

theorem knows
    (reached : Reached before reading) :
    Knows reading before := by
  induction reached with
  | empty =>
      exact knows_empty
  | move _ move _ inductionHypothesis =>
      exact inductionHypothesis.move move

/-- What can be read from the reading on can be read behind its tokens. -/
theorem reads_append
    (reached : Reached before reading)
    (reads : Reads reading rest program) :
    Reads .empty (before ++ rest) program := by
  induction reached generalizing rest with
  | empty =>
      exact reads
  | move _ move _ inductionHypothesis =>
      rw [List.append_assoc]
      exact inductionHypothesis (.move move reads)

theorem viable
    (reached : Reached before reading) :
    Viable before := by
  obtain ⟨rest, program, reads⟩ := exists_reads reading
  exact ⟨rest, program, writtenAs_of_reads (reached.reads_append reads)⟩

end Reached

/-- The end of the source is no move. -/
theorem Move.inside
    (move : Move reading token next) :
    token.kind ≠ .eof := by
  cases move with
  | @sign _ _ op _ kind =>
      exact kind ▸ Operator.kind_ne op (by decide)
  | operand _ spelled =>
      cases spelled with
      | number kind => simp [kind]
      | name kind => simp [kind]
  | @multiply _ _ _ op _ kind =>
      exact kind ▸ Operator.kind_ne op (by decide)
  | @add _ _ _ op _ kind =>
      exact kind ▸ Operator.kind_ne op (by decide)
  | @compare _ _ _ _ op _ kind =>
      exact kind ▸ Operator.kind_ne op (by decide)
  | _ =>
      simp [*]

/-- Where no name is misused, the token determines the move. -/
theorem Move.unique {other : Reading}
    (move : Move reading token next)
    (otherMove : Move reading token other)
    (allowed : ∀ fault, ¬ Misuse reading token fault) :
    next = other := by
  have done := step_of_move move allowed token
  rw [step_of_move otherMove allowed token] at done
  injection done with same
  exact same.symm

/-- What is read behind the tokens is read from the reading on. -/
theorem Reached.reads_of_append
    {before rest : List Token} {program : Program}
    (reached : Reached before reading)
    (reads : Reads .empty (before ++ rest) program) :
    Reads reading rest program := by
  induction reached generalizing rest with
  | empty =>
      exact reads
  | move _ move allowed inductionHypothesis =>
      rw [List.append_assoc] at reads
      cases inductionHypothesis reads with
      | finish _ _ kind =>
          exact absurd kind move.inside
      | move otherMove reads =>
          rw [move.unique otherMove allowed]
          exact reads

end Reading

end TeenyTiny
