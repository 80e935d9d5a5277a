import TeenyTiny.Proofs.Reached

/-!
# The first offence in a list of tokens

A token offends if no grammatical source starts like this, if it reads a
variable that is not bound, or if it declares a label again.  The last two
count only as long as the grammar holds.  All three depend on the tokens up to
the offending one and on nothing behind it.

A reading that is reached has passed no offence, apart from a repeated label
that shows with the next token (`Reached.offendsAt`).  When a step fails, the
fault is that of the first offence (`Reached.firstOffence_of_error`).
-/

namespace TeenyTiny

/-- A rule that a token can break. -/
inductive Offence where
  | grammar
  | unbound
  | repeated
  deriving DecidableEq, Repr

/-- Behind `before`, the token breaks the rule. -/
def Offends (before : List Token) (token : Token) : Offence → Prop
  | .grammar => ¬ Viable (before ++ [token])
  | .unbound =>
      Viable (before ++ [token]) ∧ IsOperandName before token ∧
        ¬ Bound before token.text
  | .repeated =>
      Viable (before ++ [token]) ∧ EndsIn .labelKw before ∧
        token.kind = .ident ∧ token.text ∈ namesAfter .labelKw before

/-- The token at the index breaks the rule. -/
def OffendsAt
    (tokens : List Token) (index : Nat) (token : Token)
    (offence : Offence) : Prop :=
  tokens[index]? = some token ∧ Offends (tokens.take index) token offence

/-- The token at the index breaks the rule, and no token before it breaks
any. -/
structure FirstOffence
    (tokens : List Token) (index : Nat) (token : Token)
    (offence : Offence) : Prop where
  offends : OffendsAt tokens index token offence
  first : ∀ earlier other otherOffence, earlier < index →
    ¬ OffendsAt tokens earlier other otherOffence

namespace Offence

/-- The fault tells of the offence and points at the token. -/
inductive Reports : Offence → Token → Fault → Prop
  | grammar {token : Token} (cause : GrammarFault) :
      Reports grammar token (.grammar cause token.span)
  | unbound {token : Token} :
      Reports unbound token (.name (.unbound token.text) token.span)
  | repeated {token : Token} :
      Reports repeated token (.name (.repeatedLabel token.text) token.span)

/-- How many tokens behind the offending one the offence shows. -/
def delay : Offence → Nat
  | grammar | unbound => 0
  | repeated => 1

namespace Reports

variable {offence : Offence} {token : Token} {fault : Fault}

theorem span_eq
    (reports : offence.Reports token fault) :
    fault.span = token.span := by
  cases reports <;> rfl

theorem ne_lexical
    (reports : offence.Reports token fault)
    (error : LexicalError) :
    fault ≠ .lexical error := by
  cases reports <;> simp

theorem ne_missingLabels
    (reports : offence.Reports token fault)
    (names : List String) (span : Span) :
    fault ≠ .name (.missingLabels names) span := by
  cases reports <;> simp

end Reports

end Offence

/-! ## Offences and longer lists -/

section Lists

variable {tokens more : List Token} {index : Nat} {token : Token}
  {offence : Offence}

theorem offendsAt_append_iff
    (bound : index < tokens.length) :
    OffendsAt (tokens ++ more) index token offence ↔
      OffendsAt tokens index token offence := by
  unfold OffendsAt
  rw [List.getElem?_append_left bound,
    List.take_append_of_le_length (Nat.le_of_lt bound)]

theorem offendsAt_length_iff {other : Token} :
    OffendsAt (tokens ++ other :: more) tokens.length token offence ↔
      other = token ∧ Offends tokens token offence := by
  simp [OffendsAt]

theorem OffendsAt.index_lt
    (offends : OffendsAt tokens index token offence) :
    index < tokens.length :=
  (List.getElem?_eq_some_iff.mp offends.1).1

theorem FirstOffence.append
    (first : FirstOffence tokens index token offence)
    (more : List Token) :
    FirstOffence (tokens ++ more) index token offence := by
  have bound := first.offends.index_lt
  refine ⟨(offendsAt_append_iff bound).mpr first.offends, ?_⟩
  intro earlier other otherOffence before offends
  have inside := Nat.lt_trans before bound
  exact first.first earlier other otherOffence before
    ((offendsAt_append_iff inside).mp offends)

/-- A token breaks one rule at most. -/
theorem Offends.unique {before : List Token} {other : Offence}
    (offends : Offends before token offence)
    (otherOffends : Offends before token other) :
    offence = other := by
  cases offence <;> cases other
  case grammar.grammar | unbound.unbound | repeated.repeated => rfl
  case grammar.unbound | grammar.repeated =>
    exact absurd otherOffends.1 offends
  case unbound.grammar | repeated.grammar =>
    exact absurd offends.1 otherOffends
  case unbound.repeated =>
    exact absurd otherOffends.2.1 (offends.2.1.2 .labelKw rfl)
  case repeated.unbound =>
    exact absurd offends.2.1 (otherOffends.2.1.2 .labelKw rfl)

theorem FirstOffence.unique
    {otherIndex : Nat} {otherToken : Token} {otherOffence : Offence}
    (first : FirstOffence tokens index token offence)
    (other : FirstOffence tokens otherIndex otherToken otherOffence) :
    index = otherIndex ∧ token = otherToken ∧ offence = otherOffence := by
  have sameIndex : index = otherIndex := by
    rcases Nat.lt_trichotomy index otherIndex with less | same | greater
    · exact absurd first.offends (other.first _ _ _ less)
    · exact same
    · exact absurd other.offends (first.first _ _ _ greater)
  subst sameIndex
  have sameToken : token = otherToken := by
    have found := first.offends.1
    rw [other.offends.1] at found
    exact (Option.some.inj found).symm
  subst sameToken
  exact ⟨rfl, rfl, first.offends.2.unique other.offends.2⟩

end Lists

namespace Reading

/-! ## Moves over names -/

section Moves

variable {reading next : Reading} {token name : Token}

/-- An identifier is a name that was asked for or an operand. -/
theorem Move.ident_cases
    (move : Move reading token next)
    (kind : token.kind = .ident) :
    (∃ word : Keyword, word.takesName = true ∧
        reading.phase.asks = some word) ∨
      ∃ place, reading.phase.operandPlace = some place := by
  cases move with
  | @name use phase _ =>
      refine Or.inl ⟨use.keyword, ?_, by rw [phase]; rfl⟩
      cases use <;> rfl
  | target phase _ =>
      exact Or.inl ⟨.letKw, rfl, by rw [phase]; rfl⟩
  | operand placed _ =>
      exact Or.inr ⟨_, placed⟩
  | @sign _ _ op _ other =>
      exact absurd (other.symm.trans kind) (Operator.kind_ne op (by decide))
  | @multiply _ _ _ op _ other =>
      exact absurd (other.symm.trans kind) (Operator.kind_ne op (by decide))
  | @add _ _ _ op _ other =>
      exact absurd (other.symm.trans kind) (Operator.kind_ne op (by decide))
  | @compare _ _ _ _ op _ other =>
      exact absurd (other.symm.trans kind) (Operator.kind_ne op (by decide))
  | _ =>
      simp_all

theorem phase_of_asks_label
    (asks : reading.phase.asks = some .labelKw) :
    reading.phase = .name .label := by
  cases phase : reading.phase <;> rw [phase] at asks <;>
    simp [Phase.asks] at asks
  rename_i use
  cases use <;> cases asks
  rfl

/-- The name of a label is taken in right behind its keyword. -/
theorem Move.named_label
    (move : Move reading token next)
    (phase : next.phase = .named .label name) :
    name = token ∧ token.kind = .ident ∧ reading.phase = .name .label ∧
      next.labels = reading.labels := by
  cases move with
  | blank atStart _ =>
      rw [atStart] at phase
      cases phase
  | @word word _ _ _ _ starts =>
      cases word <;> cases starts <;> cases phase
  | name asked kind =>
      cases phase
      exact ⟨rfl, kind, asked, rfl⟩
  | _ =>
      cases phase

theorem asks_of_operandPlace {place : Goal × Prior × Option AddOp}
    (placed : reading.phase.operandPlace = some place) :
    reading.phase.asks = none ∧ reading.phase.pending .inputKw = [] := by
  cases phase : reading.phase <;> rw [phase] at placed <;> cases placed <;>
    exact ⟨rfl, rfl⟩

end Moves

/-! ## What is reached is free of offences -/

section Offences

variable {before : List Token} {reading next : Reading}
  {token after : Token} {index : Nat} {offence : Offence} {fault : Fault}

theorem Reached.viable_of_move
    (reached : Reached before reading)
    (move : Move reading token next) :
    Viable (before ++ [token]) := by
  obtain ⟨rest, program, reads⟩ := exists_reads next
  refine ⟨rest, program, ?_⟩
  rw [List.append_assoc]
  exact writtenAs_of_reads (reached.reads_append (.move move reads))

/-- A token that is read offends only as a label whose repetition is still to
be noticed. -/
theorem Reached.offends_of_move
    (reached : Reached before reading)
    (move : Move reading token next)
    (allowed : ∀ fault, ¬ Misuse reading token fault)
    (offends : Offends before token offence) :
    offence = .repeated ∧ next.phase = .named .label token ∧
      next.labels.isDeclared token.text = true := by
  have knows := reached.knows
  cases offence with
  | grammar =>
      exact absurd (reached.viable_of_move move) offends
  | unbound =>
      obtain ⟨_, ⟨kind, free⟩, missing⟩ := offends
      rcases move.ident_cases kind with ⟨word, takes, asks⟩ | ⟨place, placed⟩
      · exact absurd ((knows.asks word takes).mpr asks) (free word takes)
      · cases bound : reading.bound.contains token.text with
        | false =>
            exact absurd (Misuse.unbound placed kind bound) (allowed _)
        | true =>
            exact absurd ((knows.bound _).mpr (Or.inl bound)) missing
  | repeated =>
      obtain ⟨_, ends, kind, member⟩ := offends
      have asked :=
        phase_of_asks_label ((knows.asks .labelKw rfl).mp ends)
      rw [knows.declared, asked] at member
      cases move with
      | name phase _ =>
          rw [asked] at phase
          cases phase
          refine ⟨rfl, rfl, ?_⟩
          simpa [Labels.isDeclared, goTo, Phase.pending] using member
      | _ =>
          simp_all [Phase.factorPlace, Phase.operandPlace]

/-- Of the tokens that have been read only the last can offend, as a label
whose repetition is still to be noticed. -/
theorem Reached.offendsAt
    (reached : Reached before reading)
    (offends : OffendsAt before index token offence) :
    offence = .repeated ∧ index + 1 = before.length ∧
      reading.phase = .named .label token ∧
      reading.labels.isDeclared token.text = true := by
  induction reached with
  | empty =>
      exact absurd offends.index_lt (Nat.not_lt_zero index)
  | @move before _ _ last reached move allowed inductionHypothesis =>
      have bound := offends.index_lt
      rw [List.length_append, List.length_singleton] at bound
      rcases Nat.lt_or_eq_of_le (Nat.le_of_lt_succ bound) with inside | rfl
      · obtain ⟨_, _, phase, declared⟩ :=
          inductionHypothesis ((offendsAt_append_iff inside).mp offends)
        exact absurd (Misuse.repeated phase declared) (allowed _)
      · obtain ⟨rfl, offends⟩ := offendsAt_length_iff.mp offends
        obtain ⟨repeated, named⟩ :=
          reached.offends_of_move move allowed offends
        exact ⟨repeated, by simp, named⟩

/-! ## Faults are first offences -/

theorem Reached.offends_of_unbound {place : Goal × Prior × Option AddOp}
    (reached : Reached before reading)
    (placed : reading.phase.operandPlace = some place)
    (kind : token.kind = .ident)
    (missing : reading.bound.contains token.text = false) :
    Offends before token .unbound := by
  have knows := reached.knows
  obtain ⟨asksNone, idle⟩ := asks_of_operandPlace placed
  refine ⟨?_, ⟨kind, ?_⟩, ?_⟩
  · exact reached.viable_of_move (.operand placed (.name kind))
  · intro word takes ends
    rw [knows.asks word takes, asksNone] at ends
    cases ends
  · rw [knows.bound, missing, idle]
    simp

theorem Reached.offends_of_repeated {name : Token}
    (reached : Reached before reading)
    (phase : reading.phase = .named .label name)
    (declared : reading.labels.isDeclared name.text = true) :
    ∃ earlier, before = earlier ++ [name] ∧
      Offends earlier name .repeated := by
  have viable := reached.viable
  cases reached with
  | empty =>
      cases phase
  | @move earlier _ _ _ reached move _ =>
      obtain ⟨rfl, kind, asked, labels⟩ := move.named_label phase
      have knows := reached.knows
      refine ⟨earlier, rfl, viable, ?_, kind, ?_⟩
      · rw [knows.asks .labelKw rfl, asked]
        rfl
      · rw [labels] at declared
        rw [knows.declared, asked]
        simpa [Labels.isDeclared, Phase.pending] using declared

theorem Reached.offends_of_grammar {cause : GrammarFault} {span : Span}
    (reached : Reached before reading)
    (failed :
      (reading.step token after).result = .error (.grammar cause span)) :
    Offends before token .grammar := by
  rintro ⟨rest, program, written⟩
  have reads := reads_of_writtenAs written
  rw [List.append_assoc] at reads
  cases reached.reads_of_append reads with
  | finish phase frames kind =>
      rw [step_of_end phase frames kind] at failed
      cases failed
  | move move _ =>
      by_cases misused : ∃ fault, Misuse reading token fault
      · obtain ⟨fault, misuse⟩ := misused
        rw [step_of_misuse misuse] at failed
        cases misuse <;> cases failed
      · rw [step_of_move move (not_exists.mp misused)] at failed
        cases failed

theorem Reached.offence_of_misuse
    (reached : Reached before reading)
    (misuse : Misuse reading token fault) :
    ∃ index name offence,
      OffendsAt (before ++ [token]) index name offence ∧
        offence.Reports name fault ∧
        index + offence.delay = before.length := by
  cases misuse with
  | unbound placed kind missing =>
      have offends := reached.offends_of_unbound placed kind missing
      exact ⟨before.length, token, .unbound,
        offendsAt_length_iff.mpr ⟨rfl, offends⟩, .unbound, rfl⟩
  | @repeated name phase declared =>
      obtain ⟨earlier, rfl, offends⟩ :=
        reached.offends_of_repeated phase declared
      refine ⟨earlier.length, name, .repeated, ?_, .repeated,
        by simp [Offence.delay]⟩
      rw [List.append_assoc]
      exact offendsAt_length_iff.mpr ⟨rfl, offends⟩

/-- A fault tells of an offence in the tokens up to the one that was read. -/
theorem Reached.offence_of_error
    (reached : Reached before reading)
    (failed : (reading.step token after).result = .error fault) :
    ∃ index name offence,
      OffendsAt (before ++ [token]) index name offence ∧
        offence.Reports name fault ∧
        index + offence.delay = before.length := by
  by_cases misused : ∃ fault, Misuse reading token fault
  · obtain ⟨other, misuse⟩ := misused
    rw [step_of_misuse misuse] at failed
    cases failed
    exact reached.offence_of_misuse misuse
  · rcases step_cases reading token after with
      refuted | ⟨next, move⟩ | ⟨phase, frames, kind⟩ | ⟨cause, refused⟩
    · exact absurd refuted misused
    · rw [step_of_move move (not_exists.mp misused)] at failed
      cases failed
    · rw [step_of_end phase frames kind] at failed
      cases failed
    · have offends := reached.offends_of_grammar refused
      rw [refused] at failed
      cases failed
      exact ⟨before.length, token, .grammar,
        offendsAt_length_iff.mpr ⟨rfl, offends⟩, .grammar cause, rfl⟩

/-- A fault is that of the first offence. -/
theorem Reached.firstOffence_of_error
    (reached : Reached before reading)
    (failed : (reading.step token after).result = .error fault) :
    ∃ index name offence,
      FirstOffence (before ++ [token]) index name offence ∧
        offence.Reports name fault ∧
        index + offence.delay = before.length := by
  obtain ⟨index, name, offence, offends, reports, position⟩ :=
    reached.offence_of_error failed
  refine ⟨index, name, offence, ⟨offends, ?_⟩, reports, position⟩
  intro earlier other otherOffence less otherOffends
  -- An earlier offence is a repeated label that shows with this very token,
  -- and the fault would be its own.
  have inside : earlier < before.length := by omega
  obtain ⟨_, last, phase, declared⟩ :=
    reached.offendsAt ((offendsAt_append_iff inside).mp otherOffends)
  rw [step_of_misuse (.repeated phase declared)] at failed
  cases failed
  cases offence with
  | grammar =>
      cases reports
  | unbound =>
      cases reports
  | repeated =>
      rw [Offence.delay] at position
      omega

end Offences

end Reading

end TeenyTiny
