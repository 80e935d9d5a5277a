import TeenyTiny.Proofs.Verdict

/-!
# The first jump to each label

A reading keeps the jumps that it has seen in order of their labels, and of all
jumps to one label the first (`Labels.mem_targetsOf_iff`).  So the labels that
are missing at the end are named in alphabetical order, and the fault points at
the first jump to the first of them (`Finished.exists_missing`).
-/

namespace TeenyTiny

/-! ## Tables of jumps -/

namespace Labels

/-- The labels of the jumps are in strictly ascending order. -/
def Ascending (targets : List (String × Span)) : Prop :=
  targets.Pairwise fun target later => target.1 < later.1

/-- The table that jumps leave behind, one after the other. -/
def targetsOf (jumps : List (String × Span)) : List (String × Span) :=
  jumps.foldl (fun targets jump => insertTarget jump.1 jump.2 targets) []

/-- The jump is the first one to its label. -/
def IsFirst (jumps : List (String × Span)) (jump : String × Span) : Prop :=
  ∃ earlier later, jumps = earlier ++ jump :: later ∧
    jump.1 ∉ earlier.map Prod.fst

section Insertion

variable {name : String} {span : Span} {targets : List (String × Span)}

theorem Ascending.insertTarget
    (ascending : Ascending targets) :
    Ascending (insertTarget name span targets) := by
  induction targets with
  | nil =>
      exact List.pairwise_singleton _ _
  | cons target rest inductionHypothesis =>
      obtain ⟨least, restAscending⟩ := List.pairwise_cons.mp ascending
      unfold Labels.insertTarget
      by_cases before : name < target.1
      · rw [if_pos before]
        refine List.pairwise_cons.mpr ⟨?_, ascending⟩
        intro later member
        rcases List.mem_cons.mp member with rfl | further
        · exact before
        · exact String.lt_trans before (least later further)
      · rw [if_neg before]
        by_cases same : name = target.1
        · rw [if_pos same]
          exact ascending
        · rw [if_neg same]
          refine List.pairwise_cons.mpr
            ⟨?_, inductionHypothesis restAscending⟩
          intro later member
          have listed : later.1 ∈
              (Labels.insertTarget name span rest).map Prod.fst :=
            List.mem_map_of_mem member
          rw [mem_insertTarget] at listed
          rcases listed with known | inserted
          · obtain ⟨other, otherMember, otherName⟩ := List.mem_map.mp known
            rw [← otherName]
            exact least other otherMember
          · rw [inserted]
            have behind : target.1 ≤ name := String.not_lt.mp before
            exact Std.lt_of_le_of_ne behind (Ne.symm same)

/-- A jump is entered unless there is one to its label already. -/
theorem mem_insertTarget_iff
    (ascending : Ascending targets)
    (jump : String × Span) :
    jump ∈ insertTarget name span targets ↔
      jump ∈ targets ∨
        jump = (name, span) ∧ name ∉ targets.map Prod.fst := by
  induction targets with
  | nil =>
      simp [insertTarget]
  | cons target rest inductionHypothesis =>
      obtain ⟨least, restAscending⟩ := List.pairwise_cons.mp ascending
      unfold insertTarget
      by_cases before : name < target.1
      · have absent : name ∉ (target :: rest).map Prod.fst := by
          intro member
          obtain ⟨other, otherMember, otherName⟩ := List.mem_map.mp member
          rcases List.mem_cons.mp otherMember with rfl | further
          · rw [otherName] at before
            exact String.lt_irrefl name before
          · have behind := String.lt_trans before (least other further)
            rw [otherName] at behind
            exact String.lt_irrefl name behind
        rw [if_pos before, List.mem_cons]
        simp only [absent, not_false_eq_true, and_true]
        exact or_comm
      · rw [if_neg before]
        by_cases same : name = target.1
        · rw [if_pos same]
          simp [same]
        · rw [if_neg same, List.mem_cons, List.mem_cons,
            inductionHypothesis restAscending, List.map_cons, List.mem_cons,
            or_assoc]
          simp only [same, false_or]

end Insertion

theorem targetsOf_concat
    (jumps : List (String × Span)) (jump : String × Span) :
    targetsOf (jumps ++ [jump]) =
      insertTarget jump.1 jump.2 (targetsOf jumps) := by
  simp [targetsOf]

theorem ascending_targetsOf (jumps : List (String × Span)) :
    Ascending (targetsOf jumps) := by
  induction jumps using List.reverseRecOn with
  | nil =>
      exact List.Pairwise.nil
  | append_singleton jumps jump inductionHypothesis =>
      rw [targetsOf_concat]
      exact inductionHypothesis.insertTarget

theorem mem_map_targetsOf
    (jumps : List (String × Span)) (name : String) :
    name ∈ (targetsOf jumps).map Prod.fst ↔
      name ∈ jumps.map Prod.fst := by
  induction jumps using List.reverseRecOn with
  | nil =>
      rfl
  | append_singleton jumps jump inductionHypothesis =>
      rw [targetsOf_concat, mem_insertTarget, inductionHypothesis,
        List.map_append, List.mem_append, List.map_singleton,
        List.mem_singleton]

theorem isFirst_concat_iff
    (jumps : List (String × Span)) (last jump : String × Span) :
    IsFirst (jumps ++ [last]) jump ↔
      IsFirst jumps jump ∨
        jump = last ∧ last.1 ∉ jumps.map Prod.fst := by
  constructor
  · rintro ⟨earlier, later, whole, first⟩
    rcases List.eq_nil_or_concat later with rfl | ⟨front, end_, rfl⟩
    · obtain ⟨rfl, same⟩ := List.append_inj' whole rfl
      cases same
      exact Or.inr ⟨rfl, first⟩
    · rw [List.concat_eq_append, ← List.cons_append,
        ← List.append_assoc] at whole
      obtain ⟨rfl, _⟩ := List.append_inj' whole rfl
      exact Or.inl ⟨earlier, front, rfl, first⟩
  · rintro (⟨earlier, later, rfl, first⟩ | ⟨rfl, first⟩)
    · exact ⟨earlier, later ++ [last], by simp, first⟩
    · exact ⟨jumps, [], rfl, first⟩

/-- The table holds the first jump to each label and no other. -/
theorem mem_targetsOf_iff
    (jumps : List (String × Span)) (jump : String × Span) :
    jump ∈ targetsOf jumps ↔ IsFirst jumps jump := by
  induction jumps using List.reverseRecOn with
  | nil =>
      simp [targetsOf, IsFirst]
  | append_singleton jumps last inductionHypothesis =>
      rw [targetsOf_concat,
        mem_insertTarget_iff (ascending_targetsOf jumps),
        inductionHypothesis, mem_map_targetsOf, isFirst_concat_iff]

end Labels

/-- The token is the first jump to its label, which is declared nowhere, and no
other such label comes before it in the alphabet. -/
structure FirstMissing (tokens before : List Token) (token : Token) :
    Prop where
  behind : EndsIn .gotoKw before
  first : token.text ∉ namesAfter .gotoKw before
  undeclared : token.text ∉ namesAfter .labelKw tokens
  least : ∀ name ∈ namesAfter .gotoKw tokens,
    name ∉ namesAfter .labelKw tokens → name = token.text ∨ token.text < name

/-! ## The jumps of a reading -/

/-- A jump as the table of jumps keeps it. -/
def Token.jump (token : Token) : String × Span :=
  (token.text, token.span)

theorem map_fst_map_jump (tokens : List Token) :
    (tokens.map Token.jump).map Prod.fst = tokens.map Token.text := by
  rw [List.map_map]
  rfl

namespace Reading

/-- The jumps as they are once the name of the open line has had its
effect. -/
def settledTargets (reading : Reading) : List (String × Span) :=
  match reading.phase with
  | .named .jump name =>
      Labels.insertTarget name.text name.span reading.labels.targets
  | _ => reading.labels.targets

variable {reading next : Reading} {token : Token} {before : List Token}

/-- A move enters the name of a jump and leaves the other jumps alone. -/
theorem Move.settledTargets_cases
    (move : Move reading token next) :
    reading.phase.asks = some .gotoKw ∧ token.kind = .ident ∧
        next.settledTargets =
          Labels.insertTarget token.text token.span
            reading.settledTargets ∨
      reading.phase.asks ≠ some .gotoKw ∧
        next.settledTargets = reading.settledTargets := by
  obtain ⟨phase, statements, frames, bound, labels⟩ := reading
  cases move with
  | @name use atName kind =>
      cases atName
      cases use with
      | jump =>
          exact Or.inl ⟨rfl, kind, rfl⟩
      | label | input =>
          exact Or.inr ⟨by simp [Phase.asks, NameUse.keyword], rfl⟩
  | finish ends kind =>
      cases phase with
      | named use name =>
          exact Or.inr ⟨by simp [Phase.asks], by cases use <;> rfl⟩
      | operator goal sum term =>
          exact Or.inr ⟨by simp [Phase.asks], by cases goal <;> rfl⟩
      | complete statement =>
          exact Or.inr ⟨by simp [Phase.asks], rfl⟩
      | _ =>
          cases ends
  | @word word _ _ atStart _ starts =>
      cases atStart
      exact Or.inr
        ⟨by simp [Phase.asks], by cases word <;> cases starts <;> rfl⟩
  | sign placed _ =>
      cases phase <;> cases placed <;> exact Or.inr ⟨by simp [Phase.asks], rfl⟩
  | operand placed _ =>
      cases phase <;> cases placed <;> exact Or.inr ⟨by simp [Phase.asks], rfl⟩
  | target atPhase _ =>
      cases atPhase
      exact Or.inr ⟨by simp [Phase.asks], rfl⟩
  | blank atPhase _ | close atPhase _ _ | text atPhase _ | equals atPhase _
  | multiply atPhase _ | add atPhase _ | compare atPhase _ | divide atPhase _
  | enter atPhase _ =>
      cases atPhase
      exact Or.inr ⟨by simp [Phase.asks], rfl⟩

/-- The jumps that a reading knows are those in the tokens before it. -/
theorem Reached.settledTargets_eq
    (reached : Reached before reading) :
    reading.settledTargets =
      Labels.targetsOf ((tokensAfter .gotoKw before).map Token.jump) := by
  induction reached with
  | empty =>
      rfl
  | @move before reading _ token reached move _ inductionHypothesis =>
      have asks := reached.knows.asks .gotoKw rfl
      rw [tokensAfter_concat]
      rcases move.settledTargets_cases with
        ⟨asked, kind, entered⟩ | ⟨other, kept⟩
      · rw [if_pos ⟨asks.mpr asked, kind⟩, List.map_append,
          List.map_singleton, Labels.targetsOf_concat, entered,
          inductionHypothesis]
        rfl
      · rw [if_neg fun named => other (asks.mp named.1), List.append_nil,
          kept, inductionHypothesis]

/-! ## Missing labels -/

namespace Finished

variable {body : List Token} {last : Token} {final : Reading} {fault : Fault}

theorem targets_eq
    (finished : Finished body last final) :
    final.labels.targets =
      Labels.targetsOf
        ((tokensAfter .gotoKw (body ++ [last])).map Token.jump) := by
  have known := finished.reached.settledTargets_eq
  have settled : final.settledTargets = final.labels.targets := by
    rw [settledTargets, finished.phase]
  have noName : ¬ (EndsIn .gotoKw body ∧ last.kind = .ident) := by
    rintro ⟨_, kind⟩
    rw [finished.kind] at kind
    cases kind
  rw [← settled, known, tokensAfter_concat, if_neg noName, List.append_nil]

/-- If the check of the jumps fails, the fault points at the first jump to the
first label that is missing. -/
theorem exists_missing
    (finished : Finished body last final)
    (failed : final.labels.check = .error fault) :
    ∃ before token after names,
      body ++ [last] = before ++ token :: after ∧ token.kind = .ident ∧
        FirstMissing (body ++ [last]) before token ∧
        fault = .name (.missingLabels (token.text :: names)) token.span := by
  have known := finished.mem_unresolved_iff
  have ascending : Labels.Ascending final.labels.unresolved := by
    rw [Labels.unresolved, finished.targets_eq]
    exact (Labels.ascending_targetsOf _).filter _
  cases unresolved : final.labels.unresolved with
  | nil =>
      simp [Labels.check, unresolved] at failed
  | cons target rest =>
      rw [unresolved] at known ascending
      obtain ⟨least, _⟩ := List.pairwise_cons.mp ascending
      have listed : target ∈ final.labels.targets := by
        have member : target ∈ final.labels.unresolved := by
          rw [unresolved]
          exact List.mem_cons_self ..
        exact (List.mem_filter.mp member).1
      rw [finished.targets_eq, Labels.mem_targetsOf_iff] at listed
      obtain ⟨earlier, later, whole, first⟩ := listed
      obtain ⟨earlierTokens, others, split, rfl, mapped⟩ :=
        List.map_eq_append_iff.mp whole
      obtain ⟨token, laterTokens, rfl, rfl, _⟩ :=
        List.map_eq_cons_iff.mp mapped
      obtain ⟨before, after, place, ends, kind, same⟩ :=
        exists_place_of_tokensAfter split
      have undeclared := ((known token.text).mp (List.mem_cons_self ..)).2
      refine ⟨before, token, after, rest.map Prod.fst, place, kind,
        ⟨ends, ?_, undeclared, ?_⟩, ?_⟩
      · rw [← map_text_tokensAfter, same, ← map_fst_map_jump]
        exact first
      · intro name jumped missing
        have member := (known name).mpr ⟨jumped, missing⟩
        rcases List.mem_cons.mp member with rfl | further
        · exact Or.inl rfl
        · obtain ⟨other, otherMember, rfl⟩ := List.mem_map.mp further
          exact Or.inr (least other otherMember)
      · simp only [Labels.check, unresolved] at failed
        cases failed
        rfl

end Finished

end Reading

end TeenyTiny
