import Mathlib.Data.List.Sort
import TeenyTiny.Proofs.Targets

/-!
# Histories of labels

Labels are declared and jumped to in any order.  Whatever has been done to
them, they answer as the whole history asks (`labels_record_history`): a label
can be declared once, and the labels that are missing are those with a jump and
no declaration, each with its first jump.  So two histories with the same first
jumps and the same declared labels are judged alike.
-/

namespace TeenyTiny

/-- Something that is done to labels. -/
inductive LabelUse where
  | declare (name : String) (span : Span)
  | jump (name : String) (span : Span)
  deriving DecidableEq, Repr

namespace LabelUse

/-- The label that is declared. -/
def declared? : LabelUse → Option String
  | declare name _ => some name
  | jump _ _ => none

/-- The label that is jumped to, and where the jump stands. -/
def jump? : LabelUse → Option (String × Span)
  | declare _ _ => none
  | jump name span => some (name, span)

end LabelUse

/-- The labels that the history declares, or tries to declare again. -/
def declaredIn (history : List LabelUse) : List String :=
  history.filterMap LabelUse.declared?

/-- The jumps of the history, in order. -/
def jumpsIn (history : List LabelUse) : List (String × Span) :=
  history.filterMap LabelUse.jump?

namespace Labels

/-- The labels as they are after one use, which has no effect if it fails. -/
def afterUse (labels : Labels) : LabelUse → Labels
  | .declare name span =>
      match labels.declare name span with
      | .ok declared => declared
      | .error _ => labels
  | .jump name span => labels.jump name span

/-- The labels as they are after a history that starts with none. -/
def replay (history : List LabelUse) : Labels :=
  history.foldl afterUse empty

theorem replay_concat (history : List LabelUse) (use : LabelUse) :
    replay (history ++ [use]) = (replay history).afterUse use := by
  simp [replay]

/-! ## One use -/

/-- A label is declared, or it has been declared before and nothing happens. -/
theorem declare_cases (labels : Labels) (name : String) (span : Span) :
    labels.isDeclared name = true ∧
        labels.declare name span =
          .error (.name (.repeatedLabel name) span) ∨
      labels.isDeclared name = false ∧
        labels.declare name span =
          .ok { labels with declared := name :: labels.declared } := by
  cases known : labels.isDeclared name with
  | true =>
      exact Or.inl ⟨rfl, by simp [declare, known]⟩
  | false =>
      exact Or.inr ⟨rfl, by simp [declare, known]⟩

theorem isDeclared_afterUse
    (labels : Labels) (use : LabelUse) (name : String) :
    (labels.afterUse use).isDeclared name = true ↔
      labels.isDeclared name = true ∨ use.declared? = some name := by
  cases use with
  | jump target span =>
      simp [afterUse, LabelUse.declared?, jump, isDeclared]
  | declare target span =>
      rcases labels.declare_cases target span with
        ⟨known, failed⟩ | ⟨_, succeeded⟩
      · simp only [afterUse, failed, LabelUse.declared?, Option.some.injEq]
        constructor
        · exact Or.inl
        · rintro (declared | rfl)
          · exact declared
          · exact known
      · simp only [afterUse, succeeded, LabelUse.declared?, isDeclared,
          Option.some.injEq, List.contains_cons, Bool.or_eq_true, beq_iff_eq]
        rw [or_comm, @eq_comm _ name]

theorem targets_afterUse (labels : Labels) (use : LabelUse) :
    (labels.afterUse use).targets =
      use.jump?.elim labels.targets fun jump =>
        insertTarget jump.1 jump.2 labels.targets := by
  cases use with
  | jump target span =>
      rfl
  | declare target span =>
      rcases labels.declare_cases target span with
        ⟨_, failed⟩ | ⟨_, succeeded⟩
      · simp [afterUse, failed, LabelUse.jump?]
      · simp [afterUse, succeeded, LabelUse.jump?]

/-! ## Whole histories -/

theorem isDeclared_replay_iff (history : List LabelUse) (name : String) :
    (replay history).isDeclared name = true ↔
      name ∈ declaredIn history := by
  induction history using List.reverseRecOn with
  | nil =>
      simp [replay, empty, isDeclared, declaredIn]
  | append_singleton history use inductionHypothesis =>
      rw [replay_concat, isDeclared_afterUse, inductionHypothesis]
      simp [declaredIn]

theorem targets_replay (history : List LabelUse) :
    (replay history).targets = targetsOf (jumpsIn history) := by
  induction history using List.reverseRecOn with
  | nil =>
      rfl
  | append_singleton history use inductionHypothesis =>
      rw [replay_concat, targets_afterUse, inductionHypothesis]
      cases jumps : use.jump? with
      | none =>
          simp [jumpsIn, jumps]
      | some jump =>
          have later : jumpsIn (history ++ [use]) =
              jumpsIn history ++ [jump] := by
            simp [jumpsIn, jumps]
          rw [later, targetsOf_concat]
          rfl

theorem ascending_unresolved_replay (history : List LabelUse) :
    Ascending (replay history).unresolved := by
  rw [unresolved, targets_replay]
  exact (ascending_targetsOf _).filter _

theorem mem_unresolved_replay_iff
    (history : List LabelUse) (jump : String × Span) :
    jump ∈ (replay history).unresolved ↔
      IsFirst (jumpsIn history) jump ∧ jump.1 ∉ declaredIn history := by
  rw [unresolved, List.mem_filter, targets_replay, mem_targetsOf_iff,
    ← isDeclared_replay_iff]
  simp

theorem unresolved_eq_of_same {history other : List LabelUse}
    (sameFirst : ∀ jump,
      IsFirst (jumpsIn history) jump ↔ IsFirst (jumpsIn other) jump)
    (sameDeclared : ∀ name,
      name ∈ declaredIn history ↔ name ∈ declaredIn other) :
    (replay history).unresolved = (replay other).unresolved := by
  -- Both lists are strictly ascending, so they are equal if they hold the same.
  have asymmetric : Std.Asymm fun jump later : String × Span =>
      jump.1 < later.1 :=
    ⟨fun _ _ less more => String.lt_irrefl _ (String.lt_trans less more)⟩
  apply List.Pairwise.eq_of_mem_iff (ascending_unresolved_replay history)
    (ascending_unresolved_replay other)
  intro jump
  rw [mem_unresolved_replay_iff, mem_unresolved_replay_iff, sameFirst,
    sameDeclared]

/-! ## The judgement on a history -/

/-- The labels answer as the history asks. -/
structure Records (labels : Labels) (history : List LabelUse) : Prop where
  repeated : ∀ name span,
    (∃ fault, labels.declare name span = .error fault) ↔
      name ∈ declaredIn history
  blames : ∀ name span fault, labels.declare name span = .error fault →
    fault.span = span ∧ fault.message = "label already exists: " ++ name
  keeps : ∀ name span fault, labels.declare name span = .error fault →
    replay (history ++ [.declare name span]) = labels
  ascending : Ascending labels.unresolved
  missing : ∀ jump, jump ∈ labels.unresolved ↔
    IsFirst (jumpsIn history) jump ∧ jump.1 ∉ declaredIn history
  resolved : labels.check = .ok () ↔ labels.unresolved = []
  lists : ∀ first rest, labels.unresolved = first :: rest →
    ∃ fault, labels.check = .error fault ∧ fault.span = first.2 ∧
      fault.message = "attempting to GOTO undeclared label: " ++
        ", ".intercalate (labels.unresolved.map Prod.fst)

theorem records_replay (history : List LabelUse) :
    (replay history).Records history where
  repeated name span := by
    rw [← isDeclared_replay_iff]
    rcases (replay history).declare_cases name span with
      ⟨known, failed⟩ | ⟨fresh, succeeded⟩
    · simp [known, failed]
    · simp [fresh, succeeded]
  blames name span fault failed := by
    rcases (replay history).declare_cases name span with
      ⟨_, refused⟩ | ⟨_, succeeded⟩
    · rw [refused] at failed
      cases failed
      exact ⟨rfl, rfl⟩
    · rw [succeeded] at failed
      cases failed
  keeps name span fault failed := by
    rw [replay_concat, afterUse, failed]
  ascending := ascending_unresolved_replay history
  missing := mem_unresolved_replay_iff history
  resolved := by
    cases unresolved : (replay history).unresolved with
    | nil =>
        simp [check, unresolved]
    | cons first rest =>
        simp [check, unresolved]
  lists first rest unresolved := by
    refine ⟨.name (.missingLabels (first.1 :: rest.map Prod.fst)) first.2,
      ?_, rfl, ?_⟩
    · simp only [check, unresolved]
    · rw [unresolved]
      rfl

end Labels

/-- After any history the labels answer as it asks, and they are judged as after
any other history with the same first jumps and the same declared labels. -/
theorem labels_record_history (history : List LabelUse) :
    (Labels.replay history).Records history ∧
      ∀ other,
        (∀ jump, Labels.IsFirst (jumpsIn history) jump ↔
          Labels.IsFirst (jumpsIn other) jump) →
        (∀ name, name ∈ declaredIn history ↔ name ∈ declaredIn other) →
        (Labels.replay history).check = (Labels.replay other).check := by
  refine ⟨Labels.records_replay history, ?_⟩
  intro other sameFirst sameDeclared
  rw [Labels.check, Labels.check,
    Labels.unresolved_eq_of_same sameFirst sameDeclared]

/-- Two jumps to one label, and a label that is declared after the jump to it
and then once more. -/
def crossedUses : List LabelUse :=
  [.jump "zeta" ⟨5, 9⟩, .jump "alpha" ⟨15, 20⟩, .jump "beta" ⟨25, 29⟩,
    .declare "beta" ⟨35, 39⟩, .jump "alpha" ⟨45, 50⟩, .declare "beta" ⟨60, 64⟩]

/-- The same uses in another order. -/
def sortedUses : List LabelUse :=
  [.declare "beta" ⟨60, 64⟩, .declare "beta" ⟨35, 39⟩, .jump "alpha" ⟨15, 20⟩,
    .jump "alpha" ⟨45, 50⟩, .jump "beta" ⟨25, 29⟩, .jump "zeta" ⟨5, 9⟩]

theorem labels_record_history_crossed :
    crossedUses.Perm sortedUses ∧
      (Labels.replay crossedUses).check = (Labels.replay sortedUses).check ∧
      (∃ fault, (Labels.replay crossedUses).check = .error fault ∧
        fault.span = ⟨15, 20⟩ ∧
        fault.message =
          "attempting to GOTO undeclared label: alpha, zeta") ∧
      ∃ fault,
        (Labels.replay crossedUses).declare "beta" ⟨70, 74⟩ = .error fault ∧
          fault.span = ⟨70, 74⟩ := by
  have unresolved : (Labels.replay crossedUses).unresolved =
      [("alpha", ⟨15, 20⟩), ("zeta", ⟨5, 9⟩)] := by
    decide +kernel
  have sameTargets : Labels.targetsOf (jumpsIn crossedUses) =
      Labels.targetsOf (jumpsIn sortedUses) := by
    decide +kernel
  have sameDeclared : declaredIn crossedUses = declaredIn sortedUses := by
    decide +kernel
  obtain ⟨records, judged⟩ := labels_record_history crossedUses
  refine ⟨by decide +kernel, judged sortedUses ?_ ?_, ?_, ?_⟩
  · intro jump
    rw [← Labels.mem_targetsOf_iff, sameTargets, Labels.mem_targetsOf_iff]
  · intro name
    rw [sameDeclared]
  · obtain ⟨fault, failed, span, message⟩ := records.lists _ _ unresolved
    rw [unresolved] at message
    exact ⟨fault, failed, span, message⟩
  · obtain ⟨fault, failed⟩ := (records.repeated "beta" ⟨70, 74⟩).mpr
      (by decide +kernel)
    exact ⟨fault, failed, (records.blames _ _ _ failed).1⟩

end TeenyTiny
