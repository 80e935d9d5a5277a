import Mathlib.Data.List.Induction
import TeenyTiny.Proofs.Grammar

/-!
# Names in a list of tokens

What the names in a source are for can be told from the tokens alone.  The name
right behind `LABEL`, `GOTO`, `LET` or `INPUT` belongs to that keyword, and
every other identifier is read for its value.  A variable is bound behind the
name of an `INPUT`, and behind the end of the line of a `LET`.

The lemmas say what one more token at the end of the list changes.
-/

namespace TeenyTiny

/-- Whether a name belongs to the keyword before it. -/
def Keyword.takesName : Keyword → Bool
  | labelKw | gotoKw | inputKw | letKw => true
  | _ => false

/-- The last token is the given keyword. -/
def EndsIn (word : Keyword) (tokens : List Token) : Prop :=
  tokens.getLast?.map Token.kind = some (.keyword word)

instance (word : Keyword) (tokens : List Token) :
    Decidable (EndsIn word tokens) :=
  inferInstanceAs (Decidable (_ = _))

/-- The names right behind the given keyword, in the order of the tokens. -/
def namesAfter (word : Keyword) : List Token → List String
  | first :: second :: rest =>
      if first.kind = .keyword word ∧ second.kind = .ident then
        second.text :: namesAfter word (second :: rest)
      else
        namesAfter word (second :: rest)
  | _ => []

/-- The names right behind the given keyword as tokens. -/
def tokensAfter (word : Keyword) : List Token → List Token
  | first :: second :: rest =>
      if first.kind = .keyword word ∧ second.kind = .ident then
        second :: tokensAfter word (second :: rest)
      else
        tokensAfter word (second :: rest)
  | _ => []

/-- Some line with an assignment to the variable has ended. -/
def Assigned (tokens : List Token) (name : String) : Prop :=
  ∃ lines lineEnd rest,
    tokens = lines ++ lineEnd :: rest ∧ lineEnd.kind = .newline ∧
      name ∈ namesAfter .letKw lines

/-- The variable has a value behind the tokens. -/
def Bound (tokens : List Token) (name : String) : Prop :=
  name ∈ namesAfter .inputKw tokens ∨ Assigned tokens name

/-- Behind `before`, the token is a variable that is read. -/
def IsOperandName (before : List Token) (token : Token) : Prop :=
  token.kind = .ident ∧
    ∀ word : Keyword, word.takesName = true → ¬ EndsIn word before

/-- Every variable has a value where it is read. -/
def OperandsBound (tokens : List Token) : Prop :=
  ∀ before token after, tokens = before ++ token :: after →
    IsOperandName before token → Bound before token.text

/-- Every jump goes to a label. -/
def JumpsResolved (tokens : List Token) : Prop :=
  ∀ name ∈ namesAfter .gotoKw tokens, name ∈ namesAfter .labelKw tokens

/-! ## One more token -/

@[simp]
theorem endsIn_concat
    (word : Keyword) (tokens : List Token) (token : Token) :
    EndsIn word (tokens ++ [token]) ↔ token.kind = .keyword word := by
  simp [EndsIn]

theorem endsIn_cons_cons
    (word : Keyword) (first second : Token) (rest : List Token) :
    EndsIn word (first :: second :: rest) ↔
      EndsIn word (second :: rest) := by
  simp [EndsIn]

/-- A list without two tokens has one at most. -/
theorem eq_nil_or_singleton {tokens : List Token}
    (short : ∀ first second rest, tokens = first :: second :: rest → False) :
    tokens = [] ∨ ∃ token, tokens = [token] := by
  cases tokens with
  | nil =>
      exact Or.inl rfl
  | cons first rest =>
      cases rest with
      | nil =>
          exact Or.inr ⟨first, rfl⟩
      | cons second rest =>
          exact absurd rfl (short first second rest)

theorem tokensAfter_concat
    (word : Keyword) (tokens : List Token) (token : Token) :
    tokensAfter word (tokens ++ [token]) =
      tokensAfter word tokens ++
        if EndsIn word tokens ∧ token.kind = .ident then [token]
        else [] := by
  fun_induction tokensAfter word tokens with
  | case1 first second rest named inductionHypothesis =>
      simp only [List.cons_append] at inductionHypothesis ⊢
      rw [tokensAfter, if_pos named, inductionHypothesis]
      simp only [endsIn_cons_cons]
  | case2 first second rest other inductionHypothesis =>
      simp only [List.cons_append] at inductionHypothesis ⊢
      rw [tokensAfter, if_neg other, inductionHypothesis]
      simp only [endsIn_cons_cons]
  | case3 tokens short =>
      rcases eq_nil_or_singleton short with rfl | ⟨only, rfl⟩
      · simp [tokensAfter, EndsIn]
      · simp [tokensAfter, EndsIn]

theorem map_text_tokensAfter (word : Keyword) (tokens : List Token) :
    (tokensAfter word tokens).map Token.text = namesAfter word tokens := by
  fun_induction tokensAfter word tokens with
  | case1 first second rest named inductionHypothesis =>
      rw [namesAfter, if_pos named, List.map_cons, inductionHypothesis]
  | case2 first second rest other inductionHypothesis =>
      rw [namesAfter, if_neg other, inductionHypothesis]
  | case3 tokens short =>
      rcases eq_nil_or_singleton short with rfl | ⟨token, rfl⟩
      · rfl
      · rfl

theorem namesAfter_concat
    (word : Keyword) (tokens : List Token) (token : Token) :
    namesAfter word (tokens ++ [token]) =
      namesAfter word tokens ++
        if EndsIn word tokens ∧ token.kind = .ident then [token.text]
        else [] := by
  rw [← map_text_tokensAfter, tokensAfter_concat, List.map_append,
    map_text_tokensAfter]
  split <;> rfl

/-- A name behind a keyword stands in the list right behind that keyword. -/
theorem exists_place_of_tokensAfter {word : Keyword}
    {tokens earlier later : List Token} {token : Token}
    (listed : tokensAfter word tokens = earlier ++ token :: later) :
    ∃ before after, tokens = before ++ token :: after ∧
      EndsIn word before ∧ token.kind = .ident ∧
      tokensAfter word before = earlier := by
  induction tokens using List.reverseRecOn generalizing later with
  | nil =>
      simp [tokensAfter] at listed
  | append_singleton tokens last inductionHypothesis =>
      have shorter : ∀ {rest : List Token},
          tokensAfter word tokens = earlier ++ token :: rest →
            ∃ before after, tokens ++ [last] = before ++ token :: after ∧
              EndsIn word before ∧ token.kind = .ident ∧
              tokensAfter word before = earlier := by
        intro rest found
        obtain ⟨before, after, rfl, ends, kind, same⟩ :=
          inductionHypothesis found
        exact ⟨before, after ++ [last], by simp, ends, kind, same⟩
      rw [tokensAfter_concat] at listed
      by_cases named : EndsIn word tokens ∧ last.kind = .ident
      · rw [if_pos named] at listed
        rcases List.eq_nil_or_concat later with rfl | ⟨front, other, rfl⟩
        · obtain ⟨same, sameLast⟩ := List.append_inj' listed rfl
          cases sameLast
          exact ⟨tokens, [], rfl, named.1, named.2, same⟩
        · rw [List.concat_eq_append, ← List.cons_append,
            ← List.append_assoc] at listed
          exact shorter (List.append_inj' listed rfl).1
      · rw [if_neg named, List.append_nil] at listed
        exact shorter listed

/-- A token that is no identifier adds no name. -/
theorem namesAfter_concat_of_ne
    {word : Keyword} {tokens : List Token} {token : Token}
    (other : token.kind ≠ .ident) :
    namesAfter word (tokens ++ [token]) = namesAfter word tokens := by
  rw [namesAfter_concat, if_neg fun named => other named.2, List.append_nil]

/-- More tokens only add names at the end. -/
theorem exists_namesAfter_append
    (word : Keyword) (tokens more : List Token) :
    ∃ names,
      namesAfter word (tokens ++ more) = namesAfter word tokens ++ names := by
  induction more using List.reverseRecOn with
  | nil =>
      exact ⟨[], by simp⟩
  | append_singleton more token inductionHypothesis =>
      obtain ⟨names, equality⟩ := inductionHypothesis
      rw [← List.append_assoc, namesAfter_concat, equality,
        List.append_assoc]
      exact ⟨_, rfl⟩

/-- No name comes twice if none is among those before it. -/
theorem nodup_namesAfter_iff (word : Keyword) (tokens : List Token) :
    (namesAfter word tokens).Nodup ↔
      ∀ before token after, tokens = before ++ token :: after →
        EndsIn word before → token.kind = .ident →
          token.text ∉ namesAfter word before := by
  constructor
  · rintro nodup before token after rfl ends kind
    obtain ⟨names, equality⟩ :=
      exists_namesAfter_append word (before ++ [token]) after
    rw [List.append_assoc, List.singleton_append] at equality
    rw [equality, namesAfter_concat, if_pos ⟨ends, kind⟩] at nodup
    have front := (List.nodup_append.mp nodup).1
    have apart := (List.nodup_append.mp front).2.2
    intro member
    exact apart _ member _ (List.mem_singleton_self _) rfl
  · intro fresh
    induction tokens using List.reverseRecOn with
    | nil =>
        exact List.nodup_nil
    | append_singleton tokens token inductionHypothesis =>
        have front : (namesAfter word tokens).Nodup := by
          apply inductionHypothesis
          rintro before other after rfl
          exact fresh before other (after ++ [token]) (by simp)
        rw [namesAfter_concat]
        split
        · rename_i named
          have absent := fresh tokens token [] rfl named.1 named.2
          refine List.nodup_append.mpr ⟨front, by simp, ?_⟩
          rintro name member other otherMember rfl
          rw [List.mem_singleton] at otherMember
          exact absent (otherMember ▸ member)
        · rwa [List.append_nil]

theorem assigned_concat
    (tokens : List Token) (token : Token) (name : String) :
    Assigned (tokens ++ [token]) name ↔
      Assigned tokens name ∨
        token.kind = .newline ∧ name ∈ namesAfter .letKw tokens := by
  constructor
  · rintro ⟨lines, lineEnd, rest, whole, kind, member⟩
    rcases List.eq_nil_or_concat rest with rfl | ⟨front, last, rfl⟩
    · obtain ⟨rfl, same⟩ := List.append_inj' whole rfl
      cases same
      exact Or.inr ⟨kind, member⟩
    · rw [List.concat_eq_append, ← List.cons_append,
        ← List.append_assoc] at whole
      obtain ⟨rfl, _⟩ := List.append_inj' whole rfl
      exact Or.inl ⟨lines, lineEnd, front, rfl, kind, member⟩
  · rintro (⟨lines, lineEnd, rest, rfl, kind, member⟩ | ⟨kind, member⟩)
    · exact ⟨lines, lineEnd, rest ++ [token], by simp, kind, member⟩
    · exact ⟨tokens, token, [], rfl, kind, member⟩

/-! ## More lines -/

theorem endsIn_append_lineEnd {lineEnd : Token}
    (kind : lineEnd.kind = .newline)
    (word : Keyword) (front back : List Token) :
    EndsIn word (front ++ lineEnd :: back) ↔ EndsIn word back := by
  induction back using List.reverseRecOn with
  | nil =>
      simp [EndsIn, kind]
  | append_singleton back token _ =>
      rw [← List.cons_append, ← List.append_assoc, endsIn_concat,
        endsIn_concat]

/-- A name does not belong to a keyword in another line. -/
theorem namesAfter_append_lineEnd {lineEnd : Token}
    (kind : lineEnd.kind = .newline)
    (word : Keyword) (front back : List Token) :
    namesAfter word (front ++ lineEnd :: back) =
      namesAfter word front ++ namesAfter word back := by
  induction back using List.reverseRecOn with
  | nil =>
      rw [namesAfter_concat_of_ne (by simp [kind])]
      simp [namesAfter]
  | append_singleton back token inductionHypothesis =>
      rw [← List.cons_append, ← List.append_assoc, namesAfter_concat,
        namesAfter_concat, inductionHypothesis, List.append_assoc]
      simp only [endsIn_append_lineEnd kind]

end TeenyTiny
