import TeenyTiny.Proofs.TokenList

/-!
# Texts of tokens

The kind of a token says what its text looks like: a name is a letter with
letters and digits behind it, a number has digits and perhaps a fraction, and an
operator has one spelling.  All tokens that are read from a source are of this
form (`admits_of_tokenize`).
-/

namespace TeenyTiny

/-! ## Cutting off a run of characters -/

section Runs

variable {wanted : Char → Bool} {run rest : List Char}

theorem takeWhile_append_of_stop
    (inside : ∀ c ∈ run, wanted c = true)
    (stops : ∀ c, rest.head? = some c → wanted c = false) :
    (run ++ rest).takeWhile wanted = run := by
  rw [List.takeWhile_append_of_pos inside]
  cases rest with
  | nil =>
      simp
  | cons c rest =>
      have stopsHere := stops c rfl
      simp [stopsHere]

theorem dropWhile_append_of_stop
    (inside : ∀ c ∈ run, wanted c = true)
    (stops : ∀ c, rest.head? = some c → wanted c = false) :
    (run ++ rest).dropWhile wanted = rest := by
  rw [List.dropWhile_append_of_pos inside]
  cases rest with
  | nil =>
      rfl
  | cons c rest =>
      have stopsHere := stops c rfl
      simp [stopsHere]

/-- A run is cut off where a character does not belong to it. -/
theorem eq_false_of_head?_dropWhile {text : List Char} {c : Char}
    (first : (text.dropWhile wanted).head? = some c) :
    wanted c = false := by
  have stops := List.head?_dropWhile_not wanted text
  rw [first] at stops
  exact stops

/-- Behind the last mark of a text stands what is left of it up to there, read
from its end. -/
theorem takeWhile_reverse_append_cons {mark : Char} {behind : List Char}
    (noneBehind : mark ∉ behind)
    (front : List Char) :
    (front ++ mark :: behind).reverse.takeWhile (· ≠ mark) =
      behind.reverse := by
  rw [List.reverse_append, List.reverse_cons, List.append_assoc,
    List.singleton_append]
  apply takeWhile_append_of_stop
  · intro c member
    apply decide_eq_true
    intro isMark
    rw [isMark, List.mem_reverse] at member
    exact noneBehind member
  · intro c first
    cases first
    exact decide_eq_false (fun other => other rfl)

theorem eq_of_append_cons_of_notMem {mark : Char}
    {front other behind rest : List Char}
    (same : front ++ mark :: behind = other ++ mark :: rest)
    (noneBehind : mark ∉ behind)
    (noneThere : mark ∉ rest) :
    behind = rest := by
  apply List.reverse_inj.mp
  rw [← takeWhile_reverse_append_cons noneBehind front, same,
    takeWhile_reverse_append_cons noneThere other]

end Runs

/-! ## Forms of texts -/

theorem isAlpha_eq_false_of_isDigit {c : Char}
    (digit : c.isDigit = true) :
    c.isAlpha = false := by
  -- The letters come behind the digits.
  have below : c.val ≤ '9'.val :=
    of_decide_eq_true (Bool.and_eq_true_iff.mp digit).2
  have outside : ∀ letter : Char, '9'.val < letter.val →
      ¬ c.val ≥ letter.val :=
    fun _ behind above =>
      UInt32.not_le.mpr behind (UInt32.le_trans above below)
  have noUpper : c.isUpper = false :=
    decide_eq_false fun upper => outside 'A' (by decide) upper.1
  have noLower : c.isLower = false :=
    Bool.and_eq_false_imp.mpr fun lower =>
      absurd (of_decide_eq_true lower) (outside 'a' (by decide))
  exact Bool.or_eq_false_iff.mpr ⟨noUpper, noLower⟩

/-- A letter with letters and digits behind it. -/
inductive IsName : List Char → Prop
  | intro {first : Char} {rest : List Char}
      (letter : first.isAlpha = true)
      (others : ∀ c ∈ rest, c.isAlphanum = true) :
      IsName (first :: rest)

theorem isName_cons_iff (first : Char) (rest : List Char) :
    IsName (first :: rest) ↔
      first.isAlpha = true ∧ rest.all Char.isAlphanum = true := by
  rw [List.all_eq_true]
  constructor
  · rintro ⟨letter, others⟩
    exact ⟨letter, others⟩
  · rintro ⟨letter, others⟩
    exact .intro letter others

instance (text : List Char) : Decidable (IsName text) :=
  match text with
  | [] => isFalse nofun
  | first :: rest => decidable_of_iff _ (isName_cons_iff first rest).symm

/-- Digits, with a point and more digits behind them or not. -/
inductive IsNumber : List Char → Prop
  | whole {digits : List Char}
      (nonempty : digits ≠ [])
      (areDigits : ∀ c ∈ digits, c.isDigit = true) :
      IsNumber digits
  | pointed {digits fraction : List Char}
      (nonempty : digits ≠ [])
      (areDigits : ∀ c ∈ digits, c.isDigit = true)
      (fractionNonempty : fraction ≠ [])
      (fractionDigits : ∀ c ∈ fraction, c.isDigit = true) :
      IsNumber (digits ++ '.' :: fraction)

/-- The text is one that a token of the kind can have. -/
def Kind.Admits : Kind → String → Prop
  | .eof, text => text = ""
  | .newline, text => text = "\n"
  | .number, text => IsNumber text.toList
  | .ident, text => IsName text.toList ∧ Keyword.ofText? text = none
  | .string, text => ∀ c ∈ text.toList, Lexeme.isStringChar c = true
  | .keyword word, text => text = word.text
  | .eq, text => text = "="
  | .plus, text => text = "+"
  | .minus, text => text = "-"
  | .star, text => text = "*"
  | .slash, text => text = "/"
  | .eqEq, text => text = "=="
  | .bangEq, text => text = "!="
  | .lt, text => text = "<"
  | .ltEq, text => text = "<="
  | .gt, text => text = ">"
  | .gtEq, text => text = ">="

/-! ## Texts of lexemes -/

namespace Lexeme

/-- The lexeme stands for a text that its kind admits, unless it is
malformed. -/
def Admitted (lexeme : Lexeme) : Prop :=
  ∀ kind, lexeme.reading = .ok kind →
    kind.Admits (String.ofList (lexeme.content kind))

theorem admitted_error {fault : LexicalFault} {text rest : List Char} :
    Admitted ⟨.error fault, text, rest⟩ := by
  rintro kind ⟨⟩

theorem admitted_operator {first : Char} {alone joined : Kind}
    (aloneAdmits : alone.Admits (String.ofList
      (content ⟨.ok alone, [first], []⟩ alone)))
    (joinedAdmits : joined.Admits (String.ofList
      (content ⟨.ok joined, [first, '='], []⟩ joined)))
    (rest : List Char) :
    (operator first alone joined rest).Admitted := by
  unfold operator
  split
  · rintro kind ⟨⟩
    exact joinedAdmits
  · rintro kind ⟨⟩
    exact aloneAdmits

theorem admitted_bang (rest : List Char) : (bang rest).Admitted := by
  unfold bang
  split
  · rintro kind ⟨⟩
    rfl
  · exact admitted_error

theorem admitted_string (rest : List Char) : (string rest).Admitted := by
  unfold string
  split
  · exact admitted_error
  · rintro kind ⟨⟩ c member
    simp only [content, List.cons_append, List.tail_cons,
      List.dropLast_concat, String.toList_ofList] at member
    exact List.all_eq_true.mp List.all_takeWhile c member
  · exact admitted_error

theorem admitted_pointed {whole : List Char}
    (nonempty : whole ≠ [])
    (areDigits : ∀ c ∈ whole, c.isDigit = true)
    (rest : List Char) :
    (pointed whole rest).Admitted := by
  intro kind wellFormed
  unfold pointed at wellFormed
  dsimp only at wellFormed
  split at wellFormed
  · cases wellFormed
  · rename_i good
    cases wellFormed
    have fraction : rest.takeWhile Char.isDigit ≠ [] :=
      fun empty => good (Or.inl empty)
    have digits := List.all_eq_true.mp
      (List.all_takeWhile (l := rest) (p := Char.isDigit))
    simpa [Kind.Admits, content, pointed] using
      IsNumber.pointed nonempty areDigits fraction digits

theorem admitted_number {first : Char} (digit : first.isDigit = true)
    (rest : List Char) :
    (number (first :: rest)).Admitted := by
  have nonempty : (first :: rest).takeWhile Char.isDigit ≠ [] := by
    simp [digit]
  have digits := List.all_eq_true.mp
    (List.all_takeWhile (l := first :: rest) (p := Char.isDigit))
  unfold number
  split
  · exact admitted_pointed nonempty digits _
  · rintro kind ⟨⟩
    simpa [Kind.Admits, content] using IsNumber.whole nonempty digits

theorem text_of_ofText? {text : String} {word : Keyword}
    (found : Keyword.ofText? text = some word) :
    text = word.text := by
  have spelled := List.find?_some found
  simpa using (of_decide_eq_true spelled).symm

theorem admitted_word {first : Char} (letter : first.isAlpha = true)
    (rest : List Char) :
    (word (first :: rest)).Admitted := by
  have named : IsName ((first :: rest).takeWhile Char.isAlphanum) := by
    have alphanumeric : first.isAlphanum = true := by
      simp [Char.isAlphanum, letter]
    rw [List.takeWhile_cons_of_pos alphanumeric]
    exact .intro letter (List.all_eq_true.mp List.all_takeWhile)
  unfold word
  dsimp only
  intro kind wellFormed
  cases found : Keyword.ofText?
      (String.ofList ((first :: rest).takeWhile Char.isAlphanum)) with
  | some keyword =>
      simp only [found] at wellFormed
      cases wellFormed
      exact text_of_ofText? found
  | none =>
      simp only [found] at wellFormed
      cases wellFormed
      simpa [Kind.Admits, content] using ⟨named, found⟩

/-- Every lexeme is admitted. -/
theorem admitted_read (first : Char) (rest : List Char) :
    (read first rest).Admitted := by
  unfold read
  split
  case h_6 | h_7 | h_8 => refine admitted_operator ?_ ?_ rest <;> rfl
  case h_9 => exact admitted_bang rest
  case h_10 => exact admitted_string rest
  case h_11 =>
    split
    · rename_i digit
      exact admitted_number digit rest
    · split
      · rename_i letter
        exact admitted_word letter rest
      · exact admitted_error
  all_goals
    rintro kind ⟨⟩
    rfl

end Lexeme

/-! ## Texts of tokens -/

namespace Cursor

variable {cursor : Cursor} {token : Token} {tokens : List Token}
  {outcome : Option LexicalError}

/-- A token is the end of the source, or a well-formed lexeme in front. -/
theorem next_ok_cases
    (read : cursor.next.1 = .ok token) :
    ((splitBlanks cursor.rest).2 = [] ∧ token = .eof cursor.start ∧
        cursor.next.2 = ⟨cursor.source, [], cursor.start⟩) ∨
      ∃ first rest kind,
        (splitBlanks cursor.rest).2 = first :: rest ∧
          (Lexeme.read first rest).reading = .ok kind ∧
          token = ⟨kind,
            String.ofList ((Lexeme.read first rest).content kind),
            (Lexeme.read first rest).spanAt cursor.start⟩ ∧
          cursor.next.2 = ⟨cursor.source, (Lexeme.read first rest).rest,
            ((Lexeme.read first rest).spanAt cursor.start).stop⟩ := by
  unfold next at read ⊢
  split at read
  · rename_i front
    cases read
    exact Or.inl ⟨front, rfl, rfl⟩
  · rename_i first rest front
    unfold Lexeme.toToken at read
    dsimp only at read
    split at read
    · rename_i kind wellFormed
      cases read
      exact Or.inr ⟨first, rest, kind, front, wellFormed, rfl, rfl⟩
    · cases read

theorem admits_of_next
    (read : cursor.next.1 = .ok token) :
    token.kind.Admits token.text := by
  rcases next_ok_cases read with
    ⟨_, rfl, _⟩ | ⟨first, rest, kind, _, wellFormed, rfl, _⟩
  · rfl
  · exact Lexeme.admitted_read first rest kind wellFormed

theorem Yields.admits
    (yields : Yields cursor tokens outcome)
    (member : token ∈ tokens) :
    token.kind.Admits token.text := by
  induction yields with
  | stop _ =>
      cases member
  | finish read _ =>
      rw [List.mem_singleton] at member
      subst member
      exact admits_of_next read
  | more read _ _ inductionHypothesis =>
      rcases List.mem_cons.mp member with rfl | later
      · exact admits_of_next read
      · exact inductionHypothesis later

end Cursor

/-- The tokens of a source have texts that their kinds admit. -/
theorem admits_of_tokenize
    {source : List Char} {tokens : List Token} {token : Token}
    (tokenized : tokenize source = .ok tokens)
    (member : token ∈ tokens) :
    token.kind.Admits token.text :=
  (yields_of_tokenize tokenized).admits member

end TeenyTiny
