import TeenyTiny.Proofs.Regions

/-!
# Names in the tree of a program

What the names in a list of tokens are for shows in the tree that the tokens
spell as well.  The names behind a keyword are those of its statements
(`Program.SpelledBy.namesAfter_eq`), and a variable that some expression of the
tree reads is read in the tokens (`Program.SpelledBy.reads`).  So in a correct
list of tokens, the tree gives a value to every variable that it reads
(`mem_variables_of_reads`).
-/

namespace TeenyTiny

/-! ## Names of the tree -/

/-- What is gathered from the operands of a chain, in their order. -/
def Chain.gather {Op Arg : Type} (names : Arg → List String) :
    Chain Op Arg → List String
  | .first arg => names arg
  | .join left _ right => left.gather names ++ names right

def Operand.variables : Operand → List String
  | .number _ => []
  | .variable name => [name]

def Term.variables (term : Term) : List String :=
  Chain.gather (fun factor : Factor => factor.operand.variables) term

def Expr.variables (expr : Expr) : List String :=
  Chain.gather Term.variables expr

def Comparison.variables (test : Comparison) : List String :=
  Chain.gather Expr.variables (.join test.left test.op test.right)

mutual

/-- The variables that a statement reads. -/
def Statement.reads : Statement → List String
  | .printValue value => value.variables
  | .assign _ value => value.variables
  | .block _ test body => test.variables ++ Statement.readsAll body
  | _ => []

def Statement.readsAll : List Statement → List String
  | [] => []
  | statement :: rest => statement.reads ++ Statement.readsAll rest

end

mutual

/-- The names that stand behind the given keyword in a statement. -/
def Statement.namesBehind (word : Keyword) : Statement → List String
  | .label name => if word = .labelKw then [name] else []
  | .jump name => if word = .gotoKw then [name] else []
  | .assign name _ => if word = .letKw then [name] else []
  | .input name => if word = .inputKw then [name] else []
  | .block _ _ body => Statement.namesBehindAll word body
  | _ => []

def Statement.namesBehindAll (word : Keyword) : List Statement → List String
  | [] => []
  | statement :: rest =>
      statement.namesBehind word ++ Statement.namesBehindAll word rest

end

mutual

/-- A statement gives values to the names behind `LET` and `INPUT`. -/
theorem Statement.mem_targets (name : String) : (statement : Statement) →
    (name ∈ statement.targets ↔
      name ∈ statement.namesBehind .letKw ∨
        name ∈ statement.namesBehind .inputKw)
  | .printText _ | .printValue _ | .label _ | .jump _ | .assign _ _
  | .input _ => by
      simp [Statement.targets, Statement.namesBehind]
  | .block _ _ body => by
      rw [Statement.targets, Statement.mem_targetsAll name body]
      rfl

theorem Statement.mem_targetsAll (name : String) :
    (statements : List Statement) →
      (name ∈ Statement.targetsAll statements ↔
        name ∈ Statement.namesBehindAll .letKw statements ∨
          name ∈ Statement.namesBehindAll .inputKw statements)
  | [] => by simp [Statement.targetsAll, Statement.namesBehindAll]
  | statement :: rest => by
      simp only [Statement.targetsAll, Statement.namesBehindAll,
        List.mem_append, Statement.mem_targets name statement,
        Statement.mem_targetsAll name rest]
      exact or_or_or_comm

end

/-! ## Tokens of expressions -/

section Expressions

variable {tokens : List Token}

/-- The token is no keyword. -/
def Token.IsPlain (token : Token) : Prop :=
  ∀ word, token.kind ≠ .keyword word

/-- The token is a number, a name or an operator, as all tokens of expressions
are. -/
def Token.StandsInExpr (token : Token) : Prop :=
  token.kind = .number ∨ token.kind = .ident ∨ token.kind.band = .operator

theorem Token.StandsInExpr.isPlain {token : Token}
    (stands : token.StandsInExpr) :
    token.IsPlain := by
  intro word keyword
  simp [Token.StandsInExpr, keyword, Kind.band] at stands

theorem Token.StandsInExpr.ne_string {token : Token}
    (stands : token.StandsInExpr) :
    token.kind ≠ .string := by
  intro string
  simp [Token.StandsInExpr, string, Kind.band] at stands

theorem Factor.SpelledBy.standsInExpr {factor : Factor}
    (spelled : factor.SpelledBy tokens) :
    ∀ token ∈ tokens, token.StandsInExpr := by
  have operand : ∀ {operand : Operand} {tokens : List Token},
      operand.SpelledBy tokens → ∀ token ∈ tokens, token.StandsInExpr := by
    intro operand tokens spelled
    cases spelled with
    | number kind => simp [Token.StandsInExpr, kind]
    | name kind => simp [Token.StandsInExpr, kind]
  cases spelled with
  | plain spelled =>
      exact operand spelled
  | @signed op _ _ _ kind spelled =>
      rw [List.forall_mem_cons]
      refine ⟨Or.inr (Or.inr ?_), operand spelled⟩
      rw [kind]
      cases op <;> rfl

theorem Chain.SpelledBy.standsInExpr {Op Arg : Type} {opKind : Op → Kind}
    {ArgSpelled : Arg → List Token → Prop}
    (ops : ∀ op, (opKind op).band = .operator)
    (args : ∀ arg argTokens, ArgSpelled arg argTokens →
      ∀ token ∈ argTokens, token.StandsInExpr)
    {chain : Chain Op Arg}
    (spelled : chain.SpelledBy opKind ArgSpelled tokens) :
    ∀ token ∈ tokens, token.StandsInExpr := by
  induction spelled with
  | first spelled =>
      exact args _ _ spelled
  | @join _ op _ _ _ opToken _ kind spelled inductionHypothesis =>
      have operator : opToken.StandsInExpr := by
        refine Or.inr (Or.inr ?_)
        rw [kind]
        exact ops op
      rw [List.forall_mem_append, List.forall_mem_cons]
      exact ⟨inductionHypothesis, operator, args _ _ spelled⟩

theorem Expr.SpelledBy.standsInExpr {expr : Expr}
    (spelled : expr.SpelledBy tokens) :
    ∀ token ∈ tokens, token.StandsInExpr := by
  refine Chain.SpelledBy.standsInExpr (fun op => by cases op <;> rfl) ?_
    spelled
  intro term termTokens spelled
  refine Chain.SpelledBy.standsInExpr (fun op => by cases op <;> rfl) ?_
    spelled
  intro factor factorTokens spelled
  exact spelled.standsInExpr

theorem Comparison.SpelledBy.standsInExpr {test : Comparison}
    (spelled : test.SpelledBy tokens) :
    ∀ token ∈ tokens, token.StandsInExpr := by
  refine Chain.SpelledBy.standsInExpr (fun op => by cases op <;> rfl) ?_
    spelled
  intro expr exprTokens spelled
  exact spelled.standsInExpr

theorem Expr.SpelledBy.isPlain {expr : Expr}
    (spelled : expr.SpelledBy tokens) :
    ∀ token ∈ tokens, token.IsPlain :=
  fun token member => (spelled.standsInExpr token member).isPlain

theorem Comparison.SpelledBy.isPlain {test : Comparison}
    (spelled : test.SpelledBy tokens) :
    ∀ token ∈ tokens, token.IsPlain :=
  fun token member => (spelled.standsInExpr token member).isPlain

theorem Chain.SpelledBy.exists_ident {Op Arg : Type} {opKind : Op → Kind}
    {ArgSpelled : Arg → List Token → Prop} {names : Arg → List String}
    {name : String}
    (args : ∀ arg argTokens, ArgSpelled arg argTokens → name ∈ names arg →
      ∃ token ∈ argTokens, token.kind = .ident ∧ token.text = name)
    {chain : Chain Op Arg}
    (spelled : chain.SpelledBy opKind ArgSpelled tokens)
    (member : name ∈ chain.gather names) :
    ∃ token ∈ tokens, token.kind = .ident ∧ token.text = name := by
  induction spelled with
  | first spelled =>
      exact args _ _ spelled member
  | join _ _ spelled inductionHypothesis =>
      rcases List.mem_append.mp member with member | member
      · obtain ⟨token, inside, found⟩ := inductionHypothesis member
        exact ⟨token, List.mem_append_left _ inside, found⟩
      · obtain ⟨token, inside, found⟩ := args _ _ spelled member
        exact ⟨token, List.mem_append_right _
          (List.mem_cons_of_mem _ inside), found⟩

theorem Factor.SpelledBy.exists_ident {factor : Factor} {name : String}
    (spelled : factor.SpelledBy tokens)
    (member : name ∈ factor.operand.variables) :
    ∃ token ∈ tokens, token.kind = .ident ∧ token.text = name := by
  have operand : ∀ {operand : Operand} {tokens : List Token},
      operand.SpelledBy tokens → name ∈ operand.variables →
        ∃ token ∈ tokens, token.kind = .ident ∧ token.text = name := by
    intro operand tokens spelled member
    cases spelled with
    | number _ =>
        cases member
    | @name token kind =>
        rw [Operand.variables, List.mem_singleton] at member
        exact ⟨token, List.mem_singleton_self token, kind, member.symm⟩
  cases spelled with
  | plain spelled =>
      exact operand spelled member
  | signed _ spelled =>
      obtain ⟨token, inside, found⟩ := operand spelled member
      exact ⟨token, List.mem_cons_of_mem _ inside, found⟩

/-- The variables of an expression are among its tokens. -/
theorem Expr.SpelledBy.exists_ident {expr : Expr} {name : String}
    (spelled : expr.SpelledBy tokens)
    (member : name ∈ expr.variables) :
    ∃ token ∈ tokens, token.kind = .ident ∧ token.text = name := by
  refine Chain.SpelledBy.exists_ident ?_ spelled member
  intro term termTokens spelled member
  refine Chain.SpelledBy.exists_ident ?_ spelled member
  intro factor factorTokens spelled member
  exact spelled.exists_ident member

theorem Comparison.SpelledBy.exists_ident {test : Comparison} {name : String}
    (spelled : test.SpelledBy tokens)
    (member : name ∈ test.variables) :
    ∃ token ∈ tokens, token.kind = .ident ∧ token.text = name := by
  refine Chain.SpelledBy.exists_ident ?_ spelled member
  intro expr exprTokens spelled member
  exact spelled.exists_ident member

end Expressions

/-! ## Names behind keywords -/

section Names

variable {word : Keyword} {tokens : List Token}

theorem keyword_ne_of_takesName {own : Keyword}
    (takesNone : own.takesName = false)
    (takes : word.takesName = true) :
    Kind.keyword own ≠ .keyword word := by
  rintro ⟨⟩
  rw [takesNone] at takes
  cases takes

theorem namesAfter_eq_nil
    (absent : ∀ token ∈ tokens, token.kind ≠ .keyword word) :
    namesAfter word tokens = [] := by
  fun_induction namesAfter word tokens with
  | case1 first _ _ named _ =>
      exact absurd named.1 (absent first (List.mem_cons_self ..))
  | case2 first _ _ _ inductionHypothesis =>
      exact inductionHypothesis fun token member =>
        absent token (List.mem_cons_of_mem first member)
  | case3 _ _ =>
      rfl

theorem namesAfter_cons_of_ne {first : Token}
    (other : first.kind ≠ .keyword word) :
    namesAfter word (first :: tokens) = namesAfter word tokens := by
  cases tokens with
  | nil =>
      rfl
  | cons second rest =>
      rw [namesAfter, if_neg fun named => other named.1]

theorem namesAfter_blank_append {blank : List Token}
    (isBlank : Blank blank) :
    namesAfter word (blank ++ tokens) = namesAfter word tokens := by
  induction blank with
  | nil =>
      rfl
  | cons first rest inductionHypothesis =>
      have kind := isBlank first (List.mem_cons_self ..)
      rw [List.cons_append, namesAfter_cons_of_ne (by simp [kind]),
        inductionHypothesis fun token member =>
          isBlank token (List.mem_cons_of_mem first member)]

/-- Names do not reach over the end of a line. -/
theorem namesAfter_append_ends {front lineEnd : List Token}
    (ends : LineEnd lineEnd) :
    namesAfter word (front ++ (lineEnd ++ tokens)) =
      namesAfter word front ++ namesAfter word tokens := by
  obtain ⟨first, blank, rfl, kind, isBlank⟩ := ends.exists_cons
  rw [List.cons_append, namesAfter_append_lineEnd kind,
    namesAfter_blank_append isBlank]

theorem namesAfter_pair {first second : Token} {own : Keyword}
    (kind : first.kind = .keyword own)
    (named : second.kind = .ident) :
    namesAfter word [first, second] =
      if word = own then [second.text] else [] := by
  simp [namesAfter, kind, named, eq_comm]

theorem Statement.SpelledBy.namesAfter_eq {statement : Statement}
    (spelled : statement.SpelledBy tokens)
    (takes : word.takesName = true) :
    namesAfter word tokens = statement.namesBehind word := by
  cases spelled with
  | printText wordKind textKind =>
      simp [namesAfter, textKind, Statement.namesBehind]
  | printValue wordKind spelled =>
      have other : Kind.keyword .printKw ≠ .keyword word :=
        keyword_ne_of_takesName rfl takes
      rw [← wordKind] at other
      rw [namesAfter_cons_of_ne other,
        namesAfter_eq_nil fun token member => spelled.isPlain token member word]
      rfl
  | label wordKind nameKind =>
      exact namesAfter_pair wordKind nameKind
  | jump wordKind nameKind =>
      exact namesAfter_pair wordKind nameKind
  | @assign first name equals _ valueTokens wordKind nameKind equalsKind
      spelled =>
      have rest : namesAfter word (equals :: valueTokens) = [] := by
        rw [namesAfter_cons_of_ne (by simp [equalsKind])]
        exact namesAfter_eq_nil fun token member =>
          spelled.isPlain token member word
      rw [namesAfter, namesAfter_cons_of_ne (by simp [nameKind]), rest]
      simp [wordKind, nameKind, Statement.namesBehind, eq_comm]
  | input wordKind nameKind =>
      exact namesAfter_pair wordKind nameKind

/-- The names behind a keyword in the tokens are those in the tree. -/
theorem Program.SpelledBy.namesAfter_eq {program : Program}
    (spelled : program.SpelledBy tokens)
    (takes : word.takesName = true) :
    namesAfter word tokens = Statement.namesBehindAll word program := by
  induction spelled with
  | nil =>
      rfl
  | simple spelled ends _ inductionHypothesis =>
      rw [namesAfter_append_ends ends, spelled.namesAfter_eq takes,
        inductionHypothesis]
      rfl
  | @block kind _ _ _ opener divider closer test lineEnd body closeEnd rest
      openerKind testSpelled dividerKind ends _ closerKind closes _
      bodyHypothesis restHypothesis =>
      have head : namesAfter word (opener :: (test ++ [divider])) = [] := by
        apply namesAfter_eq_nil
        rw [List.forall_mem_cons, List.forall_mem_append,
          List.forall_mem_singleton, openerKind, dividerKind]
        refine ⟨?_, fun token member => testSpelled.isPlain token member word,
          ?_⟩
        · exact keyword_ne_of_takesName (by cases kind <;> rfl) takes
        · exact keyword_ne_of_takesName (by cases kind <;> rfl) takes
      have inner : namesAfter word (body ++ [closer]) =
          namesAfter word body :=
        namesAfter_concat_of_ne (by simp [closerKind])
      have lines : opener :: (test ++ divider ::
            (lineEnd ++ (body ++ closer :: (closeEnd ++ rest)))) =
          (opener :: (test ++ [divider])) ++
            (lineEnd ++ ((body ++ [closer]) ++ (closeEnd ++ rest))) := by
        simp
      rw [lines, namesAfter_append_ends ends, namesAfter_append_ends closes,
        head, inner, bodyHypothesis, restHypothesis]
      rfl

theorem Program.WrittenAs.namesAfter_eq {program : Program}
    (written : program.WrittenAs tokens)
    (takes : word.takesName = true) :
    namesAfter word tokens = Statement.namesBehindAll word program := by
  obtain ⟨blank, body, last, rfl, isBlank, spelled, kind⟩ := written
  rw [namesAfter_blank_append isBlank,
    namesAfter_concat_of_ne (by simp [kind]), spelled.namesAfter_eq takes]

end Names

/-! ## Names that are read -/

/-- Somewhere in the tokens the variable is read. -/
def ReadsName (tokens : List Token) (name : String) : Prop :=
  ∃ before token after, tokens = before ++ token :: after ∧ before ≠ [] ∧
    IsOperandName before token ∧ token.text = name

section Reads

variable {tokens : List Token} {name : String}

theorem endsIn_append_of_ne_nil (word : Keyword)
    {front back : List Token}
    (nonempty : back ≠ []) :
    EndsIn word (front ++ back) ↔ EndsIn word back := by
  rcases List.eq_nil_or_concat back with rfl | ⟨start, last, rfl⟩
  · exact absurd rfl nonempty
  · rw [List.concat_eq_append, ← List.append_assoc, endsIn_concat,
      endsIn_concat]

theorem ReadsName.append_left
    (reads : ReadsName tokens name) (front : List Token) :
    ReadsName (front ++ tokens) name := by
  obtain ⟨before, token, after, rfl, nonempty, operand, text⟩ := reads
  refine ⟨front ++ before, token, after, by simp, by simp [nonempty],
    ⟨operand.1, ?_⟩, text⟩
  intro word takes
  rw [endsIn_append_of_ne_nil word nonempty]
  exact operand.2 word takes

theorem ReadsName.append_right
    (reads : ReadsName tokens name) (back : List Token) :
    ReadsName (tokens ++ back) name := by
  obtain ⟨before, token, after, rfl, nonempty, operand, text⟩ := reads
  exact ⟨before, token, after ++ back, by simp, nonempty, operand, text⟩

/-- An identifier of an expression is read, unless a keyword right before the
expression takes it. -/
theorem readsName_of_ident (start : List Token) {last token : Token}
    (untaken : ∀ word : Keyword, word.takesName = true →
      last.kind ≠ .keyword word)
    (plain : ∀ token ∈ tokens, token.IsPlain)
    (member : token ∈ tokens)
    (kind : token.kind = .ident) :
    ReadsName (start ++ [last] ++ tokens) token.text := by
  obtain ⟨before, after, rfl⟩ := List.append_of_mem member
  refine ⟨start ++ [last] ++ before, token, after, by simp, by simp,
    ⟨kind, ?_⟩, rfl⟩
  intro word takes ends
  rcases List.eq_nil_or_concat before with rfl | ⟨front, other, rfl⟩
  · rw [List.append_nil, endsIn_concat] at ends
    exact untaken word takes ends
  · rw [List.concat_eq_append, ← List.append_assoc, endsIn_concat] at ends
    exact plain other (by simp) word ends

theorem Statement.SpelledBy.reads {statement : Statement}
    (spelled : statement.SpelledBy tokens)
    (member : name ∈ statement.reads) :
    ReadsName tokens name := by
  cases spelled with
  | printValue wordKind spelled =>
      obtain ⟨token, inside, kind, rfl⟩ := spelled.exists_ident member
      refine readsName_of_ident [] ?_ spelled.isPlain inside kind
      intro other takes
      rw [wordKind]
      exact keyword_ne_of_takesName rfl takes
  | @assign word target _ _ _ _ _ equalsKind spelled =>
      obtain ⟨token, inside, kind, rfl⟩ := spelled.exists_ident member
      refine readsName_of_ident [word, target] ?_ spelled.isPlain inside kind
      intro other _
      simp [equalsKind]
  | printText _ _ | label _ _ | jump _ _ | input _ _ =>
      cases member

/-- What the tree reads is read in the tokens. -/
theorem Program.SpelledBy.reads {program : Program}
    (spelled : program.SpelledBy tokens)
    (member : name ∈ Statement.readsAll program) :
    ReadsName tokens name := by
  induction spelled with
  | nil =>
      cases member
  | simple spelled _ _ inductionHypothesis =>
      rcases List.mem_append.mp member with member | member
      · exact (spelled.reads member).append_right _
      · exact ((inductionHypothesis member).append_left _).append_left _
  | @block kind test _ _ opener divider closer testTokens lineEnd body closeEnd
      rest openerKind testSpelled _ _ _ _ _ _ bodyHypothesis restHypothesis =>
      rw [Statement.readsAll, Statement.reads, List.mem_append,
        List.mem_append] at member
      rcases member with (member | member) | member
      · obtain ⟨token, inside, identKind, rfl⟩ :=
          testSpelled.exists_ident member
        have untaken : ∀ word : Keyword, word.takesName = true →
            opener.kind ≠ .keyword word := by
          intro word takes
          rw [openerKind]
          exact keyword_ne_of_takesName (by cases kind <;> rfl) takes
        exact (readsName_of_ident [] untaken testSpelled.isPlain inside
          identKind).append_right _
      · have found := ((bodyHypothesis member).append_right
          (closer :: (closeEnd ++ rest))).append_left
            (opener :: (testTokens ++ divider :: lineEnd))
        simpa using found
      · have found := (restHypothesis member).append_left
          (opener :: (testTokens ++ divider ::
            (lineEnd ++ (body ++ closer :: closeEnd))))
        simpa using found

theorem Program.WrittenAs.reads {program : Program}
    (written : program.WrittenAs tokens)
    (member : name ∈ Statement.readsAll program) :
    ReadsName tokens name := by
  obtain ⟨blank, body, last, rfl, _, spelled, _⟩ := written
  exact ((spelled.reads member).append_right [last]).append_left blank

/-- Names that are bound stand behind `INPUT` or `LET`. -/
theorem Bound.mem_namesAfter {before : List Token}
    (bound : Bound before name) (after : List Token) :
    name ∈ namesAfter .letKw (before ++ after) ∨
      name ∈ namesAfter .inputKw (before ++ after) := by
  have grows : ∀ (word : Keyword) (front back : List Token),
      name ∈ namesAfter word front →
        name ∈ namesAfter word (front ++ back) := by
    intro word front back member
    obtain ⟨names, whole⟩ := exists_namesAfter_append word front back
    rw [whole]
    exact List.mem_append_left names member
  rcases bound with read | ⟨lines, lineEnd, rest, rfl, _, assigned⟩
  · exact Or.inr (grows _ _ _ read)
  · rw [List.append_assoc]
    exact Or.inl (grows _ _ _ assigned)

/-- In correct tokens, the tree gives a value to every variable that it
reads. -/
theorem mem_variables_of_reads {program : Program}
    (written : program.WrittenAs tokens)
    (bound : OperandsBound tokens)
    (member : name ∈ Statement.readsAll program) :
    name ∈ program.variables := by
  obtain ⟨before, token, after, rfl, _, operand, rfl⟩ := written.reads member
  have named := (bound before token after rfl operand).mem_namesAfter
    (token :: after)
  rw [written.namesAfter_eq rfl, written.namesAfter_eq rfl] at named
  rw [Program.mem_variables, Statement.mem_targetsAll]
  exact named

end Reads

end TeenyTiny
