import Mathlib.Data.List.Basic
import TeenyTiny.Proofs.Records
import TeenyTiny.Proofs.TreeNames

/-!
# Declarations

The header of a compiled program declares the variables that its source gives
values, each once and in the order in which the source first does so.  The log
of the compilation tells their number, in one record (`compile_declares`).

A variable is bound at the end of the line of a `LET` and behind the name of an
`INPUT`, but what the tokens say comes to the same: the names behind these two
keywords are the variables that the statements give values, in blocks too
(`Program.SpelledBy.targetNames_eq`).
-/

namespace TeenyTiny

/-! ## First occurrences -/

/-- The names are those of the list, each once, in the order in which they
first occur there. -/
structure FirstOccurrences (names all : List String) : Prop where
  nodup : names.Nodup
  mem_iff : ∀ name, name ∈ names ↔ name ∈ all
  ordered : names.Pairwise fun first second =>
    all.idxOf first < all.idxOf second

theorem pairwise_idxOf_eraseDups (all : List String) :
    all.eraseDups.Pairwise fun first second =>
      all.idxOf first < all.idxOf second := by
  induction all using List.reverseRecOn with
  | nil =>
      exact List.Pairwise.nil
  | append_singleton all name inductionHypothesis =>
      -- A name at the end does not move the first occurrences before it.
      have earlier : ∀ other ∈ all.eraseDups,
          (all ++ [name]).idxOf other = all.idxOf other := by
        intro other member
        exact List.idxOf_append_of_mem (List.mem_eraseDups.mp member)
      have ordered : all.eraseDups.Pairwise fun first second =>
          (all ++ [name]).idxOf first < (all ++ [name]).idxOf second := by
        apply inductionHypothesis.imp_of_mem
        intro first second firstMember secondMember less
        rwa [earlier first firstMember, earlier second secondMember]
      rw [eraseDups_concat]
      by_cases known : name ∈ all
      · rwa [if_pos known]
      · rw [if_neg known, List.pairwise_append]
        refine ⟨ordered, List.pairwise_singleton _ _, ?_⟩
        intro first member second last
        have inside := List.mem_eraseDups.mp member
        rw [List.mem_singleton.mp last, earlier first member,
          List.idxOf_append_of_notMem known]
        have bound := List.idxOf_lt_length_of_mem inside
        omega

theorem firstOccurrences_eraseDups (all : List String) :
    FirstOccurrences all.eraseDups all where
  nodup := nodup_eraseDups all
  mem_iff _ := List.mem_eraseDups
  ordered := pairwise_idxOf_eraseDups all

/-! ## Names behind the keywords of bindings -/

/-- The token is `LET` or `INPUT`. -/
def Token.Binds (token : Token) : Prop :=
  token.kind = .keyword .letKw ∨ token.kind = .keyword .inputKw

instance (token : Token) : Decidable token.Binds :=
  inferInstanceAs (Decidable (_ ∨ _))

theorem Token.not_binds_of_isPlain {token : Token}
    (plain : token.IsPlain) :
    ¬ token.Binds :=
  not_or.mpr ⟨plain .letKw, plain .inputKw⟩

/-- The names right behind `LET` and `INPUT`, in the order of the tokens. -/
def targetNames : List Token → List String
  | first :: second :: rest =>
      if first.Binds ∧ second.kind = .ident then
        second.text :: targetNames (second :: rest)
      else
        targetNames (second :: rest)
  | _ => []

section Targets

variable {tokens : List Token}

theorem targetNames_cons_of_not {first : Token}
    (other : ¬ first.Binds) :
    targetNames (first :: tokens) = targetNames tokens := by
  cases tokens with
  | nil =>
      rfl
  | cons second rest =>
      rw [targetNames, if_neg fun named => other named.1]

/-- Without keywords of bindings there are no names behind them. -/
theorem targetNames_append_of_not {front : List Token}
    (absent : ∀ token ∈ front, ¬ token.Binds) :
    targetNames (front ++ tokens) = targetNames tokens := by
  induction front with
  | nil =>
      rfl
  | cons first front inductionHypothesis =>
      rw [List.forall_mem_cons] at absent
      rw [List.cons_append, targetNames_cons_of_not absent.1,
        inductionHypothesis absent.2]

theorem targetNames_eq_nil
    (absent : ∀ token ∈ tokens, ¬ token.Binds) :
    targetNames tokens = [] := by
  have whole := @targetNames_append_of_not [] tokens absent
  rwa [List.append_nil] at whole

theorem Blank.isPlain {blank : List Token}
    (isBlank : Blank blank) :
    ∀ token ∈ blank, token.IsPlain := by
  intro token member word kind
  rw [isBlank token member] at kind
  cases kind

theorem Blank.not_binds {blank : List Token}
    (isBlank : Blank blank) :
    ∀ token ∈ blank, ¬ token.Binds :=
  fun token member => Token.not_binds_of_isPlain (isBlank.isPlain token member)

/-- Where no name follows, the list can be cut. -/
theorem targetNames_append {front : List Token} {next : Token}
    (unnamed : next.kind ≠ .ident) :
    targetNames (front ++ next :: tokens) =
      targetNames front ++ targetNames (next :: tokens) := by
  fun_induction targetNames front with
  | case1 first second rest named inductionHypothesis =>
      simp only [List.cons_append] at inductionHypothesis ⊢
      rw [targetNames, if_pos named, inductionHypothesis]
  | case2 first second rest other inductionHypothesis =>
      simp only [List.cons_append] at inductionHypothesis ⊢
      rw [targetNames, if_neg other, inductionHypothesis]
  | case3 front short =>
      rcases eq_nil_or_singleton short with rfl | ⟨first, rfl⟩
      · rfl
      · have other : ¬ (first.Binds ∧ next.kind = .ident) :=
          fun named => unnamed named.2
        rw [List.singleton_append, targetNames, if_neg other]
        rfl

theorem targetNames_append_ends {front lineEnd : List Token}
    (ends : LineEnd lineEnd) :
    targetNames (front ++ (lineEnd ++ tokens)) =
      targetNames front ++ targetNames tokens := by
  obtain ⟨first, blank, rfl, kind, isBlank⟩ := ends.exists_cons
  have plain : ¬ first.Binds := by
    simp [Token.Binds, kind]
  rw [List.cons_append, targetNames_append (by simp [kind]),
    targetNames_cons_of_not plain,
    targetNames_append_of_not isBlank.not_binds]

theorem Statement.SpelledBy.targetNames_eq {statement : Statement}
    (spelled : statement.SpelledBy tokens) :
    targetNames tokens = statement.targets := by
  cases spelled with
  | printText wordKind textKind =>
      simp [targetNames, textKind, Statement.targets]
  | @printValue word _ _ wordKind spelled =>
      have printer : ¬ word.Binds := by
        simp [Token.Binds, wordKind]
      rw [targetNames_cons_of_not printer]
      exact targetNames_eq_nil fun token member =>
        Token.not_binds_of_isPlain (spelled.isPlain token member)
  | label wordKind _ | jump wordKind _ =>
      simp [targetNames, Token.Binds, wordKind, Statement.targets]
  | input wordKind nameKind =>
      simp [targetNames, Token.Binds, wordKind, nameKind, Statement.targets]
  | @assign word name equals _ valueTokens wordKind nameKind equalsKind
      spelled =>
      have value : ∀ token ∈ name :: equals :: valueTokens,
          ¬ token.Binds := by
        rw [List.forall_mem_cons, List.forall_mem_cons]
        refine ⟨?_, ?_, ?_⟩
        · simp [Token.Binds, nameKind]
        · simp [Token.Binds, equalsKind]
        · intro token member
          exact Token.not_binds_of_isPlain (spelled.isPlain token member)
      rw [targetNames, if_pos ⟨Or.inl wordKind, nameKind⟩,
        targetNames_eq_nil value]
      rfl

/-- The names behind `LET` and `INPUT` are the variables that the statements
give values. -/
theorem Program.SpelledBy.targetNames_eq {program : Program}
    (spelled : program.SpelledBy tokens) :
    targetNames tokens = Statement.targetsAll program := by
  induction spelled with
  | nil =>
      rfl
  | simple spelled ends _ inductionHypothesis =>
      rw [targetNames_append_ends ends, spelled.targetNames_eq,
        inductionHypothesis]
      rfl
  | @block kind _ _ _ opener divider closer test lineEnd body closeEnd rest
      openerKind testSpelled dividerKind ends _ closerKind closes _
      bodyHypothesis restHypothesis =>
      have head : ∀ token ∈ opener :: (test ++ [divider]),
          ¬ token.Binds := by
        rw [List.forall_mem_cons, List.forall_mem_append,
          List.forall_mem_singleton, Token.Binds, Token.Binds, openerKind,
          dividerKind]
        refine ⟨by cases kind <;> decide, ?_, by cases kind <;> decide⟩
        intro token member
        exact Token.not_binds_of_isPlain (testSpelled.isPlain token member)
      have inner : targetNames (body ++ [closer]) = targetNames body := by
        rw [targetNames_append (by simp [closerKind])]
        exact List.append_nil _
      have lines : opener :: (test ++ divider ::
            (lineEnd ++ (body ++ closer :: (closeEnd ++ rest)))) =
          (opener :: (test ++ [divider])) ++
            (lineEnd ++ ((body ++ [closer]) ++ (closeEnd ++ rest))) := by
        simp
      rw [lines, targetNames_append_ends ends, targetNames_append_ends closes,
        targetNames_eq_nil head, inner, bodyHypothesis, restHypothesis]
      rfl

theorem Program.WrittenAs.targetNames_eq {program : Program}
    (written : program.WrittenAs tokens) :
    targetNames tokens = Statement.targetsAll program := by
  obtain ⟨blank, body, last, rfl, isBlank, spelled, kind⟩ := written
  rw [targetNames_append_of_not isBlank.not_binds,
    targetNames_append (by simp [kind]), spelled.targetNames_eq]
  exact List.append_nil _

end Targets

/-! ## The count in the log -/

namespace Traced

variable {Failure Result Next : Type}

/-- No event says that the translation is finished. -/
def Unfinished (traced : Traced Failure Result) : Prop :=
  traced.finalCounts = []

theorem unfinished_enterAll (rules : List Rule) :
    (enterAll rules : Traced Failure Unit).Unfinished := by
  simp [Unfinished, finalCounts, enterAll, Event.finalCount?]

/-- Up to a result, both parts tell their numbers. -/
theorem finalCounts_andThen {traced : Traced Failure Result} {result : Result}
    (reached : traced.result = .ok result)
    (next : Result → Traced Failure Next) :
    (traced.andThen next).finalCounts =
      traced.finalCounts ++ (next result).finalCounts := by
  simp [andThen, reached, finalCounts]

theorem Unfinished.andThen {traced : Traced Failure Result}
    {next : Result → Traced Failure Next}
    (before : traced.Unfinished)
    (after : ∀ result, (next result).Unfinished) :
    (traced.andThen next).Unfinished := by
  cases reached : traced.result with
  | error failure =>
      simpa [Unfinished, finalCounts, Traced.andThen, reached] using before
  | ok result =>
      rw [Unfinished, finalCounts_andThen reached, before, after result]
      rfl

theorem Unfinished.bind {traced : Traced Failure Result}
    {next : Result → Traced Failure Next}
    (before : traced.Unfinished)
    (after : ∀ result, (next result).Unfinished) :
    (traced >>= next).Unfinished :=
  before.andThen after

end Traced

namespace Reading

variable (reading : Reading) (token next : Token)

theorem unfinished_require (kind : Kind) :
    (require kind token).Unfinished := by
  unfold require
  split <;> rfl

theorem unfinished_endLine : (reading.endLine token).Unfinished :=
  Traced.Unfinished.bind rfl fun _ =>
    (unfinished_require token _).bind fun _ => rfl

theorem unfinished_bindVariable (name : String) :
    (reading.bindVariable name).Unfinished := by
  unfold bindVariable
  split
  · rfl
  · exact Traced.Unfinished.bind rfl fun _ => rfl

theorem unfinished_finishNamed (use : NameUse) (name : Token) :
    (reading.finishNamed use name token).Unfinished := by
  cases use with
  | label =>
      apply Traced.Unfinished.bind
      · exact Traced.Unfinished.bind rfl fun _ =>
          Traced.Unfinished.bind rfl fun _ => rfl
      · intro declared
        exact unfinished_endLine _ token
  | jump =>
      exact unfinished_endLine _ token
  | input =>
      exact (reading.unfinished_bindVariable _).bind fun _ =>
        unfinished_endLine _ token

theorem unfinished_readOperand (goal : Goal) (prior : Prior)
    (sign : Option AddOp) :
    (reading.readOperand goal prior sign token).Unfinished := by
  have operand : (reading.operandOf token).Unfinished := by
    unfold operandOf
    split
    · rfl
    · split <;> rfl
    · rfl
  exact Traced.Unfinished.bind rfl fun _ => operand.bind fun _ => rfl

theorem unfinished_readFactor (goal : Goal) (prior : Prior) :
    (reading.readFactor goal prior token).Unfinished := by
  apply (Traced.unfinished_enterAll _).bind
  intro _
  split
  · rfl
  · exact reading.unfinished_readOperand token goal prior none

theorem unfinished_finishExpr (goal : Goal) (value : Expr) :
    (reading.finishExpr goal value token).Unfinished := by
  cases goal with
  | print =>
      exact unfinished_endLine _ token
  | assign name =>
      exact (reading.unfinished_bindVariable name).bind fun _ =>
        unfinished_endLine _ token
  | test block earlier =>
      dsimp only [finishExpr]
      split
      · rfl
      · rfl
      · exact (unfinished_require token _).bind fun _ => rfl

theorem unfinished_readStart : (reading.readStart token next).Unfinished := by
  have keyword : ∀ word, (reading.readKeyword word token next).Unfinished := by
    intro word
    unfold readKeyword
    split
    · exact Traced.Unfinished.bind rfl fun _ => rfl
    · rfl
  unfold readStart
  split
  · rfl
  · rfl
  · rfl
  · exact keyword _
  · split
    · rfl
    · exact keyword _
  · rfl

/-- No step says that the translation is finished. -/
theorem unfinished_step : (reading.step token next).Unfinished := by
  unfold step
  cases reading.phase with
  | start =>
      exact reading.unfinished_readStart token next
  | print =>
      dsimp only
      split
      · rfl
      · exact reading.unfinished_readFactor token _ _
  | name _ | target | equals _ =>
      exact (unfinished_require token _).bind fun _ => rfl
  | named use name =>
      exact reading.unfinished_finishNamed token use name
  | factor goal prior =>
      exact reading.unfinished_readFactor token goal prior
  | signed goal prior sign =>
      exact reading.unfinished_readOperand token goal prior _
  | operator goal sum term =>
      dsimp only
      unfold readOperator
      split
      · rfl
      · rfl
      · exact reading.unfinished_finishExpr token goal _
  | opened _ _ | complete _ =>
      exact unfinished_endLine _ token

/-- Nor does reading any number of tokens. -/
theorem unfinished_readAll (tokens : List Token) :
    (reading.readAll tokens).Unfinished := by
  fun_induction readAll reading tokens with
  | case1 reading current next rest inductionHypothesis =>
      exact (reading.unfinished_step current next).andThen inductionHypothesis
  | case2 reading last =>
      exact reading.unfinished_step last last
  | case3 reading =>
      rfl

end Reading

/-- What is noted about a list of tokens that is compiled. -/
theorem events_compileTokens {tokens : List Token} {final : Reading}
    (read : (Reading.empty.readAll tokens).result = .ok final)
    (checked : final.labels.check = .ok ())
    (width : Nat) :
    (compileTokens tokens width).events =
      .entered .program :: ((Reading.empty.readAll tokens).events ++
        [.finished final.bound.count,
          .generated (final.write (.empty width)).text.utf8ByteSize]) := by
  simp [compileTokens, bind, pure, Traced.andThen, Traced.enter, Traced.note,
    Traced.ofExcept, Traced.done, read, checked]

/-- A list of tokens that is compiled has its count told at the end. -/
theorem finalCounts_compileTokens {tokens : List Token} {final : Reading}
    (read : (Reading.empty.readAll tokens).result = .ok final)
    (checked : final.labels.check = .ok ())
    (width : Nat) :
    (compileTokens tokens width).finalCounts = [final.bound.count] := by
  have before : (Reading.empty.readAll tokens).events.filterMap
      Event.finalCount? = [] :=
    Reading.empty.unfinished_readAll tokens
  rw [Traced.finalCounts, events_compileTokens read checked]
  simp [Event.finalCount?, List.filterMap_cons, before]

/-! ## Headers of accepted sources -/

/-- The line that declares a variable. -/
def declarationText (width : Nat) (name : String) : String :=
  String.ofList (List.replicate width ' ') ++ "float " ++ name ++ ";\n"

theorem renderAll_headerLines (width : Nat) (names : List String) :
    CLine.renderAll width (headerLines names) =
      "#include <stdio.h>\nint main(void) \x7b\n" ++
        String.join (names.map (declarationText width)) := by
  have opening : CLine.renderAll width
      [⟨0, "#include <stdio.h>"⟩, ⟨0, "int main(void) \x7b"⟩] =
        "#include <stdio.h>\nint main(void) \x7b\n" := by
    simp only [CLine.renderAll, List.map_cons, List.map_nil, CLine.render,
      Nat.zero_mul]
    rfl
  have line : ∀ name, CLine.render width ⟨1, "float " ++ name ++ ";"⟩ =
      declarationText width name := by
    intro name
    simp [CLine.render, declarationText, String.append_assoc]
  rw [headerLines, CLine.renderAll_append, opening, CLine.renderAll,
    List.map_map]
  congr 3
  funext name
  exact line name

/-- An accepted source is read to its end, and the jumps pass their check. -/
theorem exists_read_of_compile
    {source : List Char} {width : Nat} {text : String}
    (accepted : (compile source width).result = .ok text) :
    ∃ body last final,
      tokenize source = .ok (body ++ [last]) ∧
        (Reading.empty.readAll (body ++ [last])).result = .ok final ∧
        Reading.Finished body last final ∧
        final.labels.check = .ok () := by
  obtain ⟨body, last, _, tokenized, found, resolved, _⟩ :=
    exists_finished_of_compile accepted
  rcases Reading.readAll_cases (inside_of_tokenize tokenized) found.kind with
    ⟨final, read, finished⟩ | ⟨_, _, _, _, _, first, _⟩
  · rcases finished.check_cases with ⟨checked, _⟩ | ⟨unresolved, _⟩
    · exact ⟨body, last, final, tokenized, read, finished, checked⟩
    · exact absurd resolved unresolved
  · exact absurd found.correct first.not_correct

/-- The header of an accepted source is the start of the function and one line
for each variable behind a `LET` or `INPUT` of the source, in the order in which
these first occur.  The log tells the number of these lines, once. -/
theorem compile_declares
    {source : List Char} {width : Nat} {text : String}
    (accepted : (compile source width).result = .ok text) :
    ∃ tokens page names,
      tokenize source = .ok tokens ∧
        (compileOnto source (.empty width)).result = .ok page ∧
        text = page.header ++ page.body ∧
        FirstOccurrences names (targetNames tokens) ∧
        page.header = "#include <stdio.h>\nint main(void) \x7b\n" ++
          String.join (names.map (declarationText width)) ∧
        (compile source width).finalCounts = [names.length] ∧
        (compile source width).records.filter Record.tellsCount =
          [.finished names.length] := by
  obtain ⟨body, last, final, tokenized, read, finished, checked⟩ :=
    exists_read_of_compile accepted
  have yields := yields_of_tokenize tokenized
  have filled : (compileOnto source (.empty width)).result =
      .ok (final.write (.empty width)) := by
    rw [compileOnto_of_yields yields, read]
    simp only [checked]
  have whole : text = (final.write (.empty width)).text := by
    rw [compile_of_compileOnto filled] at accepted
    exact (Except.ok.inj accepted).symm
  have named :
      final.bound.names = (targetNames (body ++ [last])).eraseDups := by
    rw [finished.names_eq_variables, finished.writtenAs.targetNames_eq]
    rfl
  have told : (compile source width).finalCounts =
      [final.bound.names.length] := by
    rw [compile_of_yields yields]
    exact finalCounts_compileTokens read checked width
  refine ⟨body ++ [last], _, final.bound.names, tokenized, filled, whole, ?_,
    ?_, told, ?_⟩
  · rw [named]
    exact firstOccurrences_eraseDups _
  · rw [(final.holds_write_empty width).header, renderAll_headerLines]
  · rw [Traced.filter_tellsCount, told]
    rfl

/-- A source that gives values to two variables in a block and outside it. -/
def rebinding : List Char :=
  ("INPUT b\nIF b > 0 THEN\nLET a = b\nINPUT b\nENDIF\n" ++
    "LET c = a\nLET a = 1\n").toList

theorem compile_declares_rebinding :
    ∃ text,
      (compile rebinding 2).result = .ok text ∧
        ∃ tokens page names,
          tokenize rebinding = .ok tokens ∧
            (compileOnto rebinding (.empty 2)).result = .ok page ∧
            text = page.header ++ page.body ∧
            targetNames tokens = ["b", "a", "b", "c", "a"] ∧
            FirstOccurrences names (targetNames tokens) ∧
            page.header = "#include <stdio.h>\nint main(void) \x7b\n" ++
              String.join (names.map (declarationText 2)) ∧
            (compile rebinding 2).finalCounts = [names.length] ∧
            (compile rebinding 2).records.filter Record.tellsCount =
              [⟨"DEBUG", "teenyc::parser::parser",
                "translation finished with 3 variables"⟩] := by
  have accepted : (compile rebinding 2).result =
      .ok ("#include <stdio.h>\nint main(void) \x7b\n" ++
        "  float b;\n  float a;\n  float c;\n" ++
        "  if (0 == scanf(\"%f\", &b)) \x7b\n    b = 0;\n" ++
        "    scanf(\"%*s\");\n  \x7d\n  if (b > 0) \x7b\n    a = b;\n" ++
        "    if (0 == scanf(\"%f\", &b)) \x7b\n      b = 0;\n" ++
        "      scanf(\"%*s\");\n    \x7d\n  \x7d\n" ++
        "  c = a;\n  a = 1;\n  return 0;\n\x7d\n") := by
    decide +kernel
  have targets : (tokenize rebinding).map targetNames =
      .ok ["b", "a", "b", "c", "a"] := by
    decide +kernel
  have counted : (compile rebinding 2).finalCounts = [3] := by
    decide +kernel
  obtain ⟨tokens, page, names, tokenized, filled, whole, first, header, told,
    recorded⟩ := compile_declares accepted
  rw [tokenized] at targets
  have three : names.length = 3 := by
    rw [told] at counted
    exact List.head_eq_of_cons_eq counted
  rw [three] at recorded
  exact ⟨_, accepted, tokens, page, names, tokenized, filled, whole,
    Except.ok.inj targets, first, header, told, recorded⟩

end TeenyTiny
