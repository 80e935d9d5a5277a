import TeenyTiny.Command.Run
import TeenyTiny.Proofs.Replacement

/-!
# Checking and compiling agree

Whether a source is accepted, and with which fault it is refused, does not
depend on the settings.  So the command that only checks a source and the one
that stores its program come to the same verdict and show the same report.  What
is left to fail behind a good verdict is the file (`check_agrees_compile`).
-/

namespace TeenyTiny

/-! ## One verdict for all pages -/

/-- A source is refused with one fault, after the same events, or it is
accepted, for all pages and widths. -/
theorem verdict_cases (source : List Char) :
    (∃ events fault,
      (∀ page, compileOnto source page = ⟨events, .error fault⟩) ∧
        ∀ width, compile source width = ⟨events, .error fault⟩) ∨
      ∀ width, ∃ page,
        (compileOnto source (.empty width)).result = .ok page ∧
          (compile source width).result = .ok page.text := by
  obtain ⟨read, reads⟩ := exists_read_of_source source
  cases outcome : read.result with
  | error fault =>
      left
      have refused : ∀ page,
          compileOnto source page = ⟨read.events, .error fault⟩ := by
        intro page
        rw [reads, Traced.andThen, outcome]
      refine ⟨read.events, fault, refused, fun width => ?_⟩
      rw [compile, refused]
      rfl
  | ok reading =>
      right
      intro width
      have filled : (compileOnto source (.empty width)).result =
          .ok (reading.write (.empty width)) := by
        rw [reads, Traced.andThen, outcome]
        rfl
      exact ⟨_, filled, compile_of_compileOnto filled⟩

/-! ## Runs of commands -/

/-- The log lines of a run, behind what is wrong with the text of the filter. -/
def logLines (environment : Environment) (verbosity : Nat) (time : String)
    (events : List Event) : String :=
  let filter : LogFilter := ⟨.ofVerbosity verbosity, [], none⟩
  let read := filter.read (environment.log.getD "")
  String.join (read.2.map (·.line)) ++ logText read.1 time events

section Commands

variable {tree after : FileTree} {file text : String}
  {environment : Environment} {arguments : List String} {verbosity : Nat}
  {host : Host}

/-- On a source file that can be read, a command does its action and writes the
log in front of the errors. -/
theorem runCommand_of_perform {action : Action} {events : List Event}
    {outcome : Outcome}
    (time : String)
    (source : tree.readText file = .ok text)
    (asks : Request.ofArguments? arguments =
      some (.run verbosity action file))
    (performs : (action.perform (FileTree.storeOn host) environment text.toList
      file).run tree = ((events, outcome), after)) :
    (runCommand (FileTree.storeOn host) environment time arguments).run tree =
      (outcome.logged (logLines environment verbosity time events), after) := by
  have read : ((FileTree.storeOn host).read file).run tree =
      (.ok text, tree) := by
    rw [← source]
    rfl
  have performed : (performOnFile action (FileTree.storeOn host) environment
      file).run tree = ((events, outcome), after) := by
    rw [performOnFile, StateT.run_bind, read]
    exact performs
  rw [runCommand, asks]
  dsimp only [Request.perform]
  rw [StateT.run_bind, performed]
  rfl

theorem perform_check (host : Host) (tree : FileTree)
    (environment : Environment) (source : List Char) (file : String) :
    (Action.check.perform (FileTree.storeOn host) environment source file).run
        tree =
      (checkSource environment source file, tree) :=
  rfl

/-- The settings of the command that compiles. -/
def Settings.requested (environment : Environment) (output : Option String)
    (indentWidth : Option Nat) : Settings :=
  (Settings.ofEnvironment environment).override output indentWidth

variable {source : List Char} {output : Option String}
  {indentWidth : Option Nat} {events : List Event}

theorem perform_of_failure {failure : Failure}
    (failed : (compileToStore (FileTree.storeOn host) source
        (.requested environment output indentWidth)).run tree =
      (⟨events, .error failure⟩, after)) :
    ((Action.compile output indentWidth).perform (FileTree.storeOn host)
        environment source file).run tree =
      ((.compiling file :: events,
        .failure failure.diagnostic source file ""), after) := by
  rw [Settings.requested] at failed
  dsimp only [Action.perform, compileSource]
  rw [StateT.run_bind, failed]
  rfl

theorem perform_of_stored {stored : StoredPage}
    (done : (compileToStore (FileTree.storeOn host) source
        (.requested environment output indentWidth)).run tree =
      (⟨events, .ok stored⟩, after)) :
    ((Action.compile output indentWidth).perform (FileTree.storeOn host)
        environment source file).run tree =
      ((.compiling file :: events,
        .success ("Compiling completed: " ++ stored.path ++ " (" ++
          toString stored.page.text.utf8ByteSize ++ " bytes)\n")), after) := by
  rw [Settings.requested] at done
  dsimp only [Action.perform, compileSource]
  rw [StateT.run_bind, done]
  rfl

/-- A file that fails is told in one line. -/
theorem failure_of_file (failure : FileFailure) (source : List Char)
    (file : String) :
    Outcome.failure (Failure.file failure).diagnostic source file "" =
      ⟨1, "", file ++ ": IO error: " ++ failure.message ++ "\n"⟩ := by
  have title : ": IO error: " = ": " ++ "IO error: " := rfl
  simp only [Outcome.failure, Failure.diagnostic, Diagnostic.report,
    Diagnostic.text, title, String.append_assoc]

/-- The command that compiles tells of a refused source in a report. -/
theorem perform_of_refused {fault : Fault}
    (refused : ∀ page, compileOnto source page = ⟨events, .error fault⟩)
    (host : Host) (tree : FileTree) (environment : Environment)
    (output : Option String) (indentWidth : Option Nat) (file : String) :
    ((Action.compile output indentWidth).perform (FileTree.storeOn host)
        environment source file).run tree =
      ((.compiling file :: events,
        ⟨1, "", fault.diagnostic.report true source file⟩), tree) := by
  have failed : (compileToStore (FileTree.storeOn host) source
        (.requested environment output indentWidth)).run tree =
      (⟨events, .error (.fault fault)⟩, tree) := by
    rw [compileToStore, refused]
    rfl
  exact perform_of_failure failed

theorem checkSource_of_refused {fault : Fault}
    (refused : ∀ width, compile source width = ⟨events, .error fault⟩)
    (environment : Environment) (file : String) :
    checkSource environment source file =
      (events, ⟨1, "", fault.diagnostic.report true source file⟩) := by
  rw [checkSource, refused]
  rfl

theorem checkSource_of_accepted {translated : String}
    (done : (compile source
      (Settings.ofEnvironment environment).indentWidth).result =
        .ok translated)
    (file : String) :
    ∃ events, checkSource environment source file =
      (events, .success ("OK: " ++ file ++ "\n")) := by
  refine ⟨(compile source
    (Settings.ofEnvironment environment).indentWidth).events, ?_⟩
  rw [checkSource, done]

end Commands

/-- Let a source file be readable, and run the command that checks it and the
one that compiles it, in one environment.  The check succeeds if and only if the
source is accepted.  A refused source makes both fail with one report, after the
log lines of the same events, and the tree stays.  An accepted one is stored, or
the first step that fails on the way to the file is the failure, and the tree
stays; the check never changes it. -/
theorem check_agrees_compile
    {tree : FileTree} {file text : String}
    {checkArguments arguments : List String}
    {checkVerbosity verbosity : Nat}
    {output : Option String} {indentWidth : Option Nat}
    (host : Host) (environment : Environment) (checkTime time : String)
    (readable : tree.readText file = .ok text)
    (checks : Request.ofArguments? checkArguments =
      some (.run checkVerbosity .check file))
    (compiles : Request.ofArguments? arguments =
      some (.run verbosity (.compile output indentWidth) file)) :
    let settings := Settings.requested environment output indentWidth
    ∃ checked compiled after,
      (runCommand (FileTree.storeOn host) environment checkTime
            checkArguments).run tree = (checked, tree) ∧
        (runCommand (FileTree.storeOn host) environment time
            arguments).run tree = (compiled, after) ∧
        (checked.exitCode = 0 ↔ ∃ translated,
          (compile text.toList settings.indentWidth).result =
            .ok translated) ∧
        (∀ fault,
          (compile text.toList settings.indentWidth).result = .error fault →
            ∃ events,
              checked = ⟨1, "",
                logLines environment checkVerbosity checkTime events ++
                  fault.diagnostic.report true text.toList file⟩ ∧
              compiled = ⟨1, "",
                logLines environment verbosity time
                    (.compiling file :: events) ++
                  fault.diagnostic.report true text.toList file⟩ ∧
              after = tree) ∧
        ∀ translated,
          (compile text.toList settings.indentWidth).result =
              .ok translated →
            (∀ fault,
              host.firstFault? tree ⟨settings.output⟩ StoringStep.all =
                  some fault →
                after = tree ∧ ∃ events, compiled = ⟨1, "",
                  logLines environment verbosity time events ++
                    (file ++ ": IO error: " ++ fault.message ++ "\n")⟩) ∧
            (host.firstFault? tree ⟨settings.output⟩ StoringStep.all = none →
              compiled.exitCode = 0 ∧ ∃ location mode,
                tree.Replaces after ⟨settings.output⟩ location mode
                  translated.toUTF8) := by
  intro settings
  rcases verdict_cases text.toList with
    ⟨events, fault, refused, fails⟩ | accepted
  · have result : (compile text.toList settings.indentWidth).result =
        .error fault := by
      rw [fails]
    have checkPerforms : (Action.check.perform (FileTree.storeOn host)
        environment text.toList file).run tree =
          ((events, ⟨1, "", fault.diagnostic.report true text.toList file⟩),
            tree) := by
      rw [perform_check, checkSource_of_refused fails]
    refine ⟨_, _, tree,
      runCommand_of_perform checkTime readable checks checkPerforms,
      runCommand_of_perform time readable compiles
        (perform_of_refused refused host tree environment output indentWidth
          file), ?_, ?_, ?_⟩
    · refine iff_of_false (Nat.one_ne_zero) ?_
      rintro ⟨translated, done⟩
      rw [result] at done
      cases done
    · intro other failed
      rw [result] at failed
      cases failed
      exact ⟨events, rfl, rfl, rfl⟩
    · intro translated done
      rw [result] at done
      cases done
  · obtain ⟨page, filled, result⟩ := accepted settings.indentWidth
    obtain ⟨_, _, checkResult⟩ :=
      accepted (Settings.ofEnvironment environment).indentWidth
    obtain ⟨checkEvents, checked⟩ := checkSource_of_accepted checkResult file
    have checkPerforms : (Action.check.perform (FileTree.storeOn host)
        environment text.toList file).run tree =
          ((checkEvents, .success ("OK: " ++ file ++ "\n")), tree) := by
      rw [perform_check, checked]
    have checkRuns :=
      runCommand_of_perform checkTime readable checks checkPerforms
    have never : ∀ fault,
        (compile text.toList settings.indentWidth).result ≠ .error fault := by
      simp [result]
    rcases tree.replaceFile_cases host ⟨settings.output⟩ page.text.toUTF8 with
      ⟨first, stops, replaced⟩ | ⟨target, passes, found, replaced⟩
    · obtain ⟨events, failed⟩ := compileToStore_of_replaceFile filled replaced
      refine ⟨_, _, tree, checkRuns,
        runCommand_of_perform time readable compiles
          (perform_of_failure failed),
        iff_of_true rfl ⟨_, result⟩,
        fun fault refused => absurd refused (never fault),
        fun translated done => ⟨?_, ?_⟩⟩
      · intro fault fails
        rw [stops] at fails
        cases fails
        rw [failure_of_file]
        exact ⟨rfl, _, rfl⟩
      · intro succeeds
        rw [stops] at succeeds
        cases succeeds
    · obtain ⟨events, stored⟩ := compileToStore_of_replaceFile filled replaced
      refine ⟨_, _, _, checkRuns, runCommand_of_perform time readable compiles
        (perform_of_stored stored), iff_of_true rfl ⟨_, result⟩,
        fun fault refused => absurd refused (never fault),
        fun translated done => ⟨?_, ?_⟩⟩
      · intro fault fails
        rw [passes] at fails
        cases fails
      · intro _
        rw [result] at done
        cases done
        exact ⟨rfl, target, _,
          FileTree.replaces_insert found page.text.toUTF8⟩

/-- A directory with a source that is accepted and one that is not. -/
def sourceTree : FileTree :=
  ⟨["tmp"],
    [(["tmp", "good.teeny"], .file 0o644 "PRINT 1\n".toUTF8),
      (["tmp", "bad.teeny"], .file 0o644 "PRINT x\n".toUTF8)]⟩

theorem check_agrees_compile_samples :
    (∃ checked compiled after location mode,
      (runCommand (FileTree.storeOn .obliging) ⟨none, some "3", none⟩ ""
          ["check", "good.teeny"]).run sourceTree = (checked, sourceTree) ∧
        (runCommand (FileTree.storeOn .obliging) ⟨none, some "3", none⟩ ""
            ["compile", "good.teeny", "-o", "a.c"]).run sourceTree =
          (compiled, after) ∧
        checked.exitCode = 0 ∧ compiled.exitCode = 0 ∧
        sourceTree.Replaces after ⟨"a.c"⟩ location mode
          ("#include <stdio.h>\nint main(void) \x7b\n" ++
            "   printf(\"%.2f\\n\", (float)(1));\n   return 0;\n" ++
            "\x7d\n").toUTF8) ∧
      ∃ checked compiled,
        (runCommand (FileTree.storeOn .obliging) ⟨none, some "3", none⟩ ""
            ["check", "bad.teeny"]).run sourceTree = (checked, sourceTree) ∧
          (runCommand (FileTree.storeOn .obliging) ⟨none, some "3", none⟩ ""
              ["compile", "bad.teeny", "--indent=8"]).run sourceTree =
            (compiled, sourceTree) ∧
          checked.exitCode = 1 ∧ compiled.exitCode = 1 := by
  have accepted : (compile "PRINT 1\n".toList 3).result =
      .ok ("#include <stdio.h>\nint main(void) \x7b\n" ++
        "   printf(\"%.2f\\n\", (float)(1));\n   return 0;\n" ++
        "\x7d\n") := by
    decide +kernel
  have refused : (compile "PRINT x\n".toList 8).result =
      .error (.name (.unbound "x") ⟨6, 7⟩) := by
    decide +kernel
  have passes : Host.obliging.firstFault? sourceTree ⟨"a.c"⟩
      StoringStep.all = none := by
    decide +kernel
  constructor
  · obtain ⟨checked, compiled, after, checkRuns, runs, verdict, _, ends⟩ :=
      check_agrees_compile .obliging ⟨none, some "3", none⟩ "" ""
        (by decide +kernel :
          sourceTree.readText "good.teeny" = .ok "PRINT 1\n")
        (by decide +kernel : Request.ofArguments? ["check", "good.teeny"] =
          some (.run 0 .check "good.teeny"))
        (by decide +kernel :
          Request.ofArguments? ["compile", "good.teeny", "-o", "a.c"] =
            some (.run 0 (.compile (some "a.c") none) "good.teeny"))
    obtain ⟨done, location, mode, replaces⟩ := (ends _ accepted).2 passes
    exact ⟨checked, compiled, after, location, mode, checkRuns, runs,
      verdict.mpr ⟨_, accepted⟩, done, replaces⟩
  · obtain ⟨checked, compiled, after, checkRuns, runs, _, fails, _⟩ :=
      check_agrees_compile .obliging ⟨none, some "3", none⟩ "" ""
        (by decide +kernel :
          sourceTree.readText "bad.teeny" = .ok "PRINT x\n")
        (by decide +kernel : Request.ofArguments? ["check", "bad.teeny"] =
          some (.run 0 .check "bad.teeny"))
        (by decide +kernel :
          Request.ofArguments? ["compile", "bad.teeny", "--indent=8"] =
            some (.run 0 (.compile none (some 8)) "bad.teeny"))
    obtain ⟨_, rfl, rfl, rfl⟩ := fails _ refused
    exact ⟨_, _, checkRuns, runs, rfl, rfl⟩

end TeenyTiny
