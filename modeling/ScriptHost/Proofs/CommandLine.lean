import ScriptHost.CommandLine
import ScriptHost.Proofs.Session.Library
import ScriptHost.Proofs.Session.Notes
import ScriptHost.Proofs.Session.Registries

/-!
What a command prints.

A command prints the lines that its script prints, also if the script fails. If a function of the
script is called then, the lines that the function prints come next and its result comes last, but
only if the call succeeds: what a function prints before it fails is not shown.
-/

set_option autoImplicit false

namespace ScriptHost

open Session

namespace Invocation

variable (invocation : Invocation) (file : SourceFile)

def configuration : Script.Configuration :=
  ⟨Script.Configuration.standard.limits, Script.Configuration.standard.strict, invocation.seed?⟩

def fresh : Session := create invocation.configuration

def begun : Session := invocation.fresh.after [.start, .install Extension.math]

def between : Session := invocation.begun.after [.runFile file, .takeOutput]

def scriptEnd : Except Fault Reply := (invocation.begun.perform (.runFile file)).1

def scriptLines : List String := (invocation.begun.printed (.runFile file)).toList

def callOf (name : String) (words : List String) : Operation :=
  .call name (words.map HostValue.ofWord)

def callEnd (name : String) (words : List String) : Except Fault Reply × Session :=
  (invocation.between file).perform (callOf name words)

def callLines (name : String) (words : List String) : List String :=
  ((invocation.between file).printed (callOf name words)).toList

def resultLine (name : String) (words : List String) (value : HostValue) : String :=
  render ((invocation.callEnd file name words).2.perform .takeOutput).2 value

def resultLines (name : String) (words : List String) : List String :=
  match (invocation.callEnd file name words).1 with
  | .ok (.value value) => [invocation.resultLine file name words value]
  | _ => []

/-- The lines of the script, and those of the call and its result, if there is a call. -/
def allLines : List String :=
  match invocation.scriptEnd file, invocation.call? with
  | .ok _, some (name, words) =>
      invocation.scriptLines file ++ invocation.callLines file name words ++
        invocation.resultLines file name words
  | _, _ => invocation.scriptLines file

def ScriptSucceeds : Prop := ∃ reply, invocation.scriptEnd file = .ok reply

def CallSucceeds : Prop :=
  ∀ name words, invocation.call? = some (name, words) →
    ∃ reply, (invocation.callEnd file name words).1 = .ok reply

theorem titles_math : (Extension.math.flatMap Registration.titles).Nodup := by decide +kernel

theorem wellPlaced_math : ∀ registration ∈ Extension.math, registration.WellPlaced := by
  decide +kernel

theorem start_fresh :
    start invocation.fresh = .ok () { invocation.fresh with phase := .ready } := rfl

theorem install_fresh : ∃ types functions, install Extension.math
    { invocation.fresh with phase := .ready } =
      .ok () { invocation.fresh with phase := .ready, types := types, functions := functions } := by
  have recorded : Recorded [] { invocation.fresh with phase := .ready } :=
    (recorded_create invocation.configuration).congr ⟨rfl, rfl⟩
  exact recorded.forM_free rfl wellPlaced_math titles_math

theorem begun_eq : ∃ types functions,
    invocation.begun =
        { invocation.fresh with phase := .ready, types := types, functions := functions } ∧
      install Extension.math { invocation.fresh with phase := .ready } =
        .ok () invocation.begun := by
  obtain ⟨types, functions, installed⟩ := invocation.install_fresh
  have same : invocation.begun =
      { invocation.fresh with phase := .ready, types := types, functions := functions } := by
    have started : (invocation.fresh.perform .start).2 =
        { invocation.fresh with phase := .ready } := rfl
    change ((invocation.fresh.perform .start).2.perform (.install Extension.math)).2 = _
    rw [started, perform_done_ok rfl installed]
  exact ⟨types, functions, same, same ▸ installed⟩

theorem silent_begun : invocation.begun.machine.output = #[] := by
  obtain ⟨_, _, same, _⟩ := invocation.begun_eq
  rw [same]
  rfl

variable {file} {later : Session} {fault : Fault}

theorem tryCatch_apply {α : Type} (work : Action α) (handle : Fault → Action α)
    (session : Session) :
    tryCatch work handle session =
      match work session with
      | .ok result later => .ok result later
      | .error fault later => handle fault later := by
  change EStateM.tryCatch work handle session = _
  unfold EStateM.tryCatch
  cases work session <;> rfl

theorem runScript_apply : runScript file invocation.fresh =
    match Session.runFile file invocation.begun with
    | .ok _ later => .ok (later.machine.output.toList, none) (later.perform .takeOutput).2
    | .error fault later =>
        .ok (later.machine.output.toList, some fault) (later.perform .takeOutput).2 := by
  obtain ⟨_, _, _, installed⟩ := invocation.begun_eq
  unfold runScript
  rw [bind_apply, tryCatch_apply, bind_apply, start_fresh]
  dsimp only
  rw [bind_apply, installed]
  dsimp only
  rw [bind_apply]
  cases Session.runFile file invocation.begun <;> rfl

/-- If the call fails, the lines that it has printed stay where they are. -/
theorem callFunction_apply (name : String) (words : List String) (session : Session) :
    callFunction name words session =
      match Session.call name (words.map HostValue.ofWord) session with
      | .ok value later =>
          .ok (later.machine.output.toList ++ [render (later.perform .takeOutput).2 value], none)
            (later.perform .takeOutput).2
      | .error fault later => .ok ([], some fault) later := by
  unfold callFunction
  rw [bind_apply, tryCatch_apply, bind_apply]
  cases Session.call name (words.map HostValue.ofWord) session <;> rfl

theorem script_succeeds (ended : Session.runFile file invocation.begun = .ok () later) :
    invocation.scriptEnd file = .ok .done ∧
      invocation.between file = (later.perform .takeOutput).2 ∧
      invocation.scriptLines file = later.machine.output.toList := by
  have performed : invocation.begun.perform (.runFile file) = (.ok .done, later) :=
    perform_done_ok rfl ended
  refine ⟨congrArg Prod.fst performed, ?_, ?_⟩
  · exact congrArg (fun performed : Except Fault Reply × Session =>
      (performed.2.perform .takeOutput).2) performed
  · unfold scriptLines
    rw [printed_of_silent invocation.silent_begun, performed]

theorem script_fails (failed : Session.runFile file invocation.begun = .error fault later) :
    invocation.scriptEnd file = .error fault ∧
      invocation.scriptLines file = later.machine.output.toList := by
  have performed : invocation.begun.perform (.runFile file) = (.error fault, later) :=
    perform_done_error rfl failed
  refine ⟨congrArg Prod.fst performed, ?_⟩
  unfold scriptLines
  rw [printed_of_silent invocation.silent_begun, performed]

theorem silent_between : (invocation.between file).machine.output = #[] := rfl

variable {name : String} {words : List String} {value : HostValue}

theorem call_succeeds (called : Session.call name (words.map HostValue.ofWord)
    (invocation.between file) = .ok value later) :
    (invocation.callEnd file name words).1 = .ok (.value value) ∧
      invocation.callLines file name words = later.machine.output.toList ∧
      invocation.resultLine file name words value =
        render (later.perform .takeOutput).2 value := by
  have performed : invocation.callEnd file name words = (.ok (.value value), later) := by
    have mapped : Operation.perform (callOf name words) (invocation.between file) =
        .ok (.value value) later := by
      change EStateM.map _ _ _ = _
      unfold EStateM.map
      rw [called]
    unfold callEnd perform
    rw [mapped]
  refine ⟨congrArg Prod.fst performed, ?_, ?_⟩
  · unfold callLines
    rw [printed_of_silent invocation.silent_between]
    exact congrArg (fun performed : Except Fault Reply × Session =>
      performed.2.machine.output.toList) performed
  · unfold resultLine
    rw [performed]

theorem call_fails (failed : Session.call name (words.map HostValue.ofWord)
    (invocation.between file) = .error fault later) :
    (invocation.callEnd file name words).1 = .error fault := by
  have mapped : Operation.perform (callOf name words) (invocation.between file) =
      .error fault later := map_error failed
  unfold callEnd perform
  rw [mapped]

/-- What a command reports, by how the script and the call end. -/
structure Reports (invocation : Invocation) (file : SourceFile) (report : Report) : Prop where
  failed : ∀ fault, invocation.scriptEnd file = .error fault →
    report = ⟨invocation.scriptLines file, some fault⟩
  uncalled : invocation.ScriptSucceeds file → invocation.call? = none →
    report = ⟨invocation.scriptLines file, none⟩
  called : invocation.ScriptSucceeds file → ∀ name words, invocation.call? = some (name, words) →
    (∃ fault, (invocation.callEnd file name words).1 = .error fault ∧
        report = ⟨invocation.scriptLines file, some fault⟩) ∨
      ∃ value, (invocation.callEnd file name words).1 = .ok (.value value) ∧
        report = ⟨invocation.scriptLines file ++ invocation.callLines file name words ++
          [invocation.resultLine file name words value], none⟩

theorem not_scriptSucceeds (failed : invocation.scriptEnd file = .error fault) :
    ¬ invocation.ScriptSucceeds file := by
  rintro ⟨reply, succeeded⟩
  rw [failed] at succeeded
  cases succeeded

theorem execute_apply : invocation.execute file =
    match invocation.work file invocation.fresh with
    | .ok report _ => report
    | .error fault _ => ⟨[], some fault⟩ := rfl

theorem execute_failed (failed : Session.runFile file invocation.begun = .error fault later) :
    invocation.execute file = ⟨invocation.scriptLines file, some fault⟩ := by
  rw [execute_apply, work, bind_apply, invocation.runScript_apply, failed,
    (invocation.script_fails failed).2]
  rfl

section Ended

variable (ended : Session.runFile file invocation.begun = .ok () later)

include ended

theorem execute_ended : invocation.execute file =
    match invocation.call? with
    | none => ⟨invocation.scriptLines file, none⟩
    | some (name, words) =>
        match callFunction name words (invocation.between file) with
        | .ok (more, fault?) _ => ⟨invocation.scriptLines file ++ more, fault?⟩
        | .error fault _ => ⟨[], some fault⟩ := by
  obtain ⟨-, between, lines⟩ := invocation.script_succeeds ended
  rw [execute_apply, work, bind_apply, invocation.runScript_apply, ended, between, lines]
  dsimp only
  cases invocation.call? with
  | none => rfl
  | some call =>
      obtain ⟨name, words⟩ := call
      dsimp only
      rw [bind_apply]
      cases callFunction name words (later.perform .takeOutput).2 <;> rfl

theorem execute_uncalled (uncalled : invocation.call? = none) :
    invocation.execute file = ⟨invocation.scriptLines file, none⟩ := by
  rw [invocation.execute_ended ended, uncalled]

variable (asked : invocation.call? = some (name, words)) {last : Session}

include asked

theorem execute_called (called : Session.call name (words.map HostValue.ofWord)
    (invocation.between file) = .ok value last) :
    invocation.execute file =
      ⟨invocation.scriptLines file ++ invocation.callLines file name words ++
        [invocation.resultLine file name words value], none⟩ := by
  obtain ⟨-, more, result⟩ := invocation.call_succeeds called
  rw [invocation.execute_ended ended, asked]
  dsimp only
  rw [callFunction_apply, called, more, result, List.append_assoc]

theorem execute_call_failed (failed : Session.call name (words.map HostValue.ofWord)
    (invocation.between file) = .error fault last) :
    invocation.execute file = ⟨invocation.scriptLines file, some fault⟩ := by
  rw [invocation.execute_ended ended, asked]
  dsimp only
  rw [callFunction_apply, failed]
  exact congrArg (fun lines => Report.mk lines (some fault)) (List.append_nil _)

end Ended

theorem reports_execute (file : SourceFile) :
    invocation.Reports file (invocation.execute file) := by
  cases ended : Session.runFile file invocation.begun with
  | error fault later =>
      have script := (invocation.script_fails ended).1
      have unsuccessful := invocation.not_scriptSucceeds script
      refine ⟨fun other same => ?_, fun succeeded => absurd succeeded unsuccessful,
        fun succeeded => absurd succeeded unsuccessful⟩
      rw [script] at same
      cases same
      exact invocation.execute_failed ended
  | ok done later =>
      have script := (invocation.script_succeeds ended).1
      refine ⟨fun fault failed => ?_, fun _ => invocation.execute_uncalled ended,
        fun _ name words asked => ?_⟩
      · rw [script] at failed
        cases failed
      · cases called : Session.call name (words.map HostValue.ofWord)
            (invocation.between file) with
        | error fault last =>
            exact .inl ⟨fault, invocation.call_fails called,
              invocation.execute_call_failed ended asked called⟩
        | ok value last =>
            exact .inr ⟨value, (invocation.call_succeeds called).1,
              invocation.execute_called ended asked called⟩

theorem exitCode_of_fault (lines : List String) (fault : Fault) :
    (Report.mk lines (some fault)).exitCode ≠ 0 :=
  show (1 : UInt32) ≠ 0 by decide

theorem Reports.exitCode {report : Report} (reports : invocation.Reports file report) :
    report.exitCode = 0 ↔ invocation.ScriptSucceeds file ∧ invocation.CallSucceeds file := by
  cases script : invocation.scriptEnd file with
  | error fault =>
      rw [reports.failed fault script]
      exact ⟨fun zero => absurd zero (exitCode_of_fault _ _), fun ⟨succeeded, _⟩ =>
        absurd succeeded (invocation.not_scriptSucceeds script)⟩
  | ok reply =>
      have succeeded : invocation.ScriptSucceeds file := ⟨reply, script⟩
      cases asked : invocation.call? with
      | none =>
          rw [reports.uncalled succeeded asked]
          refine ⟨fun _ => ⟨succeeded, fun name words other => ?_⟩, fun _ => rfl⟩
          rw [asked] at other
          cases other
      | some call =>
          obtain ⟨name, words⟩ := call
          obtain ⟨fault, failed, rfl⟩ | ⟨value, called, rfl⟩ :=
            reports.called succeeded name words asked
          · refine ⟨fun zero => absurd zero (exitCode_of_fault _ _), fun ⟨_, calls⟩ => ?_⟩
            obtain ⟨reply, called⟩ := calls name words asked
            rw [failed] at called
            cases called
          · refine ⟨fun _ => ⟨succeeded, fun other others same => ?_⟩, fun _ => rfl⟩
            rw [asked] at same
            cases same
            exact ⟨_, called⟩

/-- A print adds its line, no script takes a line back, and neither does an operation that is not
asked for the lines. The report of a command has the lines of the script and, if a function is
called and succeeds, the lines of the call and the result. -/
theorem commands_print (invocation : Invocation) (file : SourceFile) :
    (∀ (machine : Script.Machine) (text : String) (position : Script.Position),
        machine.top = .datum (.text text) →
          ∃ later, Script.Run.output "print" position machine = .ok () later ∧
            later.output = machine.output.push text) ∧
      (∀ (env : Script.Environment) (fuel : Nat) (frame : Script.Frame) (term : Script.Term)
        (machine : Script.Machine),
          machine.LinesStay (Script.Run.left (Script.Run.evaluate env fuel frame term machine))) ∧
      (∀ (session : Session) (operation : Operation), operation ≠ .takeOutput →
        (session.perform operation).2.machine.output =
          session.machine.output ++ session.printed operation) ∧
      invocation.Reports file (invocation.execute file) ∧
      ((invocation.execute file).exitCode = 0 ↔
        invocation.ScriptSucceeds file ∧ invocation.CallSucceeds file) := by
  have reports := invocation.reports_execute file
  refine ⟨fun machine text position top => Script.Run.output_print top position,
    fun env fuel frame term machine => ?_, fun session operation => session.output_perform,
    reports, reports.exitCode⟩
  exact (Script.Run.made_evaluate fuel frame term).linesStay machine

def counter : SourceFile :=
  .content "print(\"one\"); fn count() \x7b print(\"two\"); true \x7d".toUTF8

def counting : Invocation := ⟨"counter.rhai", some ("count", []), none⟩

theorem counting_is_heard :
    (counting.execute counter).exitCode = 0 ∧
      (∃ value, (counting.callEnd counter "count" []).1 = .ok (.value value) ∧
        counting.execute counter =
          ⟨counting.scriptLines counter ++ counting.callLines counter "count" [] ++
            [counting.resultLine counter "count" [] value], none⟩) ∧
      (counting.execute counter).lines = ["one", "two", "true"] := by
  have zero : (counting.execute counter).exitCode = 0 := by decide +kernel
  obtain ⟨_, _, _, reports, succeeds⟩ := commands_print counting counter
  refine ⟨zero, ?_, by decide +kernel⟩
  obtain ⟨fault, _, report⟩ | ended := reports.called (succeeds.mp zero).1 "count" [] rfl
  · rw [report] at zero
    exact absurd zero (exitCode_of_fault _ _)
  · exact ended

/-- A function that prints a line and fails. -/
def stutterer : SourceFile :=
  .content "fn count() \x7b print(\"one\"); throw \"two\"; \x7d".toUTF8

theorem stuttering_is_unheard :
    ¬ ∀ (invocation : Invocation) (file : SourceFile),
      (invocation.execute file).lines = invocation.allLines file := by
  intro heard
  have unheard : (counting.execute stutterer).lines ≠ counting.allLines stutterer := by
    decide +kernel
  exact unheard (heard counting stutterer)

end Invocation
end ScriptHost
