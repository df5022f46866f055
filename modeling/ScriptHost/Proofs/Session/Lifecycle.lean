import ScriptHost.Proofs.Heap.Clearing
import ScriptHost.Proofs.Session.Reachability

/-!
The life of a session.

A session is started at most once and torn down at most once. An operation that may fail does so at
any other time than between these two, for one and the same reason whatever it is given, and it
leaves the session as it is. Nothing is live in a session that has been torn down, and no script
function is left.
-/

set_option autoImplicit false

namespace ScriptHost

open Script

/-- What an operation is told that a session in this phase is not ready for. -/
def Phase.refusal : Phase → Fault
  | .uninitialized => .notInitialized
  | _ => .sessionClosed

namespace Session

variable {α β : Type} {session : Session}

def Operation.nextPhase : Operation → Phase → Phase
  | start, .uninitialized => .ready
  | teardown, _ => .tornDown
  | _, present => present

/-- All operations may fail but those that only look at the session or take its output. -/
def Operation.MayFail : Operation → Prop
  | hasFunction _ | isLive _ | takeOutput | statistics | phase => False
  | _ => True

theorem perform_done_ok {operation : Operation} {action : Action Unit} {later : Session}
    (same : operation.perform = done action) (ended : action session = .ok () later) :
    session.perform operation = (.ok .done, later) := by
  unfold perform
  rw [same, done, bind_apply, ended]
  rfl

theorem perform_done_error {operation : Operation} {action : Action Unit} {fault : Fault}
    {later : Session} (same : operation.perform = done action)
    (failed : action session = .error fault later) :
    session.perform operation = (.error fault, later) := by
  unfold perform
  rw [same, done, bind_apply, failed]

theorem start_eq (fresh : session.phase = .uninitialized) :
    start session = .ok () { session with phase := .ready } := by
  rw [start, fresh]

theorem teardown_eq (alive : session.phase ≠ .tornDown) :
    teardown session = .ok () { session with
      phase := .tornDown
      library := []
      closures := []
      machine := session.machine.shutDown } := by
  unfold teardown
  cases phase : session.phase with
  | tornDown => exact absurd phase alive
  | uninitialized => rfl
  | ready => rfl

/-- Only starting and tearing down move a session from one phase to another. -/
theorem phase_perform (session : Session) (operation : Operation) :
    (session.perform operation).2.phase = operation.nextPhase session.phase := by
  by_cases ends : operation = .teardown
  · subst ends
    exact perform_teardown session
  · by_cases starts : operation = .start
    · subst starts
      cases phase : session.phase with
      | uninitialized =>
          rw [perform_done_ok rfl (start_eq phase)]
          rfl
      | ready => exact perform_start phase nofun
      | tornDown => exact perform_start phase nofun
    · rw [perform_phase starts ends]
      cases operation with
      | start => exact absurd rfl starts
      | teardown => exact absurd rfl ends
      | _ => rfl

theorem phase_after (session : Session) (operations : List Operation) :
    (session.after operations).phase =
      operations.foldl (fun phase operation => operation.nextPhase phase) session.phase := by
  induction operations generalizing session with
  | nil => rfl
  | cons operation rest ih =>
      rw [List.foldl_cons, ← phase_perform]
      exact ih (session.perform operation).2

/-- Outside of the time between start and teardown an action fails and changes nothing. -/
def Refuses (action : Action α) : Prop :=
  ∀ session, session.phase ≠ .ready → action session = .error session.phase.refusal session

theorem refuses_whenReady (action : Action α) : Refuses (whenReady action) := by
  intro session unready
  unfold whenReady
  cases phase : session.phase with
  | ready => exact absurd phase unready
  | uninitialized => rfl
  | tornDown => rfl

theorem Refuses.bind {action : Action α} (refuses : Refuses action) (rest : α → Action β) :
    Refuses (action >>= rest) := by
  intro session unready
  rw [bind_apply, refuses session unready]

theorem Refuses.done {action : Action Unit} (refuses : Refuses action) : Refuses (done action) :=
  refuses.bind _

theorem Refuses.map {action : Action α} (refuses : Refuses action) (reply : α → Reply) :
    Refuses (reply <$> action) :=
  refuses.bind _

theorem refuses_register (registration : Registration) : Refuses (register registration) := by
  cases registration with
  | type descriptor => exact (refuses_whenReady _).bind _
  | function descriptor => exact refuses_whenReady _
  | moduleFunction space descriptor =>
      unfold register registerModuleFunction
      dsimp only
      split
      · exact refuses_whenReady _
      · exact refuses_whenReady _

theorem refuses_perform {operation : Operation} (fallible : operation.MayFail)
    (starts : operation ≠ .start) (ends : operation ≠ .teardown) : Refuses operation.perform := by
  cases operation with
  | start => exact absurd rfl starts
  | teardown => exact absurd rfl ends
  | register registration => exact (refuses_register registration).done
  | install extension => exact (refuses_whenReady _).done
  | run text => exact (refuses_whenReady _).done
  | runFile file => exact (refuses_whenReady _).done
  | eval text => exact (refuses_whenReady _).map _
  | global name => exact (refuses_whenReady _).map _
  | setGlobal name value => exact (refuses_whenReady _).done
  | call name arguments => exact (refuses_whenReady _).map _
  | hasFunction name => exact fallible.elim
  | createObject name arguments => exact (refuses_whenReady _).map _
  | insertObject body => exact (refuses_whenReady _).map _
  | readObject handle type => exact (refuses_whenReady _).bind _
  | callMethod receiver name arguments => exact (refuses_whenReady _).map _
  | getField receiver name => exact (refuses_whenReady _).map _
  | setField receiver name value => exact (refuses_whenReady _).done
  | typeName handle => exact (refuses_whenReady _).map _
  | isLive handle => exact fallible.elim
  | release handle => exact (refuses_whenReady _).done
  | collect => exact (refuses_whenReady _).map _
  | takeOutput => exact fallible.elim
  | statistics => exact fallible.elim
  | phase => exact fallible.elim

theorem perform_refused {operation : Operation} (fallible : operation.MayFail)
    (starts : operation ≠ .start) (ends : operation ≠ .teardown)
    (unready : session.phase ≠ .ready) :
    session.perform operation = (.error session.phase.refusal, session) := by
  unfold perform
  rw [refuses_perform fallible starts ends session unready]

theorem perform_closed (closed : session.phase = .tornDown) {operation : Operation}
    (fallible : operation.MayFail) :
    session.perform operation = (.error .sessionClosed, session) := by
  by_cases starts : operation = .start
  · subst starts
    apply perform_done_error rfl
    rw [start, closed]
  · by_cases ends : operation = .teardown
    · subst ends
      apply perform_done_error rfl
      rw [teardown, closed]
    · have unready : session.phase ≠ .ready := by
        rw [closed]
        exact nofun
      rw [perform_refused fallible starts ends unready, closed]
      rfl

theorem perform_start_eq (session : Session) :
    ∃ phase, (session.perform .start).2 = { session with phase := phase } := by
  cases phase : session.phase with
  | uninitialized =>
      rw [perform_done_ok rfl (start_eq phase)]
      exact ⟨_, rfl⟩
  | ready =>
      have failed : start session =
          .error (.invalidState "session is already initialized") session := by
        rw [start, phase]
      rw [perform_done_error rfl failed]
      exact ⟨session.phase, rfl⟩
  | tornDown =>
      have fallible : Operation.MayFail .start := trivial
      rw [perform_closed phase fallible]
      exact ⟨session.phase, rfl⟩

/-- An operation that cannot fail changes nothing but the output. -/
theorem perform_infallible {operation : Operation} (infallible : ¬ operation.MayFail)
    (session : Session) :
    ∃ reply output, session.perform operation =
      (.ok reply, session.withMachine { session.machine with output := output }) := by
  cases operation with
  | hasFunction name => exact ⟨_, session.machine.output, rfl⟩
  | isLive handle => exact ⟨_, session.machine.output, rfl⟩
  | takeOutput => exact ⟨_, #[], rfl⟩
  | statistics => exact ⟨_, session.machine.output, rfl⟩
  | phase => exact ⟨_, session.machine.output, rfl⟩
  | _ => exact absurd trivial infallible

theorem registries_start (session : Session) :
    (session.perform .start).2.types = session.types ∧
      (session.perform .start).2.functions = session.functions := by
  obtain ⟨phase, same⟩ := perform_start_eq session
  rw [same]
  exact ⟨rfl, rfl⟩

theorem registries_teardown (session : Session) :
    (session.perform .teardown).2.types = session.types ∧
      (session.perform .teardown).2.functions = session.functions := by
  by_cases closed : session.phase = .tornDown
  · have fallible : Operation.MayFail .teardown := trivial
    rw [perform_closed closed fallible]
    exact ⟨rfl, rfl⟩
  · rw [perform_done_ok rfl (teardown_eq closed)]
    exact ⟨rfl, rfl⟩

theorem Steady.kept {inv : TypeRegistry → FunctionRegistry → Prop}
    (steady : Steady fun session => inv session.types session.functions)
    (kept : inv session.types session.functions) (operation : Operation) :
    inv (session.perform operation).2.types (session.perform operation).2.functions := by
  by_cases starts : operation = .start
  · subst starts
    obtain ⟨types, functions⟩ := registries_start session
    rw [types, functions]
    exact kept
  · by_cases ends : operation = .teardown
    · subst ends
      obtain ⟨types, functions⟩ := registries_teardown session
      rw [types, functions]
      exact kept
    · exact (perform_of_leads (steady.perform_keeps starts ends session kept)).1

theorem Steady.kept_after {inv : TypeRegistry → FunctionRegistry → Prop}
    (steady : Steady fun session => inv session.types session.functions)
    (operations : List Operation) {session : Session}
    (kept : inv session.types session.functions) :
    inv (session.after operations).types (session.after operations).functions := by
  induction operations generalizing session with
  | nil => exact kept
  | cons operation rest ih => exact ih (steady.kept kept operation)

/-- Nothing is live, and no function of a script is left. -/
structure Vacant (session : Session) : Prop where
  dead : ∀ handle, session.isLive handle = false
  counted : session.statistics.liveObjects = 0
  scriptless : session.statistics.scriptFunctions = 0
  nameless : ∀ name, session.hasFunction name = false

theorem vacant_teardown (regular : session.machine.store.heap.Regular)
    (alive : session.phase ≠ .tornDown) : (session.perform .teardown).2.Vacant := by
  rw [perform_done_ok rfl (teardown_eq alive)]
  refine ⟨fun handle => ?_, rfl, rfl, fun name => rfl⟩
  change (session.machine.store.heap.clear.resident? handle).isSome = false
  rw [Heap.resident?_clear regular]
  rfl

theorem Vacant.perform (vacant : session.Vacant) (closed : session.phase = .tornDown)
    (operation : Operation) : (session.perform operation).2.Vacant := by
  by_cases fallible : operation.MayFail
  · rw [perform_closed closed fallible]
    exact vacant
  · obtain ⟨reply, output, same⟩ := perform_infallible fallible session
    rw [same]
    exact ⟨vacant.dead, vacant.counted, vacant.scriptless, vacant.nameless⟩

theorem eq_teardown {operation : Operation} (alive : session.phase ≠ .tornDown)
    (closed : (session.perform operation).2.phase = .tornDown) : operation = .teardown := by
  rw [phase_perform] at closed
  cases operation with
  | teardown => rfl
  | start =>
      cases phase : session.phase with
      | uninitialized =>
          rw [phase] at closed
          cases closed
      | ready =>
          rw [phase] at closed
          cases closed
      | tornDown => exact absurd phase alive
  | _ => exact absurd closed alive

theorem Reachable.vacant (reachable : session.Reachable) (closed : session.phase = .tornDown) :
    session.Vacant := by
  induction reachable with
  | created configuration => cases closed
  | @performed session operation reachable ih =>
      by_cases earlier : session.phase = .tornDown
      · exact (ih earlier).perform earlier operation
      · obtain rfl := eq_teardown earlier closed
        exact vacant_teardown (reachable.sound earlier).machine.accounts.regular earlier

/-- Over every run, the phase of a session changes by starting and tearing down only. An operation
that may fail is refused before the start and after the teardown, whatever it is given, and changes
nothing; the others never fail. From the teardown on nothing is live. -/
theorem lifecycle (reachable : session.Reachable) :
    (∀ operations : List Operation, (session.after operations).phase =
      operations.foldl (fun phase operation => operation.nextPhase phase) session.phase) ∧
    (session.phase = .uninitialized → ∀ operation : Operation, operation.MayFail →
      operation ≠ .start → operation ≠ .teardown →
        session.perform operation = (.error .notInitialized, session)) ∧
    (session.phase = .tornDown → ∀ operation : Operation, operation.MayFail →
      session.perform operation = (.error .sessionClosed, session)) ∧
    (∀ operation : Operation, ¬ operation.MayFail →
      ∃ reply, (session.perform operation).1 = .ok reply) ∧
    (session.phase = .tornDown → ∀ operations, (session.after operations).Vacant) := by
  refine ⟨phase_after session, fun fresh operation fallible starts ends => ?_,
    fun closed operation fallible => perform_closed closed fallible,
    fun operation infallible => ?_, fun closed operations => ?_⟩
  · have unready : session.phase ≠ .ready := by
      rw [fresh]
      exact nofun
    rw [perform_refused fallible starts ends unready, fresh]
    rfl
  · obtain ⟨reply, output, same⟩ := perform_infallible infallible session
    exact ⟨reply, congrArg Prod.fst same⟩
  · apply (reachable.after operations).vacant
    rw [phase_after, closed]
    induction operations with
    | nil => rfl
    | cons operation rest ih =>
        rw [List.foldl_cons]
        cases operation <;> exact ih

/-- A token is gone with the session that it was live in, and no script brings it back. -/
theorem token_is_gone : holding.isLive ⟨0, 0⟩ = true ∧
    (holding.after [.teardown]).phase = .tornDown ∧ (holding.after [.teardown]).Vacant ∧
    ∀ text, (holding.after [.teardown]).perform (.run text) =
      (.error .sessionClosed, holding.after [.teardown]) := by
  have live : holding.isLive ⟨0, 0⟩ = true := by decide +kernel
  have closed : (holding.after [.teardown]).phase = .tornDown := by decide +kernel
  obtain ⟨_, _, refused, _, vacant⟩ := lifecycle (holding_reachable.after [.teardown])
  exact ⟨live, closed, vacant closed [], fun text => refused closed (.run text) trivial⟩

end Session
end ScriptHost
